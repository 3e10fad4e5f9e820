import RouteWire.Text.Numeral
/-!
Octets as hexadecimal text, two digits for each.
-/
namespace RouteWire.Text

def hexDigit (value : Nat) : Char :=
  Char.ofNat (if value < 10 then '0'.toNat + value else 'a'.toNat + (value - 10))

def hex (octets : List UInt8) : String :=
  String.ofList (octets.flatMap fun octet =>
    [hexDigit (octet.toNat / 16), hexDigit (octet.toNat % 16)])

/-- Reads pairs of digits behind octets that were read before, the last of them first. -/
def readHex (before : List UInt8) : List Char → Option (List UInt8)
  | [] => some before.reverse
  | [_] => none
  | high :: low :: rest =>
    match digitValue? 16 high, digitValue? 16 low with
    | some high, some low => readHex (UInt8.ofNat (high * 16 + low) :: before) rest
    | _, _ => none

def octetsOfHex? (text : List Char) : Option (List UInt8) := readHex [] text

end RouteWire.Text
