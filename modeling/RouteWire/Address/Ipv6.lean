import RouteWire.Address.Ipv4
import RouteWire.Framing
/-!
IPv6 addresses: on the wire, and as text.

An address is printed in lower case without leading zeros, the first of the longest runs of two or
more zero groups as `::`. An address whose first 96 bits are those of an IPv4-mapped one is printed as
`::ffff:` and dotted decimal.

Main statements: `length_octets`, `ofOctets_octets`.
-/
namespace RouteWire

structure Ipv6 where
  bits : BitVec 128
  deriving DecidableEq, Repr, Inhabited

namespace Ipv6

def octets (address : Ipv6) : List UInt8 := beOctets 16 address.bits.toNat

def ofOctets (octets : List UInt8) : Ipv6 := ⟨BitVec.ofNat 128 (beValue octets)⟩

@[simp] theorem length_octets (address : Ipv6) : address.octets.length = 16 := length_beOctets ..

@[simp] theorem ofOctets_octets (address : Ipv6) : ofOctets address.octets = address := by
  rw [ofOctets, octets, beValue_beOctets_of_lt address.bits.isLt, BitVec.ofNat_toNat,
    BitVec.setWidth_eq]

def read {ε : Type} [EndOfInput ε] : Reader ε Ipv6 := do
  let octets ← Reader.take 16
  pure (ofOctets octets)

def groups (address : Ipv6) : List Nat :=
  (pieces 2 address.octets).map beValue

def ofGroups (groups : List Nat) : Ipv6 :=
  ⟨BitVec.ofNat 128 (groups.foldl (fun value group => value * 65536 + group) 0)⟩

def zeroRun (groups : List Nat) : Nat := (groups.takeWhile (· = 0)).length

def longestZeroRun (groups : List Nat) : Nat × Nat :=
  (List.range groups.length).foldl
    (fun best i => if best.2 < zeroRun (groups.drop i) then (i, zeroRun (groups.drop i)) else best)
    (0, 0)

def groupsText (groups : List Nat) : String :=
  ":".intercalate (groups.map fun group => String.ofList (Nat.toDigits 16 group))

def toText (address : Ipv6) : String :=
  if address.groups.take 6 = [0, 0, 0, 0, 0, 0xffff] then
    "::ffff:" ++ (Ipv4.ofOctets (address.octets.drop 12)).toText
  else
    let (start, length) := longestZeroRun address.groups
    if 2 ≤ length then
      groupsText (address.groups.take start) ++ "::" ++
        groupsText (address.groups.drop (start + length))
    else
      groupsText address.groups

/-- The groups of one piece between colons: one in hexadecimal, or two in what `dotted?` reads. -/
def pieceGroups? (dotted? : List Char → Option Ipv4) (piece : List Char) : Option (List Nat) :=
  match Text.numeral? 16 4 piece with
  | some group => some [group]
  | none =>
    (dotted? piece).map fun address => [address.bits.toNat / 65536, address.bits.toNat % 65536]

/-- The groups of text with single colons; none for the empty text. The last two groups may be in
what `dotted?` reads. -/
def groupsOfText? (dotted? : List Char → Option Ipv4) (text : List Char) : Option (List Nat) :=
  if text.isEmpty then
    some []
  else do
    let pieces := Text.pieces ':' text
    let front ← pieces.dropLast.mapM (pieceGroups? fun _ => none)
    let last ← pieces.getLast?.bind (pieceGroups? dotted?)
    return front.flatten ++ last

def splitDoubleColon : List Char → Option (List Char × List Char)
  | ':' :: ':' :: rest => some ([], rest)
  | c :: rest => (splitDoubleColon rest).map fun (before, behind) => (c :: before, behind)
  | [] => none

/-- Reads eight groups, or up to `most` with one double colon in place of the missing ones, where no
more than seven stand before it. The last two groups may be in what `dotted?` reads. -/
def ofGroupsText? (dotted? : List Char → Option Ipv4) (most : Nat) (text : List Char) :
    Option Ipv6 := do
  match splitDoubleColon text with
  | none =>
    let groups ← groupsOfText? dotted? text
    if groups.length = 8 then some (ofGroups groups) else none
  | some (before, behind) =>
    let front ← groupsOfText? (fun _ => none) before
    let back ← groupsOfText? dotted? behind
    if front.length ≤ 7 ∧ front.length + back.length ≤ most then
      some (ofGroups (front ++ List.replicate (8 - front.length - back.length) 0 ++ back))
    else
      none

def ofText? : List Char → Option Ipv6 := ofGroupsText? Ipv4.ofText? 7

/-- Reads the text of an address in which a double colon may stand for no group at all, and dotted
decimal may have leading zeros. -/
def ofPaddedText? : List Char → Option Ipv6 := ofGroupsText? Ipv4.ofPaddedText? 8

end Ipv6
end RouteWire
