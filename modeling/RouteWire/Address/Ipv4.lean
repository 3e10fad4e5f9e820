import RouteWire.Reader
import RouteWire.Text.Numeral
/-!
IPv4 addresses: on the wire, and as dotted decimal text.

Main statements: `length_octets`, `ofOctets_octets`.
-/
namespace RouteWire

structure Ipv4 where
  bits : UInt32
  deriving DecidableEq, Repr, Inhabited

namespace Ipv4

def octets (address : Ipv4) : List UInt8 := word32 address.bits

def ofOctets (octets : List UInt8) : Ipv4 := ⟨UInt32.ofNat (beValue octets)⟩

@[simp] theorem length_octets (address : Ipv4) : address.octets.length = 4 := length_word32 _

@[simp] theorem ofOctets_octets (address : Ipv4) : ofOctets address.octets = address := by
  rw [ofOctets, octets, word32, beValue_beOctets_of_lt address.bits.toNat_lt, UInt32.ofNat_toNat]

def read {ε : Type} [EndOfInput ε] : Reader ε Ipv4 := do
  let octets ← Reader.take 4
  pure (ofOctets octets)

def toText (address : Ipv4) : String :=
  ".".intercalate (address.octets.map fun octet => octet.toNat.repr)

def ofNumerals? (numeral? : List Char → Option Nat) (text : List Char) : Option Ipv4 := do
  let numerals ← (Text.pieces '.' text).mapM numeral?
  if numerals.length = 4 ∧ numerals.all (· < 256) then
    some (ofOctets (numerals.map UInt8.ofNat))
  else
    none

def ofText? : List Char → Option Ipv4 := ofNumerals? (Text.decimal? 3)

/-- Reads dotted decimal text in which a numeral of up to three digits may start with zeros. -/
def ofPaddedText? : List Char → Option Ipv4 := ofNumerals? (Text.numeral? 10 3)

end Ipv4
end RouteWire
