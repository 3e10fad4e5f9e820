import RouteWire.Address.Ipv6
/-!
Addresses of either family, and networks: an address with the length of its network part. Host bits
are kept.

The text of a network is read more leniently than that of an address: numerals may start with zeros,
and a double colon may stand for no group at all.
-/
namespace RouteWire

inductive Address where
  | ipv4 (address : Ipv4)
  | ipv6 (address : Ipv6)
  deriving DecidableEq, Repr

namespace Address

def octets : Address → List UInt8
  | ipv4 address => address.octets
  | ipv6 address => address.octets

def width : Address → Nat
  | ipv4 _ => 4
  | ipv6 _ => 16

@[simp] theorem length_octets (address : Address) : address.octets.length = address.width := by
  cases address
  · exact Ipv4.length_octets _
  · exact Ipv6.length_octets _

def toText : Address → String
  | ipv4 address => address.toText
  | ipv6 address => address.toText

def ofText? (text : List Char) : Option Address :=
  match Ipv4.ofText? text with
  | some address => some (ipv4 address)
  | none => (Ipv6.ofText? text).map ipv6

end Address

structure Ipv4Network where
  address : Ipv4
  length : Fin 33
  deriving DecidableEq, Repr

structure Ipv6Network where
  address : Ipv6
  length : Fin 129
  deriving DecidableEq, Repr

def lengthOctet {bound : Nat} (length : Fin bound) : UInt8 := UInt8.ofNat length.val

def lengthOfOctet? (bound : Nat) (octet : UInt8) : Option (Fin bound) :=
  if h : octet.toNat < bound then some ⟨octet.toNat, h⟩ else none

theorem lengthOfOctet?_lengthOctet {bound : Nat} (small : bound ≤ 256) (length : Fin bound) :
    lengthOfOctet? bound (lengthOctet length) = some length := by
  have value : (lengthOctet length).toNat = length.val := by
    rw [lengthOctet, UInt8.toNat_ofNat']
    exact Nat.mod_eq_of_lt (by have := length.isLt; omega)
  simp [lengthOfOctet?, value]

def networkOfText? {α : Type} (bound places : Nat) (address? : List Char → Option α)
    (text : List Char) : Option (α × Fin bound) :=
  match Text.pieces '/' text with
  | [front, back] => do
    let address ← address? front
    let length ← Text.numeral? 10 places back
    if h : length < bound then some (address, ⟨length, h⟩) else none
  | _ => none

namespace Ipv4Network

def octets (network : Ipv4Network) : List UInt8 :=
  network.address.octets ++ [lengthOctet network.length]

def toText (network : Ipv4Network) : String :=
  network.address.toText ++ "/" ++ network.length.val.repr

def ofText? (text : List Char) : Option Ipv4Network :=
  (networkOfText? 33 2 Ipv4.ofPaddedText? text).map fun (address, length) => ⟨address, length⟩

end Ipv4Network

namespace Ipv6Network

def octets (network : Ipv6Network) : List UInt8 :=
  network.address.octets ++ [lengthOctet network.length]

def toText (network : Ipv6Network) : String :=
  network.address.toText ++ "/" ++ network.length.val.repr

def ofText? (text : List Char) : Option Ipv6Network :=
  (networkOfText? 129 3 Ipv6.ofPaddedText? text).map fun (address, length) => ⟨address, length⟩

end Ipv6Network
end RouteWire
