import RouteWire.AddressFamily.Basic
import RouteWire.Table
/-!
The registry of address families: which address type a pair of codes on the wire stands for, and which
codes an address type is written with. Both directions are kept, and registering keeps them in step: a
pair of codes has one address type, and an address type has one pair of codes.
-/
namespace RouteWire

structure FamilyCodes where
  afi : UInt16
  safi : UInt8
  deriving DecidableEq, Repr

def AddressType.codes (type : AddressType) : FamilyCodes :=
  ⟨CodePoint.code type.family, CodePoint.code type.subsequentFamily⟩

def FamilyCodes.unregisteredMessage (codes : FamilyCodes) : String :=
  "unregistered address family afi=" ++ codes.afi.toNat.repr ++ " safi=" ++ codes.safi.toNat.repr

def AddressType.unregisteredMessage (type : AddressType) : String :=
  "unregistered address type " ++ type.name

/-- Address types by their codes, and codes by their address types. -/
structure FamilyRegistry where
  types : Table FamilyCodes AddressType
  codes : Table AddressType FamilyCodes

namespace FamilyRegistry

def empty : FamilyRegistry := ⟨∅, ∅⟩

def typeOf? (registry : FamilyRegistry) (codes : FamilyCodes) : Option AddressType :=
  registry.types.get? codes

def codesOf? (registry : FamilyRegistry) (type : AddressType) : Option FamilyCodes :=
  registry.codes.get? type

def size (registry : FamilyRegistry) : Nat := registry.types.size

def forgetTypeOf (registry : FamilyRegistry) (codes : FamilyCodes) : Table AddressType FamilyCodes :=
  match registry.typeOf? codes with
  | some old => registry.codes.erase old
  | none => registry.codes

def register (registry : FamilyRegistry) (codes : FamilyCodes) (type : AddressType) :
    FamilyRegistry :=
  let types := registry.types.insert codes type
  let remaining := registry.forgetTypeOf codes
  { types :=
      match remaining.get? type with
      | some old => if old = codes then types else types.erase old
      | none => types
    codes := remaining.insert type codes }

def registerAssigned (registry : FamilyRegistry) (type : AddressType) : FamilyRegistry :=
  registry.register type.codes type

def full : FamilyRegistry := AddressType.all.foldl registerAssigned empty

end FamilyRegistry
end RouteWire
