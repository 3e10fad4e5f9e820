import RouteWire.Pcep.ObjectKind
import RouteWire.Table
/-!
The registry of PCEP: which codes on the wire are known, and as what each of them is read. A code can
be registered as any kind of its sort; a later registration of a code replaces an earlier one.

Kinds come in groups that belong together. An extension is such a group, and enabling it registers
each of its kinds under its own code.

The tables hold kinds, each of which stands for one reader of the library, and enterprises, whose
information is read as sub-TLVs by one reader of the library too. So a registry is any assignment of
these readers to codes. Registries with readers from outside of the library are not modelled, and nothing
is said of them.

Main statements: `tlv?_registerTlv` and its companions say what a registration does to every code.
-/
namespace RouteWire.Pcep

/-- What is known, by the codes of the wire: each of them as a kind, and so as one of the readers of the
library. -/
structure Registry where
  objects : Table ObjectCodes ObjectKind
  tlvs : Table UInt16 TlvKind
  /-- The enterprises whose information is made of sub-TLVs. -/
  vendors : Table UInt32 Unit
  ero : Table UInt8 EroKind
  xro : Table UInt8 XroKind
  rro : Table UInt8 RroKind

namespace Registry

def empty : Registry := ⟨∅, ∅, ∅, ∅, ∅, ∅⟩

def object? (registry : Registry) (codes : ObjectCodes) : Option ObjectKind :=
  registry.objects.get? codes

def hasClass (registry : Registry) (objectClass : UInt8) : Bool :=
  registry.objects.keys.any fun codes => codes.objectClass = objectClass

def tlv? (registry : Registry) (code : UInt16) : Option TlvKind := registry.tlvs.get? code

def hasVendor (registry : Registry) (enterprise : UInt32) : Bool :=
  registry.vendors.contains enterprise

def ero? (registry : Registry) (code : UInt8) : Option EroKind := registry.ero.get? code

def xro? (registry : Registry) (code : UInt8) : Option XroKind := registry.xro.get? code

def rro? (registry : Registry) (code : UInt8) : Option RroKind := registry.rro.get? code

def registerObject (registry : Registry) (codes : ObjectCodes) (kind : ObjectKind) : Registry :=
  { registry with objects := registry.objects.insert codes kind }

def registerTlv (registry : Registry) (code : UInt16) (kind : TlvKind) : Registry :=
  { registry with tlvs := registry.tlvs.insert code kind }

def registerVendor (registry : Registry) (enterprise : UInt32) : Registry :=
  { registry with vendors := registry.vendors.insert enterprise () }

def registerEro (registry : Registry) (code : UInt8) (kind : EroKind) : Registry :=
  { registry with ero := registry.ero.insert code kind }

def registerXro (registry : Registry) (code : UInt8) (kind : XroKind) : Registry :=
  { registry with xro := registry.xro.insert code kind }

def registerRro (registry : Registry) (code : UInt8) (kind : RroKind) : Registry :=
  { registry with rro := registry.rro.insert code kind }

theorem object?_registerObject (registry : Registry) (new codes : ObjectCodes)
    (kind : ObjectKind) :
    (registry.registerObject new kind).object? codes =
      if codes = new then some kind else registry.object? codes :=
  Table.get?_insert ..

theorem tlv?_registerTlv (registry : Registry) (new code : UInt16) (kind : TlvKind) :
    (registry.registerTlv new kind).tlv? code = if code = new then some kind else registry.tlv? code :=
  Table.get?_insert ..

theorem ero?_registerEro (registry : Registry) (new code : UInt8) (kind : EroKind) :
    (registry.registerEro new kind).ero? code = if code = new then some kind else registry.ero? code :=
  Table.get?_insert ..

theorem xro?_registerXro (registry : Registry) (new code : UInt8) (kind : XroKind) :
    (registry.registerXro new kind).xro? code = if code = new then some kind else registry.xro? code :=
  Table.get?_insert ..

theorem rro?_registerRro (registry : Registry) (new code : UInt8) (kind : RroKind) :
    (registry.registerRro new kind).rro? code = if code = new then some kind else registry.rro? code :=
  Table.get?_insert ..

theorem hasVendor_registerVendor (registry : Registry) (new enterprise : UInt32) :
    (registry.registerVendor new).hasVendor enterprise =
      (decide (enterprise = new) || registry.hasVendor enterprise) := by
  rw [hasVendor, registerVendor, Table.contains, Table.get?_insert]
  split <;> simp_all [hasVendor, Table.contains]

end Registry

structure Extension where
  objects : List ObjectKind := []
  tlvs : List TlvKind := []
  ero : List EroKind := []
  xro : List XroKind := []
  rro : List RroKind := []

def Registry.enable (registry : Registry) (extension : Extension) : Registry :=
  let registry := extension.objects.foldl (fun r kind => r.registerObject kind.codes kind) registry
  let registry := extension.tlvs.foldl (fun r kind => r.registerTlv (CodePoint.code kind) kind) registry
  let registry := extension.ero.foldl (fun r kind => r.registerEro (CodePoint.code kind) kind) registry
  let registry := extension.xro.foldl (fun r kind => r.registerXro (CodePoint.code kind) kind) registry
  extension.rro.foldl (fun r kind => r.registerRro (CodePoint.code kind) kind) registry

namespace Extension

/-- The protocol itself and its stateless extensions. -/
def base : Extension where
  objects := ObjectKind.all.filter fun kind => kind ≠ .lsp ∧ kind ≠ .srp
  tlvs := [.noPathVector, .overloadDuration, .requestMissing, .objectiveFunctionList, .order,
    .vendorInformation, .associationTypeList, .associationRanges]
  ero := [.ipv4Prefix, .ipv6Prefix, .label, .unnumberedInterface, .asNumber, .pathKeyIpv4,
    .pathKeyIpv6]
  xro := CodePoint.all
  rro := [.ipv4Prefix, .ipv6Prefix, .label, .unnumberedInterface, .pathKeyIpv4, .pathKeyIpv6]

/-- What a speaker that keeps the state of paths adds. -/
def stateful : Extension where
  objects := [.lsp, .srp]
  tlvs := [.statefulPceCapability, .symbolicPathName, .ipv4LspIdentifiers, .ipv6LspIdentifiers,
    .lspErrorCode, .rsvpErrorSpec, .lspDbVersion, .pathBinding, .speakerEntityId]

def segmentRouting : Extension where
  tlvs := [.pathSetupType, .pathSetupTypeCapability]
  ero := [.segmentRouting, .srv6]
  rro := [.segmentRouting]

end Extension

def Registry.full : Registry :=
  ((Registry.empty.enable .base).enable .stateful).enable .segmentRouting

end RouteWire.Pcep
