import RouteWire.Address.Network
import RouteWire.Pcep.CodePoints
import RouteWire.Pcep.SidStructure
/-!
TLVs: typed values of a length of their own that objects carry.
-/
namespace RouteWire.Pcep

structure NoPathVector where
  flags : UInt32
  deriving DecidableEq, Repr

def NoPathVector.pceUnavailable (vector : NoPathVector) : Bool := vector.flags.toNat.testBit 0

def NoPathVector.unknownDestination (vector : NoPathVector) : Bool := vector.flags.toNat.testBit 1

def NoPathVector.unknownSource (vector : NoPathVector) : Bool := vector.flags.toNat.testBit 2

structure VendorSubTlv where
  code : UInt16
  value : List UInt8
  deriving DecidableEq, Repr

/-- The information of an enterprise: records, or octets whose meaning is not known. -/
inductive VendorPayload where
  | subTlvs (records : List VendorSubTlv)
  | unstructured (octets : List UInt8)
  deriving DecidableEq, Repr

structure VendorInformation where
  enterprise : UInt32
  payload : VendorPayload
  deriving DecidableEq, Repr

structure StatefulPceCapability where
  lspUpdate : Bool
  includeDbVersion : Bool
  lspInstantiation : Bool
  triggeredResync : Bool
  deltaLspSync : Bool
  triggeredInitialSync : Bool
  deriving DecidableEq, Repr

structure LspIdentifiers (α : Type) where
  tunnelSender : α
  lspId : UInt16
  tunnelId : UInt16
  extendedTunnelId : α
  tunnelEndpoint : α
  deriving DecidableEq, Repr

structure UserErrorSpec where
  enterprise : UInt32
  subOrganisation : UInt8
  value : UInt16
  description : List UInt8
  subobjects : List UInt8
  deriving DecidableEq, Repr

inductive RsvpErrorSpec where
  | errorSpec (node : Address) (flags code : UInt8) (value : UInt16)
  | userErrorSpec (spec : UserErrorSpec)
  deriving DecidableEq, Repr

structure AssociationRange where
  associationType : UInt16
  startId : UInt16
  range : UInt16
  deriving DecidableEq, Repr

structure SrPceCapability where
  naiResolution : Bool
  unlimitedDepth : Bool
  maximumDepth : UInt8
  deriving DecidableEq, Repr

inductive SetupTypeSubTlv where
  | srPceCapability (capability : SrPceCapability)
  | unknown (code : UInt16) (value : List UInt8)
  deriving DecidableEq, Repr

def SrPceCapability.subTlvCode : UInt16 := 26

structure PathSetupTypeCapability where
  types : List UInt8
  subTlvs : List SetupTypeSubTlv
  deriving DecidableEq, Repr

inductive BindingValue where
  | mplsLabel (label : UInt32)
  | mplsLabelEntry (label : UInt32) (trafficClass : UInt8) (bottomOfStack : Bool) (ttl : UInt8)
  | srv6 (sid : Ipv6)
  | srv6Behavior (sid : Ipv6) (behavior : UInt16) (parts : SidStructure)
  deriving DecidableEq, Repr

def BindingValue.type : BindingValue → BindingType
  | mplsLabel _ => .mplsLabel
  | mplsLabelEntry .. => .mplsLabelEntry
  | srv6 _ => .srv6
  | srv6Behavior .. => .srv6Behavior

def BindingValue.valueLength (value : BindingValue) : Nat := value.type.valueLength

structure PathBinding where
  removal : Bool
  value : BindingValue
  deriving DecidableEq, Repr

inductive Tlv where
  | noPathVector (vector : NoPathVector)
  | overloadDuration (seconds : UInt32)
  | requestMissing (requestId : UInt32)
  | objectiveFunctionList (codes : List UInt16)
  | order (delete setup : UInt32)
  | vendorInformation (information : VendorInformation)
  | statefulPceCapability (capability : StatefulPceCapability)
  | symbolicPathName (name : List UInt8)
  | ipv4LspIdentifiers (identifiers : LspIdentifiers Ipv4)
  | ipv6LspIdentifiers (identifiers : LspIdentifiers Ipv6)
  | lspErrorCode (code : UInt32)
  | rsvpErrorSpec (spec : RsvpErrorSpec)
  | lspDbVersion (version : UInt64)
  | speakerEntityId (id : List UInt8)
  | pathSetupType (type : UInt8)
  | associationRanges (ranges : List AssociationRange)
  | pathSetupTypeCapability (capability : PathSetupTypeCapability)
  | associationTypeList (types : List UInt16)
  | pathBinding (binding : PathBinding)
  deriving DecidableEq, Repr

namespace Tlv

def kind : Tlv → TlvKind
  | noPathVector _ => .noPathVector
  | overloadDuration _ => .overloadDuration
  | requestMissing _ => .requestMissing
  | objectiveFunctionList _ => .objectiveFunctionList
  | order .. => .order
  | vendorInformation _ => .vendorInformation
  | statefulPceCapability _ => .statefulPceCapability
  | symbolicPathName _ => .symbolicPathName
  | ipv4LspIdentifiers _ => .ipv4LspIdentifiers
  | ipv6LspIdentifiers _ => .ipv6LspIdentifiers
  | lspErrorCode _ => .lspErrorCode
  | rsvpErrorSpec _ => .rsvpErrorSpec
  | lspDbVersion _ => .lspDbVersion
  | speakerEntityId _ => .speakerEntityId
  | pathSetupType _ => .pathSetupType
  | associationRanges _ => .associationRanges
  | pathSetupTypeCapability _ => .pathSetupTypeCapability
  | associationTypeList _ => .associationTypeList
  | pathBinding _ => .pathBinding

def code (tlv : Tlv) : UInt16 := CodePoint.code tlv.kind

end Tlv
end RouteWire.Pcep
