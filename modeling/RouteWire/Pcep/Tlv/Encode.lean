import RouteWire.Pcep.Registry
import RouteWire.Pcep.Tlv.Basic
import RouteWire.Script
/-!
Writing TLVs: the code, the length of the value, the value, and zeros up to four octets. A TLV whose
code is not registered is left out.
-/
namespace RouteWire.Pcep

inductive TlvWriteError where
  | sinkFull
  | valueLengthOverflow (length : Nat)
  | invalidMplsLabel (label : UInt32)
  | invalidTrafficClass (trafficClass : UInt8)
  | pathSetupTypesOverflow (count : Nat)
  | errorDescriptionOverflow (length : Nat)
  deriving DecidableEq, Repr

instance : SinkFull TlvWriteError := ⟨.sinkFull⟩

def tlvOctets (code : UInt16) (value : List UInt8) : List UInt8 :=
  word16 code ++ beOctets 2 value.length ++ padOctets value

def tlvLength (valueLength : Nat) : Nat := padded (4 + valueLength)

def VendorInformation.valueLength (information : VendorInformation) : Nat :=
  4 + match information.payload with
    | .subTlvs records => (records.map fun record => tlvLength record.value.length).foldr (· + ·) 0
    | .unstructured octets => octets.length

def VendorInformation.script (information : VendorInformation) : Script TlvWriteError :=
  .emit (word32 information.enterprise) ++
    match information.payload with
    | .subTlvs records => .concat (records.map fun record =>
        if 65535 < record.value.length then .fail (.valueLengthOverflow record.value.length)
        else .emit (tlvOctets record.code record.value))
    | .unstructured octets => .emit octets

namespace StatefulPceCapability

def octets (capability : StatefulPceCapability) : List UInt8 :=
  beOctets 4 (bitsValue [capability.lspUpdate, capability.includeDbVersion,
    capability.lspInstantiation, capability.triggeredResync, capability.deltaLspSync,
    capability.triggeredInitialSync])

end StatefulPceCapability

def LspIdentifiers.octets {α : Type} (address : α → List UInt8) (identifiers : LspIdentifiers α) :
    List UInt8 :=
  address identifiers.tunnelSender ++ word16 identifiers.lspId ++ word16 identifiers.tunnelId ++
    address identifiers.extendedTunnelId ++ address identifiers.tunnelEndpoint

namespace RsvpErrorSpec

def valueLength : RsvpErrorSpec → Nat
  | errorSpec node _ _ _ => 4 + node.width + 4
  | userErrorSpec spec => 4 + (8 + padded spec.description.length + spec.subobjects.length)

def nodeType : Address → UInt8
  | .ipv4 _ => 1
  | .ipv6 _ => 2

def octets (spec : RsvpErrorSpec) : List UInt8 :=
  beOctets 2 spec.valueLength ++
    match spec with
    | errorSpec node flags code value =>
      [6, nodeType node] ++ node.octets ++ [flags, code] ++ word16 value
    | userErrorSpec spec =>
      [194, 1] ++ word32 spec.enterprise ++
        [spec.subOrganisation, UInt8.ofNat spec.description.length] ++ word16 spec.value ++
        padOctets spec.description ++ spec.subobjects

def check : RsvpErrorSpec → Option TlvWriteError
  | errorSpec .. => none
  | userErrorSpec spec =>
    if 255 < spec.description.length then some (.errorDescriptionOverflow spec.description.length)
    else none

end RsvpErrorSpec

def AssociationRange.octets (range : AssociationRange) : List UInt8 :=
  [0, 0] ++ word16 range.associationType ++ word16 range.startId ++ word16 range.range

def SrPceCapability.octets (capability : SrPceCapability) : List UInt8 :=
  [0, 0, UInt8.ofNat (bitsValue [capability.unlimitedDepth, capability.naiResolution]),
    capability.maximumDepth]

namespace SetupTypeSubTlv

def code : SetupTypeSubTlv → UInt16
  | srPceCapability _ => SrPceCapability.subTlvCode
  | unknown code _ => code

def value : SetupTypeSubTlv → List UInt8
  | srPceCapability capability => capability.octets
  | unknown _ value => value

def valueLength : SetupTypeSubTlv → Nat
  | srPceCapability _ => 4
  | unknown _ value => value.length

end SetupTypeSubTlv

namespace PathSetupTypeCapability

def valueLength (capability : PathSetupTypeCapability) : Nat :=
  4 + padded capability.types.length +
    (capability.subTlvs.map fun record => tlvLength record.valueLength).foldr (· + ·) 0

def octets (capability : PathSetupTypeCapability) : List UInt8 :=
  [0, 0, 0, UInt8.ofNat capability.types.length] ++ padOctets capability.types ++
    capability.subTlvs.flatMap fun record => tlvOctets record.code record.value

def check (capability : PathSetupTypeCapability) : Option TlvWriteError :=
  if 255 < capability.types.length then
    some (.pathSetupTypesOverflow capability.types.length)
  else
    (capability.subTlvs.find? fun record => 65535 < record.valueLength).map fun record =>
      .valueLengthOverflow record.valueLength

end PathSetupTypeCapability

namespace BindingValue

def octets : BindingValue → List UInt8
  | mplsLabel label => beOctets 3 (label.toNat * 16)
  | mplsLabelEntry label trafficClass bottomOfStack ttl =>
    beOctets 4 (label.toNat * 4096 + trafficClass.toNat * 512 + bottomOfStack.toNat * 256 +
      ttl.toNat)
  | srv6 sid => sid.octets
  | srv6Behavior sid behavior parts => sid.octets ++ [0, 0] ++ word16 behavior ++ parts.octets

def check : BindingValue → Option TlvWriteError
  | mplsLabel label => if 0xFFFFF < label then some (.invalidMplsLabel label) else none
  | mplsLabelEntry label trafficClass _ _ =>
    if 0xFFFFF < label then some (.invalidMplsLabel label)
    else if 7 < trafficClass then some (.invalidTrafficClass trafficClass)
    else none
  | srv6 _ | srv6Behavior .. => none

end BindingValue

def PathBinding.octets (binding : PathBinding) : List UInt8 :=
  [CodePoint.code binding.value.type, if binding.removal then 128 else 0, 0, 0] ++
    binding.value.octets

namespace Tlv

def valueLength : Tlv → Nat
  | noPathVector _ | overloadDuration _ | requestMissing _ => 4
  | objectiveFunctionList codes => 2 * codes.length
  | order .. => 8
  | vendorInformation information => information.valueLength
  | statefulPceCapability _ => 4
  | symbolicPathName name => name.length
  | ipv4LspIdentifiers _ => 16
  | ipv6LspIdentifiers _ => 52
  | lspErrorCode _ => 4
  | rsvpErrorSpec spec => spec.valueLength
  | lspDbVersion _ => 8
  | speakerEntityId id => id.length
  | pathSetupType _ => 4
  | associationRanges ranges => 8 * ranges.length
  | pathSetupTypeCapability capability => capability.valueLength
  | associationTypeList types => 2 * types.length
  | pathBinding binding => 4 + binding.value.valueLength

def check : Tlv → Option TlvWriteError
  | rsvpErrorSpec spec => spec.check
  | pathSetupTypeCapability capability => capability.check
  | pathBinding binding => binding.value.check
  | _ => none

def valueScript : Tlv → Script TlvWriteError
  | noPathVector vector => .emit (word32 vector.flags)
  | overloadDuration seconds => .emit (word32 seconds)
  | requestMissing requestId => .emit (word32 requestId)
  | objectiveFunctionList codes => .emit (codes.flatMap word16)
  | order delete setup => .emit (word32 delete ++ word32 setup)
  | vendorInformation information => information.script
  | statefulPceCapability capability => .emit capability.octets
  | symbolicPathName name => .emit name
  | ipv4LspIdentifiers identifiers => .emit (identifiers.octets Ipv4.octets)
  | ipv6LspIdentifiers identifiers => .emit (identifiers.octets Ipv6.octets)
  | lspErrorCode code => .emit (word32 code)
  | rsvpErrorSpec spec => .emit spec.octets
  | lspDbVersion version => .emit (word64 version)
  | speakerEntityId id => .emit id
  | pathSetupType type => .emit [0, 0, 0, type]
  | associationRanges ranges => .emit (ranges.flatMap AssociationRange.octets)
  | pathSetupTypeCapability capability => .emit capability.octets
  | associationTypeList types => .emit (types.flatMap word16)
  | pathBinding binding => .emit binding.octets

def isRegistered (registry : Registry) (tlv : Tlv) : Bool := (registry.tlv? tlv.code).isSome

/-- The length of a TLV on the wire; nothing for one that is left out. -/
def length (registry : Registry) (tlv : Tlv) : Nat :=
  if tlv.isRegistered registry then tlvLength tlv.valueLength else 0

def lengthCheck (length : Nat) : Option TlvWriteError :=
  if 65535 < length then some (.valueLengthOverflow length) else none

def script (registry : Registry) (tlv : Tlv) : Script TlvWriteError :=
  if tlv.isRegistered registry then
    .check tlv.check ++ (.check (lengthCheck tlv.valueLength) ++
      (.emit (word16 tlv.code ++ beOctets 2 tlv.valueLength) ++
        (tlv.valueScript ++ .emit (zeros (padding tlv.valueLength)))))
  else
    .done

def totalLength (registry : Registry) (tlvs : List Tlv) : Nat :=
  (tlvs.map (length registry)).foldr (· + ·) 0

def scriptAll (registry : Registry) (tlvs : List Tlv) : Script TlvWriteError :=
  .concat (tlvs.map (script registry))

end Tlv
end RouteWire.Pcep
