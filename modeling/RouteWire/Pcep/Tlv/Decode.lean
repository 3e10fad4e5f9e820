import RouteWire.Pcep.Mismatch
import RouteWire.Pcep.Scan
import RouteWire.Pcep.Tlv.Basic
/-!
Reading TLVs. A TLV is a code and the length of its value, two octets each, then the value, then
padding to four octets. The last padding of an enclosing element may be cut short.

The code decides, through the registry, as which kind the value is read. A value that is read sees
nothing but its own octets, and what its kind leaves of them is not looked at.
-/
namespace RouteWire.Pcep

inductive TlvReadError where
  | endOfInput
  | truncatedHeader (mismatch : LengthMismatch)
  | invalidLength (mismatch : LengthMismatch)
  | invalidValueLength (mismatch : ValueLengthMismatch)
  | unalignedValueLength (mismatch : ValueLengthMismatch)
  | undefinedBindingType (code : UInt8)
  | unknownRsvpErrorSpec (specClass specType : UInt8)
  deriving DecidableEq, Repr

instance : EndOfInput TlvReadError := ⟨.endOfInput⟩

def TlvReadError.message? : TlvReadError → Option String
  | truncatedHeader mismatch | invalidLength mismatch => some mismatch.message
  | invalidValueLength mismatch | unalignedValueLength mismatch => some mismatch.message
  | endOfInput | undefinedBindingType _ | unknownRsvpErrorSpec .. => none

namespace Tlv

def framing : Framing UInt16 TlvReadError where
  cut := fun slice =>
    match slice.split? 4 with
    | none => .error (slice.failure (.truncatedHeader ⟨4, slice.octets.length⟩))
    | some (header, behind) =>
      let length := beValue (header.octets.drop 2)
      match behind.split? length with
      | none => .error (slice.failure (.invalidLength ⟨length, behind.octets.length⟩))
      | some (value, rest) =>
        .ok (⟨slice, UInt16.ofNat (beValue (header.octets.take 2)), value⟩,
          rest.skip (padding length))
  shrinks := by
    intro slice rest frame found
    split at found
    · cases found
    · next header behind cut =>
      dsimp only at found
      split at found
      · cases found
      · next value behindValue cutValue =>
        cases found
        obtain ⟨whole, length, -, -⟩ := Slice.octets_of_split? cut
        obtain ⟨wholeBehind, -, -, -⟩ := Slice.octets_of_split? cutValue
        rw [whole, wholeBehind, List.length_append, List.length_append, length, Slice.skip,
          List.length_drop]
        omega

def exactLength (kind : TlvKind) (length : Nat) : Reader TlvReadError Unit :=
  Reader.exactly length fun actual => .invalidValueLength ⟨CodePoint.code kind, length, actual⟩

def leastLength (kind : TlvKind) (length : Nat) : Reader TlvReadError Unit :=
  Reader.atLeast length fun actual => .invalidValueLength ⟨CodePoint.code kind, length, actual⟩

def wholeEntries (kind : TlvKind) (entry : Nat) : Reader TlvReadError Unit :=
  Reader.multipleOf entry fun actual => .unalignedValueLength ⟨CodePoint.code kind, entry, actual⟩

def readWord (kind : TlvKind) : Reader TlvReadError UInt32 := do
  exactLength kind 4
  Reader.word32

def readWords (kind : TlvKind) : Reader TlvReadError (List UInt16) := do
  wholeEntries kind 2
  Reader.many 2 fun octets => UInt16.ofNat (beValue octets)

def readVendorSubTlvs : Reader TlvReadError (List VendorSubTlv) :=
  framing.readAll fun frame => .ok ⟨frame.header, frame.value.octets⟩

def readVendorInformation (registry : Registry) : Reader TlvReadError VendorInformation := do
  leastLength .vendorInformation 4
  let enterprise ← Reader.word32
  if registry.hasVendor enterprise then
    let records ← readVendorSubTlvs
    pure ⟨enterprise, .subTlvs records⟩
  else
    let octets ← Reader.remaining
    pure ⟨enterprise, .unstructured octets⟩

def readStatefulPceCapability : Reader TlvReadError StatefulPceCapability := do
  let word ← readWord .statefulPceCapability
  let flag := word.toNat.testBit
  pure
    { lspUpdate := flag 0
      includeDbVersion := flag 1
      lspInstantiation := flag 2
      triggeredResync := flag 3
      deltaLspSync := flag 4
      triggeredInitialSync := flag 5 }

def readLspIdentifiers {α : Type} (address : Reader TlvReadError α) :
    Reader TlvReadError (LspIdentifiers α) := do
  let tunnelSender ← address
  let lspId ← Reader.word16
  let tunnelId ← Reader.word16
  let extendedTunnelId ← address
  let tunnelEndpoint ← address
  pure { tunnelSender, lspId, tunnelId, extendedTunnelId, tunnelEndpoint }

def readErrorSpec (node : Address) : Reader TlvReadError RsvpErrorSpec := do
  let flags ← Reader.octet
  let code ← Reader.octet
  let value ← Reader.word16
  pure (.errorSpec node flags code value)

def readUserErrorSpec : Reader TlvReadError UserErrorSpec := do
  Reader.atLeast 8 fun actual =>
    .invalidValueLength ⟨CodePoint.code TlvKind.rsvpErrorSpec, 12, 4 + actual⟩
  let enterprise ← Reader.word32
  let subOrganisation ← Reader.octet
  let length ← Reader.octet
  let value ← Reader.word16
  let needed := padded length.toNat
  Reader.atLeast needed fun actual => .invalidLength ⟨needed, actual⟩
  let description ← Reader.take length.toNat
  let _padding ← Reader.take (padding length.toNat)
  let subobjects ← Reader.remaining
  pure { enterprise, subOrganisation, value, description, subobjects }

/-- Reads a signalling error: an object with a header of its own that fills the value. -/
def readRsvpErrorSpec : Reader TlvReadError RsvpErrorSpec := do
  let kind := TlvKind.rsvpErrorSpec
  leastLength kind 4
  let (length, specClass, specType) ← Reader.peek do
    let length ← Reader.word16
    let specClass ← Reader.octet
    let specType ← Reader.octet
    pure (length, specClass, specType)
  exactLength kind length.toNat
  if specClass = 6 ∧ specType = 1 then
    exactLength kind 12
    let _header ← Reader.take 4
    let node ← Ipv4.read
    readErrorSpec (.ipv4 node)
  else if specClass = 6 ∧ specType = 2 then
    exactLength kind 24
    let _header ← Reader.take 4
    let node ← Ipv6.read
    readErrorSpec (.ipv6 node)
  else if specClass = 194 ∧ specType = 1 then
    let _header ← Reader.take 4
    let spec ← readUserErrorSpec
    pure (.userErrorSpec spec)
  else
    Reader.fail (.unknownRsvpErrorSpec specClass specType)

def rangeOfOctets (octets : List UInt8) : AssociationRange where
  associationType := UInt16.ofNat (beValue ((octets.drop 2).take 2))
  startId := UInt16.ofNat (beValue ((octets.drop 4).take 2))
  range := UInt16.ofNat (beValue ((octets.drop 6).take 2))

def readSrPceCapability : Reader TlvReadError SrPceCapability := do
  Reader.exactly 4 fun actual => .invalidValueLength ⟨SrPceCapability.subTlvCode, 4, actual⟩
  let _reserved ← Reader.word16
  let flags ← Reader.octet
  let maximumDepth ← Reader.octet
  pure
    { naiResolution := flags.toNat.testBit 1
      unlimitedDepth := flags.toNat.testBit 0
      maximumDepth }

def readSetupTypeSubTlv (frame : Frame UInt16) : Except (Failure TlvReadError) SetupTypeSubTlv :=
  if frame.header = SrPceCapability.subTlvCode then
    match readSrPceCapability.inside frame.value with
    | .error failure => .error failure
    | .ok capability => .ok (.srPceCapability capability)
  else
    .ok (.unknown frame.header frame.value.octets)

def readPathSetupTypeCapability : Reader TlvReadError PathSetupTypeCapability := do
  let kind := TlvKind.pathSetupTypeCapability
  leastLength kind 4
  let count ← Reader.peek do
    let _reserved ← Reader.take 3
    Reader.octet
  leastLength kind (4 + padded count.toNat)
  let _header ← Reader.take 4
  let types ← Reader.take count.toNat
  let _padding ← Reader.take (padding count.toNat)
  let subTlvs ← framing.readAll readSetupTypeSubTlv
  pure { types, subTlvs }

def readBindingValue : BindingType → Reader TlvReadError BindingValue
  | .mplsLabel => do
    let word ← Reader.number 3
    pure (.mplsLabel (UInt32.ofNat (word / 16)))
  | .mplsLabelEntry => do
    let entry ← Reader.number 4
    pure (.mplsLabelEntry (UInt32.ofNat (entry / 4096)) (UInt8.ofNat (entry / 512 % 8))
      (entry.testBit 8) (UInt8.ofNat (entry % 256)))
  | .srv6 => do
    let sid ← Ipv6.read
    pure (.srv6 sid)
  | .srv6Behavior => do
    let sid ← Ipv6.read
    let _reserved ← Reader.word16
    let behavior ← Reader.word16
    let parts ← SidStructure.read
    pure (.srv6Behavior sid behavior parts)

def readPathBinding : Reader TlvReadError PathBinding := do
  let kind := TlvKind.pathBinding
  leastLength kind 4
  let type : BindingType ←
    Reader.peek (Reader.octet.convert (CodePoint.ofCode TlvReadError.undefinedBindingType))
  exactLength kind (4 + type.valueLength)
  let _type ← Reader.octet
  let flags ← Reader.octet
  let _reserved ← Reader.word16
  let value ← readBindingValue type
  pure { removal := flags.toNat.testBit 7, value }

def readValue (registry : Registry) : TlvKind → Reader TlvReadError Tlv
  | .noPathVector => do
    let flags ← readWord .noPathVector
    pure (.noPathVector ⟨flags⟩)
  | .overloadDuration => do
    let seconds ← readWord .overloadDuration
    pure (.overloadDuration seconds)
  | .requestMissing => do
    let requestId ← readWord .requestMissing
    pure (.requestMissing requestId)
  | .objectiveFunctionList => do
    let codes ← readWords .objectiveFunctionList
    pure (.objectiveFunctionList codes)
  | .order => do
    exactLength .order 8
    let delete ← Reader.word32
    let setup ← Reader.word32
    pure (.order delete setup)
  | .vendorInformation => do
    let information ← readVendorInformation registry
    pure (.vendorInformation information)
  | .statefulPceCapability => do
    let capability ← readStatefulPceCapability
    pure (.statefulPceCapability capability)
  | .symbolicPathName => do
    let name ← Reader.remaining
    pure (.symbolicPathName name)
  | .ipv4LspIdentifiers => do
    exactLength .ipv4LspIdentifiers 16
    let identifiers ← readLspIdentifiers Ipv4.read
    pure (.ipv4LspIdentifiers identifiers)
  | .ipv6LspIdentifiers => do
    exactLength .ipv6LspIdentifiers 52
    let identifiers ← readLspIdentifiers Ipv6.read
    pure (.ipv6LspIdentifiers identifiers)
  | .lspErrorCode => do
    let code ← readWord .lspErrorCode
    pure (.lspErrorCode code)
  | .rsvpErrorSpec => do
    let spec ← readRsvpErrorSpec
    pure (.rsvpErrorSpec spec)
  | .lspDbVersion => do
    exactLength .lspDbVersion 8
    let version ← Reader.word64
    pure (.lspDbVersion version)
  | .speakerEntityId => do
    let id ← Reader.remaining
    pure (.speakerEntityId id)
  | .pathSetupType => do
    exactLength .pathSetupType 4
    let _reserved ← Reader.take 3
    let type ← Reader.octet
    pure (.pathSetupType type)
  | .associationRanges => do
    wholeEntries .associationRanges 8
    let ranges ← Reader.many 8 rangeOfOctets
    pure (.associationRanges ranges)
  | .pathSetupTypeCapability => do
    let capability ← readPathSetupTypeCapability
    pure (.pathSetupTypeCapability capability)
  | .associationTypeList => do
    let types ← readWords .associationTypeList
    pure (.associationTypeList types)
  | .pathBinding => do
    let binding ← readPathBinding
    pure (.pathBinding binding)

def ofFrame : FrameReader UInt16 TlvReadError (Option Tlv) := ⟨fun frame session =>
  match session.registry.tlv? frame.header with
  | none => (.ok none, session.skip (.unknownTlv frame.header))
  | some kind =>
    match (readValue session.registry kind).inside frame.value with
    | .error failure => (.error failure, session)
    | .ok tlv => (.ok (some tlv), session)⟩

def scan : Scan TlvReadError (Option Tlv) := .element framing ofFrame

def scanAll : Scan TlvReadError (List Tlv) := .elements framing ofFrame

end Tlv
end RouteWire.Pcep
