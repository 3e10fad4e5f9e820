import RouteWire.Pcep.Mismatch
import RouteWire.Pcep.Scan
import RouteWire.Pcep.Subobject.Basic
/-!
Reading subobjects. A subobject is an octet with its code, an octet with its whole length, and its
contents. In explicit routes and in routes to exclude the code has seven bits, behind a flag; these
must not be empty, and a code that is not registered is an error. A reported route may be empty, and
what it has of unknown codes is passed over.
-/
namespace RouteWire.Pcep

inductive SubobjectReadError where
  | endOfInput
  | invalidLength (mismatch : LengthMismatch)
  | unrecognized (code : UInt8)
  | emptyRoute
  | invalidValueLength (mismatch : ValueLengthMismatch)
  | undefinedLabelType (code : UInt8)
  | invalidIpv4PrefixLength (length : UInt8)
  | invalidIpv6PrefixLength (length : UInt8)
  /-- A generalized label is empty or not a multiple of four octets. -/
  | invalidGeneralizedLabelLength (length : Nat)
  | undefinedXroAttribute (code : UInt8)
  | undefinedNaiType (code : UInt8)
  | sidAndNaiAbsent
  deriving DecidableEq, Repr

instance : EndOfInput SubobjectReadError := ⟨.endOfInput⟩

def SubobjectReadError.message? : SubobjectReadError → Option String
  | invalidLength mismatch => some mismatch.message
  | invalidValueLength mismatch => some mismatch.message
  | endOfInput | unrecognized _ | emptyRoute | undefinedLabelType _ | invalidIpv4PrefixLength _
  | invalidIpv6PrefixLength _ | invalidGeneralizedLabelLength _ | undefinedXroAttribute _
  | undefinedNaiType _ | sidAndNaiAbsent => none

namespace Subobject

def misfit (slice : Slice) (length : UInt8) : Failure SubobjectReadError :=
  slice.failure (.invalidLength ⟨length.toNat, slice.octets.length⟩)

def framing : Framing UInt8 SubobjectReadError where
  cut := fun slice =>
    match slice.octets with
    | [] => .error (slice.failure .endOfInput)
    | [_] => .error ((slice.skip 1).failure .endOfInput)
    | header :: length :: contents =>
      if length < 2 then
        .error (misfit slice length)
      else
        match Slice.split? ⟨slice.offset + 2, contents⟩ (length.toNat - 2) with
        | none => .error (misfit slice length)
        | some (value, rest) => .ok (⟨slice, header, value⟩, rest)
  shrinks := by
    intro slice rest frame found
    split at found
    · cases found
    · cases found
    · next header length contents octets =>
      split at found
      · cases found
      · split at found
        · cases found
        · next value behind cut =>
          cases found
          obtain ⟨whole, -, -, -⟩ := Slice.octets_of_split? cut
          have size := congrArg List.length whole
          rw [List.length_append] at size
          rw [octets, List.length_cons, List.length_cons]
          dsimp only at size
          omega

def exactLength (code : UInt16) (length : Nat) : Reader SubobjectReadError Unit :=
  Reader.exactly length fun actual => .invalidValueLength ⟨code, length, actual⟩

def readIpv4Network : Reader SubobjectReadError (Ipv4Network × UInt8) := do
  exactLength 1 6
  Reader.convert
    (do
      let address ← Ipv4.read
      let length ← Reader.octet
      let trailer ← Reader.octet
      pure (address, length, trailer))
    fun (address, length, trailer) =>
      match lengthOfOctet? 33 length with
      | some bits => .ok (⟨address, bits⟩, trailer)
      | none => .error (.invalidIpv4PrefixLength length)

def readIpv6Network : Reader SubobjectReadError (Ipv6Network × UInt8) := do
  exactLength 2 18
  Reader.convert
    (do
      let address ← Ipv6.read
      let length ← Reader.octet
      let trailer ← Reader.octet
      pure (address, length, trailer))
    fun (address, length, trailer) =>
      match lengthOfOctet? 129 length with
      | some bits => .ok (⟨address, bits⟩, trailer)
      | none => .error (.invalidIpv6PrefixLength length)

def readLabel : Reader SubobjectReadError Label := do
  let type ← Reader.octet.convert (CodePoint.ofCode SubobjectReadError.undefinedLabelType)
  match (type : LabelType) with
  | .type1 =>
    exactLength 3 4
    let label ← Reader.word32
    pure (.type1 label)
  | .generalized =>
    let length ← Reader.left
    Reader.require (length ≠ 0 ∧ length % 4 = 0) (.invalidGeneralizedLabelLength length)
    let octets ← Reader.remaining
    pure (.generalized octets)
  | .wavebandSwitching =>
    exactLength 3 12
    let wavebandId ← Reader.word32
    let startLabel ← Reader.word32
    let endLabel ← Reader.word32
    pure (.wavebandSwitching wavebandId startLabel endLabel)

def readUnnumberedInterface : Reader SubobjectReadError UnnumberedInterface := do
  let routerId ← Ipv4.read
  let interfaceId ← Reader.word32
  pure { routerId, interfaceId }

def readAsNumber : Reader SubobjectReadError UInt16 := do
  exactLength 32 2
  Reader.word16

def readPathKeyIpv4 : Reader SubobjectReadError (PathKey Ipv4) := do
  exactLength 64 6
  let key ← Reader.word16
  let pceId ← Ipv4.read
  pure { key, pceId }

def readPathKeyIpv6 : Reader SubobjectReadError (PathKey Ipv6) := do
  exactLength 65 18
  let key ← Reader.word16
  let pceId ← Ipv6.read
  pure { key, pceId }

def readNai : NaiType → Reader SubobjectReadError (Option Nai)
  | .absent => pure none
  | .ipv4NodeId => do
    let node ← Ipv4.read
    pure (some (.ipv4NodeId node))
  | .ipv6NodeId => do
    let node ← Ipv6.read
    pure (some (.ipv6NodeId node))
  | .ipv4Adjacency => do
    let localAddress ← Ipv4.read
    let remoteAddress ← Ipv4.read
    pure (some (.ipv4Adjacency localAddress remoteAddress))
  | .ipv6GlobalAdjacency => do
    let localAddress ← Ipv6.read
    let remoteAddress ← Ipv6.read
    pure (some (.ipv6GlobalAdjacency localAddress remoteAddress))
  | .unnumberedAdjacency => do
    let localNode ← Reader.word32
    let localInterface ← Reader.word32
    let remoteNode ← Reader.word32
    let remoteInterface ← Reader.word32
    pure (some (.unnumberedAdjacency localNode localInterface remoteNode remoteInterface))
  | .ipv6LinkLocalAdjacency => do
    let localAddress ← Ipv6.read
    let localInterface ← Reader.word32
    let remoteAddress ← Ipv6.read
    let remoteInterface ← Reader.word32
    pure (some (.ipv6LinkLocalAdjacency localAddress localInterface remoteAddress remoteInterface))

def readUnless {α : Type} (absent : Bool) (reader : Reader SubobjectReadError α) :
    Reader SubobjectReadError (Option α) :=
  if absent then
    pure none
  else do
    let value ← reader
    pure (some value)

/-- Reads the type of an identifier from the upper half of an octet, and an octet of flags. The two
bits that say that the two identifiers are absent must not both be set. -/
def readSegmentHeader (noSid noNai : Nat) : Reader SubobjectReadError (NaiType × Nat) :=
  Reader.convert
    (do
      let type ← Reader.octet.convert fun octet => CodePoint.ofCode .undefinedNaiType (octet / 16)
      let flags ← Reader.octet
      pure (type, flags.toNat))
    fun (type, flags) =>
      if flags.testBit noSid ∧ flags.testBit noNai then .error .sidAndNaiAbsent
      else .ok (type, flags)

def readSegment : Reader SubobjectReadError Segment := do
  let (naiType, flags) ← readSegmentHeader 2 3
  let sid ← readUnless (flags.testBit 2) Reader.word32
  let nai ← readUnless (flags.testBit 3) (readNai naiType)
  pure
    { naiType
      controlWord := flags.testBit 1
      mplsLabel := flags.testBit 0
      sid
      nai := nai.join }

def readSidStructure : Reader SubobjectReadError SidStructure := do
  let parts ← SidStructure.read
  let _reserved ← Reader.word32
  pure parts

def readSrv6Segment : Reader SubobjectReadError Srv6Segment := do
  let (naiType, flags) ← readSegmentHeader 0 1
  let _reserved ← Reader.word16
  let behavior ← Reader.word16
  let sid ← readUnless (flags.testBit 0) Ipv6.read
  let parts ← readUnless (!flags.testBit 2) readSidStructure
  let nai ← readUnless (flags.testBit 1) (readNai naiType)
  pure
    { naiType
      verification := flags.testBit 3
      behavior
      sid
      parts
      nai := nai.join }

def attributeOfCode (code : UInt8) : Except SubobjectReadError XroAttribute :=
  CodePoint.ofCode .undefinedXroAttribute code

def withAttribute {α : Type} : α × UInt8 → Except SubobjectReadError (α × XroAttribute)
  | (network, code) =>
    match attributeOfCode code with
    | .ok aspect => .ok (network, aspect)
    | .error error => .error error

def readEroValue : EroKind → Reader SubobjectReadError EroValue
  | .ipv4Prefix => do
    let (network, _reserved) ← readIpv4Network
    pure (.ipv4Prefix network)
  | .ipv6Prefix => do
    let (network, _reserved) ← readIpv6Network
    pure (.ipv6Prefix network)
  | .label => do
    let flags ← Reader.octet
    let label ← readLabel
    pure (.label (flags.toNat.testBit 7) label)
  | .unnumberedInterface => do
    exactLength 4 10
    let _reserved ← Reader.word16
    let hop ← readUnnumberedInterface
    pure (.unnumberedInterface hop)
  | .asNumber => do
    let number ← readAsNumber
    pure (.asNumber number)
  | .segmentRouting => do
    let segment ← readSegment
    pure (.segmentRouting segment)
  | .srv6 => do
    let segment ← readSrv6Segment
    pure (.srv6 segment)
  | .pathKeyIpv4 => do
    let key ← readPathKeyIpv4
    pure (.pathKeyIpv4 key)
  | .pathKeyIpv6 => do
    let key ← readPathKeyIpv6
    pure (.pathKeyIpv6 key)

def readXroValue : XroKind → Reader SubobjectReadError XroValue
  | .ipv4Prefix => do
    let (network, aspect) ← readIpv4Network.convert withAttribute
    pure (.ipv4Prefix network aspect)
  | .ipv6Prefix => do
    let (network, aspect) ← readIpv6Network.convert withAttribute
    pure (.ipv6Prefix network aspect)
  | .unnumberedInterface => do
    exactLength 4 10
    let _reserved ← Reader.octet
    let aspect ← Reader.octet.convert attributeOfCode
    let hop ← readUnnumberedInterface
    pure (.unnumberedInterface aspect hop)
  | .asNumber => do
    let number ← readAsNumber
    pure (.asNumber number)
  | .srlg => do
    exactLength 34 6
    let id ← Reader.word32
    let _reserved ← Reader.octet
    let aspect ← Reader.octet.convert attributeOfCode
    pure (.srlg id aspect)
  | .pathKeyIpv4 => do
    let key ← readPathKeyIpv4
    pure (.pathKeyIpv4 key)
  | .pathKeyIpv6 => do
    let key ← readPathKeyIpv6
    pure (.pathKeyIpv6 key)

def readRroValue : RroKind → Reader SubobjectReadError RroSubobject
  | .ipv4Prefix => do
    let (network, flags) ← readIpv4Network
    pure (.ipv4Prefix network (.ofFlags flags))
  | .ipv6Prefix => do
    let (network, flags) ← readIpv6Network
    pure (.ipv6Prefix network (.ofFlags flags))
  | .label => do
    let flags ← Reader.octet
    let label ← readLabel
    pure (.label (flags.toNat.testBit 7) (flags.toNat.testBit 0) label)
  | .unnumberedInterface => do
    exactLength 4 10
    let flags ← Reader.octet
    let _reserved ← Reader.octet
    let hop ← readUnnumberedInterface
    pure (.unnumberedInterface (.ofFlags flags) hop)
  | .segmentRouting => do
    let segment ← readSegment
    pure (.segmentRouting segment)
  | .pathKeyIpv4 => do
    let key ← readPathKeyIpv4
    pure (.pathKeyIpv4 key)
  | .pathKeyIpv6 => do
    let key ← readPathKeyIpv6
    pure (.pathKeyIpv6 key)

def eroOfFrame (registry : Registry) (frame : Frame UInt8) :
    Except (Failure SubobjectReadError) EroSubobject :=
  let code := frame.header % 128
  match registry.ero? code with
  | none => .error (frame.start.failure (.unrecognized code))
  | some kind =>
    match (readEroValue kind).inside frame.value with
    | .error failure => .error failure
    | .ok value => .ok ⟨frame.header.toNat.testBit 7, value⟩

def xroOfFrame (registry : Registry) (frame : Frame UInt8) :
    Except (Failure SubobjectReadError) XroSubobject :=
  let code := frame.header % 128
  match registry.xro? code with
  | none => .error (frame.start.failure (.unrecognized code))
  | some kind =>
    match (readXroValue kind).inside frame.value with
    | .error failure => .error failure
    | .ok value => .ok ⟨frame.header.toNat.testBit 7, value⟩

def rroOfFrame : FrameReader UInt8 SubobjectReadError (Option RroSubobject) := ⟨fun frame session =>
  match session.registry.rro? frame.header with
  | none => (.ok none, session.skip (.unknownRroSubobject frame.header))
  | some kind =>
    match (readRroValue kind).inside frame.value with
    | .error failure => (.error failure, session)
    | .ok subobject => (.ok (some subobject), session)⟩

def readRoute {α : Type} (read : Frame UInt8 → Except (Failure SubobjectReadError) α) :
    Reader SubobjectReadError (List α) := fun slice =>
  if slice.octets.isEmpty then .error (slice.failure .emptyRoute)
  else framing.readAll read slice

def readEro (registry : Registry) : Reader SubobjectReadError (List EroSubobject) :=
  readRoute (eroOfFrame registry)

def readXro (registry : Registry) : Reader SubobjectReadError (List XroSubobject) :=
  readRoute (xroOfFrame registry)

def scanRro : Scan SubobjectReadError (List RroSubobject) := .elements framing rroOfFrame

end Subobject
end RouteWire.Pcep
