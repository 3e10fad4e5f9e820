import RouteWire.Pcep.Object.Basic
import RouteWire.Pcep.Subobject.Decode
/-!
Reading objects. An object has a header of four octets: its class, its type in the upper half of an
octet and flags in the lower, and its whole length, a multiple of four. The body follows.

Class and type decide, through the registry, as which kind the body is read. An object of no known
kind is kept as it is if it must be taken into account, and is dropped otherwise. A body that is read
sees nothing but its own octets, and what its kind leaves of them is not looked at.
-/
namespace RouteWire.Pcep

inductive ObjectReadError where
  | endOfInput
  | truncatedHeader (mismatch : LengthMismatch)
  /-- A length covers not even the header, or is not a multiple of four. -/
  | invalidLength (length : UInt16)
  | lengthMismatch (mismatch : LengthMismatch)
  | bodyTooShort (objectClass : UInt8) (expected available : Nat)
  | unalignedBody (objectClass : UInt8) (elementLength available : Nat)
  | tlv (error : TlvReadError)
  | subobject (error : SubobjectReadError)
  | undefinedOperationalStatus (code : UInt8)
  deriving DecidableEq, Repr

instance : EndOfInput ObjectReadError := ⟨.endOfInput⟩

def ObjectReadError.message? : ObjectReadError → Option String
  | truncatedHeader mismatch | lengthMismatch mismatch => some mismatch.message
  | tlv error => error.message?
  | subobject error => error.message?
  | endOfInput | invalidLength _ | bodyTooShort .. | unalignedBody ..
  | undefinedOperationalStatus _ => none

structure ObjectHeader where
  codes : ObjectCodes
  flags : ObjectFlags
  deriving DecidableEq, Repr

/-- The number of octets that a body of some kind has at least. A body without a fixed part may be of
any length, as far as the object is concerned. -/
def ObjectKind.leastLength : ObjectKind → Nat
  | requestParameters | endPointsIpv4 | metric | loadBalancing | monitoring | srp => 8
  | lspa => 16
  | endPointsIpv6 => 32
  | pccRequestIdIpv6 | pceIdIpv6 | unreachDestinationIpv6 => 16
  | processingTime => 24
  | associationIpv4 => 8 + 4
  | associationIpv6 => 8 + 16
  | explicitRoute | reportedRoute | includeRoute | pathKey | secondaryExplicitRoute
  | secondaryReportedRoute | vendorInformation => 0
  | opening | noPath | requestedBandwidth | existingBandwidth | svec | notification | error | close
  | excludeRoute | pccRequestIdIpv4 | objectiveFunction | classType | globalConstraints | pceIdIpv4
  | overload | unreachDestinationIpv4 | lsp => 4

namespace ObjectBody

def readBinary32 : Reader ObjectReadError Binary32 := do
  let bits ← Reader.word32
  pure ⟨bits⟩

def readOpening : Reader ObjectReadError (OpeningTlvs → ObjectBody) := do
  let versionAndFlags ← Reader.octet
  let keepalive ← Reader.octet
  let deadTimer ← Reader.octet
  let sessionId ← Reader.octet
  pure fun tlvs =>
    .opening { flags := versionAndFlags % 32, keepalive, deadTimer, sessionId, tlvs }

def readRequestParameters : Reader ObjectReadError (RequestParametersTlvs → ObjectBody) := do
  let flags ← Reader.number 4
  let requestId ← Reader.word32
  pure fun tlvs => .requestParameters
    { priority := UInt8.ofNat (flags % 8)
      reoptimization := flags.testBit 3
      bidirectional := flags.testBit 4
      loose := flags.testBit 5
      vspt := flags.testBit 6
      supplyObjectiveFunction := flags.testBit 7
      pathKey := flags.testBit 8
      reportOrder := flags.testBit 9
      makeBeforeBreak := flags.testBit 10
      eroCompression := flags.testBit 11
      p2mp := flags.testBit 12
      fragmentation := flags.testBit 13
      requestId
      tlvs }

def readNoPath : Reader ObjectReadError (NoPathTlvs → ObjectBody) := do
  let natureOfIssue ← Reader.octet
  let flags ← Reader.number 2
  let _reserved ← Reader.octet
  pure fun tlvs =>
    .noPath { natureOfIssue, unsatisfiedConstraints := flags.testBit 15, tlvs }

def readEndPointsIpv4 : Reader ObjectReadError ObjectBody := do
  let source ← Ipv4.read
  let destination ← Ipv4.read
  pure (.endPointsIpv4 source destination)

def readEndPointsIpv6 : Reader ObjectReadError ObjectBody := do
  let source ← Ipv6.read
  let destination ← Ipv6.read
  pure (.endPointsIpv6 source destination)

def readMetric : Reader ObjectReadError ObjectBody := do
  let _reserved ← Reader.word16
  let flags ← Reader.octet
  let metricType ← Reader.octet
  let value ← readBinary32
  pure (.metric
    { bound := flags.toNat.testBit 0, computed := flags.toNat.testBit 1, metricType, value })

def readLspa : Reader ObjectReadError (VendorTlvs → ObjectBody) := do
  let excludeAny ← Reader.word32
  let includeAny ← Reader.word32
  let includeAll ← Reader.word32
  let setupPriority ← Reader.octet
  let holdingPriority ← Reader.octet
  let flags ← Reader.octet
  let _reserved ← Reader.octet
  pure fun tlvs => .lspa
    { excludeAny
      includeAny
      includeAll
      setupPriority
      holdingPriority
      localProtectionDesired := flags.toNat.testBit 0
      tlvs }

/-- Reads flags and request numbers, after a reserved octet. Octets behind the last whole number are
left. -/
def readSvec : Reader ObjectReadError ObjectBody := do
  let _reserved ← Reader.octet
  let flags ← Reader.number 3
  let requestIds ← Reader.many 4 fun octets => UInt32.ofNat (beValue octets)
  pure (.svec
    { linkDiverse := flags.testBit 0
      nodeDiverse := flags.testBit 1
      srlgDiverse := flags.testBit 2
      requestIds })

def readNotification : Reader ObjectReadError (NotificationTlvs → ObjectBody) := do
  let _reserved ← Reader.word16
  let notificationType ← Reader.octet
  let notificationValue ← Reader.octet
  pure fun tlvs => .notification { notificationType, notificationValue, tlvs }

def readError : Reader ObjectReadError (ErrorTlvs → ObjectBody) := do
  let _reserved ← Reader.word16
  let errorType ← Reader.octet
  let errorValue ← Reader.octet
  pure fun tlvs => .error { errorType, errorValue, tlvs }

def readLoadBalancing : Reader ObjectReadError ObjectBody := do
  let _reserved ← Reader.take 3
  let maxLsp ← Reader.octet
  let minBandwidth ← readBinary32
  pure (.loadBalancing { maxLsp, minBandwidth })

def readClose : Reader ObjectReadError (VendorTlvs → ObjectBody) := do
  let _reserved ← Reader.take 3
  let reason ← Reader.octet
  pure fun tlvs => .close { reason, tlvs }

def readExcludeRoute (registry : Registry) : Reader ObjectReadError ObjectBody := do
  let _reserved ← Reader.word16
  let flags ← Reader.number 2
  let route ← (Subobject.readXro registry).mapError .subobject
  pure (.excludeRoute { fail := flags.testBit 0, route })

def readMonitoring : Reader ObjectReadError (VendorTlvs → ObjectBody) := do
  let _reserved ← Reader.octet
  let flags ← Reader.number 3
  let monitoringId ← Reader.word32
  pure fun tlvs => .monitoring
    { liveness := flags.testBit 0
      general := flags.testBit 1
      processingTime := flags.testBit 2
      overload := flags.testBit 3
      incomplete := flags.testBit 4
      monitoringId
      tlvs }

def readObjectiveFunction : Reader ObjectReadError (VendorTlvs → ObjectBody) := do
  let code ← Reader.word16
  let _reserved ← Reader.word16
  pure fun tlvs => .objectiveFunction { code, tlvs }

def readGlobalConstraints : Reader ObjectReadError (VendorTlvs → ObjectBody) := do
  let maxHop ← Reader.octet
  let maxUtilization ← Reader.octet
  let minUtilization ← Reader.octet
  let overBookingFactor ← Reader.octet
  pure fun tlvs =>
    .globalConstraints { maxHop, maxUtilization, minUtilization, overBookingFactor, tlvs }

def readProcessingTime : Reader ObjectReadError ObjectBody := do
  let _reserved ← Reader.word16
  let flags ← Reader.number 2
  let current ← Reader.word32
  let min ← Reader.word32
  let max ← Reader.word32
  let average ← Reader.word32
  let variance ← Reader.word32
  pure (.processingTime { estimated := flags.testBit 0, current, min, max, average, variance })

def readOverload : Reader ObjectReadError ObjectBody := do
  let _reserved ← Reader.word16
  let duration ← Reader.word16
  pure (.overload duration)

def wholeElements (kind : ObjectKind) (length : Nat) : Reader ObjectReadError Unit :=
  Reader.multipleOf length fun actual => .unalignedBody kind.codes.objectClass length actual

/-- The state of a path in a word: twenty bits of its number, a reserved nibble with a flag, the
operational status in three bits, and four flags. -/
def lspOfWord (word : Nat) : Except ObjectReadError (LspTlvs → ObjectBody) :=
  let status := UInt8.ofNat (word / 16 % 8)
  match CodePoint.ofCode? status with
  | none => .error (.undefinedOperationalStatus status)
  | some operational => .ok fun tlvs => .lsp
      { plspId := UInt32.ofNat (word / 4096)
        delegate := word.testBit 0
        sync := word.testBit 1
        remove := word.testBit 2
        administrative := word.testBit 3
        operational
        create := word.testBit 7
        tlvs }

def readSrp : Reader ObjectReadError (SrpTlvs → ObjectBody) := do
  let flags ← Reader.number 4
  let srpId ← Reader.word32
  pure fun tlvs => .srp { remove := flags.testBit 0, srpId, tlvs }

def readAssociation {α : Type} (address : Reader ObjectReadError α) :
    Reader ObjectReadError (VendorTlvs → AssociationBody α) := do
  let _reserved ← Reader.word16
  let flags ← Reader.number 2
  let associationType ← Reader.word16
  let associationId ← Reader.word16
  let source ← address
  pure fun tlvs =>
    { removal := flags.testBit 0, associationType, associationId, source, tlvs }

def readOne {α : Type} (reader : Reader ObjectReadError α) (body : α → ObjectBody) :
    Reader ObjectReadError ObjectBody := do
  let value ← reader
  pure (body value)

def readRoute (registry : Registry) (body : List EroSubobject → ObjectBody) :
    Reader ObjectReadError ObjectBody :=
  readOne ((Subobject.readEro registry).mapError .subobject) body

def scanRoute (body : List RroSubobject → ObjectBody) : Scan ObjectReadError ObjectBody := do
  let route ← Subobject.scanRro.mapError .subobject
  pure (body route)

def withTlvs {σ : Type} [TlvSet σ] (fixedPart : Reader ObjectReadError (σ → ObjectBody)) :
    Scan ObjectReadError ObjectBody := do
  let body ← Scan.ofReader fun _ => fixedPart
  let tlvs ← TlvSet.scan.mapError .tlv
  pure (body tlvs)

def readClassType : Reader ObjectReadError ObjectBody := do
  let classType ← Reader.number 4
  pure (.classType (UInt8.ofNat classType))

def scan : ObjectKind → Scan ObjectReadError ObjectBody
  | .opening => withTlvs readOpening
  | .requestParameters => withTlvs readRequestParameters
  | .noPath => withTlvs readNoPath
  | .endPointsIpv4 => .ofReader fun _ => readEndPointsIpv4
  | .endPointsIpv6 => .ofReader fun _ => readEndPointsIpv6
  | .requestedBandwidth => .ofReader fun _ => readOne readBinary32 .requestedBandwidth
  | .existingBandwidth => .ofReader fun _ => readOne readBinary32 .existingBandwidth
  | .metric => .ofReader fun _ => readMetric
  | .explicitRoute => .ofReader fun registry => readRoute registry .explicitRoute
  | .reportedRoute => scanRoute .reportedRoute
  | .lspa => withTlvs readLspa
  | .includeRoute => .ofReader fun registry => readRoute registry .includeRoute
  | .svec => .ofReader fun _ => readSvec
  | .notification => withTlvs readNotification
  | .error => withTlvs readError
  | .loadBalancing => .ofReader fun _ => readLoadBalancing
  | .close => withTlvs readClose
  | .pathKey => .ofReader fun registry => readRoute registry .pathKey
  | .excludeRoute => .ofReader readExcludeRoute
  | .monitoring => withTlvs readMonitoring
  | .pccRequestIdIpv4 => .ofReader fun _ => readOne Ipv4.read .pccRequestIdIpv4
  | .pccRequestIdIpv6 => .ofReader fun _ => readOne Ipv6.read .pccRequestIdIpv6
  | .objectiveFunction => withTlvs readObjectiveFunction
  | .classType => .ofReader fun _ => readClassType
  | .globalConstraints => withTlvs readGlobalConstraints
  | .pceIdIpv4 => .ofReader fun _ => readOne Ipv4.read .pceIdIpv4
  | .pceIdIpv6 => .ofReader fun _ => readOne Ipv6.read .pceIdIpv6
  | .processingTime => .ofReader fun _ => readProcessingTime
  | .overload => .ofReader fun _ => readOverload
  | .unreachDestinationIpv4 => .ofReader fun _ => do
    wholeElements .unreachDestinationIpv4 4
    readOne (Reader.many 4 Ipv4.ofOctets) .unreachDestinationIpv4
  | .unreachDestinationIpv6 => .ofReader fun _ => do
    wholeElements .unreachDestinationIpv6 16
    readOne (Reader.many 16 Ipv6.ofOctets) .unreachDestinationIpv6
  | .secondaryExplicitRoute => .ofReader fun registry => readRoute registry .secondaryExplicitRoute
  | .secondaryReportedRoute => scanRoute .secondaryReportedRoute
  | .lsp => withTlvs ((Reader.number 4).convert lspOfWord)
  | .srp => withTlvs readSrp
  | .vendorInformation =>
    .ofReader fun registry =>
      readOne ((Tlv.readVendorInformation registry).mapError .tlv) .vendorInformation
  | .associationIpv4 => withTlvs do
    let body ← readAssociation Ipv4.read
    pure fun tlvs => .associationIpv4 (body tlvs)
  | .associationIpv6 => withTlvs do
    let body ← readAssociation Ipv6.read
    pure fun tlvs => .associationIpv6 (body tlvs)

end ObjectBody

namespace ObjectValue

/-- What keeps a body from being read as its kind, and how many of its octets are taken with it: the
version of an opening, and a class type that is too large. -/
def refusal? (kind : ObjectKind) (octets : List UInt8) : Option (DocumentedError × Nat) :=
  match kind with
  | .opening =>
    if beValue (octets.take 1) / 32 = protocolVersion.toNat then none
    else some (.versionNotSupported, octets.length)
  | .classType =>
    if beValue (octets.take 4) ≤ ObjectBody.maxClassType.toNat then none
    else some (.invalidClassType, 4)
  | _ => none

def scan (kind : ObjectKind) : Scan ObjectReadError ObjectValue := ⟨fun slice session =>
  let available := slice.octets.length
  if available < kind.leastLength then
    (.error (slice.failure (.bodyTooShort kind.codes.objectClass kind.leastLength available)), session)
  else
    match refusal? kind slice.octets with
    | some (error, taken) =>
      (.ok (.unknown ⟨kind.codes, error, slice.octets⟩, slice.skip taken), session)
    | none =>
      match (ObjectBody.scan kind).run slice session with
      | (.error failure, session) => (.error failure, session)
      | (.ok (body, rest), session) => (.ok (.known body, rest), session)⟩

def ofUnregistered (registry : Registry) (codes : ObjectCodes) (octets : List UInt8) : ObjectValue :=
  .unknown
    { codes
      error :=
        if registry.hasClass codes.objectClass then .unrecognizedObjectType
        else .unrecognizedObjectClass
      octets }

end ObjectValue

namespace Object

def framing : Framing ObjectHeader ObjectReadError where
  cut := fun slice =>
    match slice.octets with
    | objectClass :: typeAndFlags :: high :: low :: contents =>
      let length := beValue [high, low]
      if length < 4 ∨ length % 4 ≠ 0 then
        .error (slice.failure (.invalidLength (UInt16.ofNat length)))
      else
        match Slice.split? ⟨slice.offset + 4, contents⟩ (length - 4) with
        | none => .error (slice.failure (.lengthMismatch ⟨length, slice.octets.length⟩))
        | some (value, rest) =>
          let header := ⟨⟨objectClass, typeAndFlags / 16⟩, .ofOctet typeAndFlags⟩
          .ok (⟨slice, header, value⟩, rest)
    | _ => .error (slice.failure (.truncatedHeader ⟨4, slice.octets.length⟩))
  shrinks := by
    intro slice rest frame found
    split at found
    · next objectClass typeAndFlags high low contents octets =>
      dsimp only at found
      split at found
      · cases found
      · split at found
        · cases found
        · next value behind cut =>
          cases found
          obtain ⟨whole, -, -, -⟩ := Slice.octets_of_split? cut
          have size := congrArg List.length whole
          rw [List.length_append] at size
          rw [octets, List.length_cons, List.length_cons, List.length_cons, List.length_cons]
          dsimp only at size
          omega
    · cases found

/-- Reads the body of an object as the registry says. An object of no known kind that need not be
taken into account is dropped. -/
def ofFrame : FrameReader ObjectHeader ObjectReadError (Option Object) := ⟨fun frame session =>
  let ⟨codes, flags⟩ := frame.header
  match session.registry.object? codes with
  | some kind =>
    match (ObjectValue.scan kind).run frame.value session with
    | (.error failure, session) => (.error failure, session)
    | (.ok (value, _), session) => (.ok (some ⟨flags, value⟩), session)
  | none =>
    if flags.processingRule then
      (.ok (some ⟨flags, .ofUnregistered session.registry codes frame.value.octets⟩), session)
    else
      (.ok none, session.skip (.object codes))⟩

def scan : Scan ObjectReadError (Option Object) := .element framing ofFrame

def scanAll : Scan ObjectReadError (List Object) := .elements framing ofFrame

end Object
end RouteWire.Pcep
