import RouteWire.CodePoint
/-!
The code points of PCEP: message types, object classes, kinds of TLVs and of route subobjects, and
the small enumerations inside them.
-/
namespace RouteWire.Pcep

inductive MessageType where
  | opening | keepalive | pathComputationRequest | pathComputationReply | notification | error
  | close | monitoringRequest | monitoringReply | report | update | initiate
  deriving DecidableEq, Repr

instance : CodePoint MessageType UInt8 where
  all := [.opening, .keepalive, .pathComputationRequest, .pathComputationReply, .notification,
    .error, .close, .monitoringRequest, .monitoringReply, .report, .update, .initiate]
  code
    | .opening => 1
    | .keepalive => 2
    | .pathComputationRequest => 3
    | .pathComputationReply => 4
    | .notification => 5
    | .error => 6
    | .close => 7
    | .monitoringRequest => 8
    | .monitoringReply => 9
    | .report => 10
    | .update => 11
    | .initiate => 12
  name
    | .opening => "Open"
    | .keepalive => "Keepalive"
    | .pathComputationRequest => "PathComputationRequest"
    | .pathComputationReply => "PathComputationReply"
    | .notification => "Notification"
    | .error => "Error"
    | .close => "Close"
    | .monitoringRequest => "MonitoringRequest"
    | .monitoringReply => "MonitoringReply"
    | .report => "Report"
    | .update => "Update"
    | .initiate => "Initiate"

instance : LawfulCodePoint MessageType UInt8 where
  ofCode?_code value := by cases value <;> rfl

inductive ObjectClass where
  | opening | requestParameters | noPath | endPoints | bandwidth | metric | explicitRoute
  | reportedRoute | lspa | includeRoute | svec | notification | pcepError | loadBalancing | close
  | pathKey | excludeRoute | monitoring | pccRequestId | objectiveFunction | classType
  | globalConstraints | pceId | processingTime | overload | unreachDestination
  | secondaryExplicitRoute | secondaryReportedRoute | lsp | srp | vendorInformation | association
  deriving DecidableEq, Repr

instance : CodePoint ObjectClass UInt8 where
  all := [.opening, .requestParameters, .noPath, .endPoints, .bandwidth, .metric, .explicitRoute,
    .reportedRoute, .lspa, .includeRoute, .svec, .notification, .pcepError, .loadBalancing,
    .close, .pathKey, .excludeRoute, .monitoring, .pccRequestId, .objectiveFunction, .classType,
    .globalConstraints, .pceId, .processingTime, .overload, .unreachDestination,
    .secondaryExplicitRoute, .secondaryReportedRoute, .lsp, .srp, .vendorInformation,
    .association]
  code
    | .opening => 1
    | .requestParameters => 2
    | .noPath => 3
    | .endPoints => 4
    | .bandwidth => 5
    | .metric => 6
    | .explicitRoute => 7
    | .reportedRoute => 8
    | .lspa => 9
    | .includeRoute => 10
    | .svec => 11
    | .notification => 12
    | .pcepError => 13
    | .loadBalancing => 14
    | .close => 15
    | .pathKey => 16
    | .excludeRoute => 17
    | .monitoring => 19
    | .pccRequestId => 20
    | .objectiveFunction => 21
    | .classType => 22
    | .globalConstraints => 24
    | .pceId => 25
    | .processingTime => 26
    | .overload => 27
    | .unreachDestination => 28
    | .secondaryExplicitRoute => 29
    | .secondaryReportedRoute => 30
    | .lsp => 32
    | .srp => 33
    | .vendorInformation => 34
    | .association => 40
  name
    | .opening => "Open"
    | .requestParameters => "RequestParameters"
    | .noPath => "NoPath"
    | .endPoints => "EndPoints"
    | .bandwidth => "Bandwidth"
    | .metric => "Metric"
    | .explicitRoute => "ExplicitRoute"
    | .reportedRoute => "ReportedRoute"
    | .lspa => "Lspa"
    | .includeRoute => "IncludeRoute"
    | .svec => "Svec"
    | .notification => "Notification"
    | .pcepError => "PcepError"
    | .loadBalancing => "LoadBalancing"
    | .close => "Close"
    | .pathKey => "PathKey"
    | .excludeRoute => "ExcludeRoute"
    | .monitoring => "Monitoring"
    | .pccRequestId => "PccRequestId"
    | .objectiveFunction => "ObjectiveFunction"
    | .classType => "ClassType"
    | .globalConstraints => "GlobalConstraints"
    | .pceId => "PceId"
    | .processingTime => "ProcessingTime"
    | .overload => "Overload"
    | .unreachDestination => "UnreachDestination"
    | .secondaryExplicitRoute => "SecondaryExplicitRoute"
    | .secondaryReportedRoute => "SecondaryReportedRoute"
    | .lsp => "Lsp"
    | .srp => "Srp"
    | .vendorInformation => "VendorInformation"
    | .association => "Association"

instance : LawfulCodePoint ObjectClass UInt8 where
  ofCode?_code value := by cases value <;> rfl

inductive TlvKind where
  | noPathVector | overloadDuration | requestMissing | objectiveFunctionList | order
  | vendorInformation | statefulPceCapability | symbolicPathName | ipv4LspIdentifiers
  | ipv6LspIdentifiers | lspErrorCode | rsvpErrorSpec | lspDbVersion | speakerEntityId
  | pathSetupType | associationRanges | pathSetupTypeCapability | associationTypeList
  | pathBinding
  deriving DecidableEq, Repr

instance : CodePoint TlvKind UInt16 where
  all := [.noPathVector, .overloadDuration, .requestMissing, .objectiveFunctionList, .order,
    .vendorInformation, .statefulPceCapability, .symbolicPathName, .ipv4LspIdentifiers,
    .ipv6LspIdentifiers, .lspErrorCode, .rsvpErrorSpec, .lspDbVersion, .speakerEntityId,
    .pathSetupType, .associationRanges, .pathSetupTypeCapability, .associationTypeList,
    .pathBinding]
  code
    | .noPathVector => 1
    | .overloadDuration => 2
    | .requestMissing => 3
    | .objectiveFunctionList => 4
    | .order => 5
    | .vendorInformation => 7
    | .statefulPceCapability => 16
    | .symbolicPathName => 17
    | .ipv4LspIdentifiers => 18
    | .ipv6LspIdentifiers => 19
    | .lspErrorCode => 20
    | .rsvpErrorSpec => 21
    | .lspDbVersion => 23
    | .speakerEntityId => 24
    | .pathSetupType => 28
    | .associationRanges => 29
    | .pathSetupTypeCapability => 34
    | .associationTypeList => 35
    | .pathBinding => 55
  name
    | .noPathVector => "NoPathVector"
    | .overloadDuration => "OverloadDuration"
    | .requestMissing => "RequestMissing"
    | .objectiveFunctionList => "ObjectiveFunctionList"
    | .order => "Order"
    | .vendorInformation => "VendorInformation"
    | .statefulPceCapability => "StatefulPceCapability"
    | .symbolicPathName => "SymbolicPathName"
    | .ipv4LspIdentifiers => "Ipv4LspIdentifiers"
    | .ipv6LspIdentifiers => "Ipv6LspIdentifiers"
    | .lspErrorCode => "LspErrorCode"
    | .rsvpErrorSpec => "RsvpErrorSpec"
    | .lspDbVersion => "LspDbVersion"
    | .speakerEntityId => "SpeakerEntityId"
    | .pathSetupType => "PathSetupType"
    | .associationRanges => "AssociationRange"
    | .pathSetupTypeCapability => "PathSetupTypeCapability"
    | .associationTypeList => "AssociationTypeList"
    | .pathBinding => "PathBinding"

instance : LawfulCodePoint TlvKind UInt16 where
  ofCode?_code value := by cases value <;> rfl

inductive EroKind where
  | ipv4Prefix | ipv6Prefix | label | unnumberedInterface | asNumber | segmentRouting | srv6
  | pathKeyIpv4 | pathKeyIpv6
  deriving DecidableEq, Repr

instance : CodePoint EroKind UInt8 where
  all := [.ipv4Prefix, .ipv6Prefix, .label, .unnumberedInterface, .asNumber, .segmentRouting,
    .srv6, .pathKeyIpv4, .pathKeyIpv6]
  code
    | .ipv4Prefix => 1
    | .ipv6Prefix => 2
    | .label => 3
    | .unnumberedInterface => 4
    | .asNumber => 32
    | .segmentRouting => 36
    | .srv6 => 40
    | .pathKeyIpv4 => 64
    | .pathKeyIpv6 => 65
  name
    | .ipv4Prefix => "Ipv4Prefix"
    | .ipv6Prefix => "Ipv6Prefix"
    | .label => "Label"
    | .unnumberedInterface => "UnnumberedInterface"
    | .asNumber => "AsNumber"
    | .segmentRouting => "SegmentRouting"
    | .srv6 => "Srv6"
    | .pathKeyIpv4 => "PathKeyIpv4"
    | .pathKeyIpv6 => "PathKeyIpv6"

instance : LawfulCodePoint EroKind UInt8 where
  ofCode?_code value := by cases value <;> rfl

inductive XroKind where
  | ipv4Prefix | ipv6Prefix | unnumberedInterface | asNumber | srlg | pathKeyIpv4 | pathKeyIpv6
  deriving DecidableEq, Repr

instance : CodePoint XroKind UInt8 where
  all := [.ipv4Prefix, .ipv6Prefix, .unnumberedInterface, .asNumber, .srlg, .pathKeyIpv4,
    .pathKeyIpv6]
  code
    | .ipv4Prefix => 1
    | .ipv6Prefix => 2
    | .unnumberedInterface => 4
    | .asNumber => 32
    | .srlg => 34
    | .pathKeyIpv4 => 64
    | .pathKeyIpv6 => 65
  name
    | .ipv4Prefix => "Ipv4Prefix"
    | .ipv6Prefix => "Ipv6Prefix"
    | .unnumberedInterface => "UnnumberedInterface"
    | .asNumber => "AsNumber"
    | .srlg => "Srlg"
    | .pathKeyIpv4 => "PathKeyIpv4"
    | .pathKeyIpv6 => "PathKeyIpv6"

instance : LawfulCodePoint XroKind UInt8 where
  ofCode?_code value := by cases value <;> rfl

inductive RroKind where
  | ipv4Prefix | ipv6Prefix | label | unnumberedInterface | segmentRouting | pathKeyIpv4
  | pathKeyIpv6
  deriving DecidableEq, Repr

instance : CodePoint RroKind UInt8 where
  all := [.ipv4Prefix, .ipv6Prefix, .label, .unnumberedInterface, .segmentRouting, .pathKeyIpv4,
    .pathKeyIpv6]
  code
    | .ipv4Prefix => 1
    | .ipv6Prefix => 2
    | .label => 3
    | .unnumberedInterface => 4
    | .segmentRouting => 36
    | .pathKeyIpv4 => 64
    | .pathKeyIpv6 => 65
  name
    | .ipv4Prefix => "Ipv4Prefix"
    | .ipv6Prefix => "Ipv6Prefix"
    | .label => "Label"
    | .unnumberedInterface => "UnnumberedInterface"
    | .segmentRouting => "SegmentRouting"
    | .pathKeyIpv4 => "PathKeyIpv4"
    | .pathKeyIpv6 => "PathKeyIpv6"

instance : LawfulCodePoint RroKind UInt8 where
  ofCode?_code value := by cases value <;> rfl

inductive LabelType where
  | type1 | generalized | wavebandSwitching
  deriving DecidableEq, Repr

instance : CodePoint LabelType UInt8 where
  all := [.type1, .generalized, .wavebandSwitching]
  code
    | .type1 => 1
    | .generalized => 2
    | .wavebandSwitching => 3
  name
    | .type1 => "Type1"
    | .generalized => "Generalized"
    | .wavebandSwitching => "WavebandSwitching"

instance : LawfulCodePoint LabelType UInt8 where
  ofCode?_code value := by cases value <;> rfl

inductive XroAttribute where
  | interface | node | srlg
  deriving DecidableEq, Repr

instance : CodePoint XroAttribute UInt8 where
  all := [.interface, .node, .srlg]
  code
    | .interface => 0
    | .node => 1
    | .srlg => 2
  name
    | .interface => "Interface"
    | .node => "Node"
    | .srlg => "Srlg"

instance : LawfulCodePoint XroAttribute UInt8 where
  ofCode?_code value := by cases value <;> rfl

inductive NaiType where
  | absent | ipv4NodeId | ipv6NodeId | ipv4Adjacency | ipv6GlobalAdjacency | unnumberedAdjacency
  | ipv6LinkLocalAdjacency
  deriving DecidableEq, Repr

instance : CodePoint NaiType UInt8 where
  all := [.absent, .ipv4NodeId, .ipv6NodeId, .ipv4Adjacency, .ipv6GlobalAdjacency,
    .unnumberedAdjacency, .ipv6LinkLocalAdjacency]
  code
    | .absent => 0
    | .ipv4NodeId => 1
    | .ipv6NodeId => 2
    | .ipv4Adjacency => 3
    | .ipv6GlobalAdjacency => 4
    | .unnumberedAdjacency => 5
    | .ipv6LinkLocalAdjacency => 6
  name
    | .absent => "Absent"
    | .ipv4NodeId => "Ipv4NodeId"
    | .ipv6NodeId => "Ipv6NodeId"
    | .ipv4Adjacency => "Ipv4Adjacency"
    | .ipv6GlobalAdjacency => "Ipv6GlobalAdjacency"
    | .unnumberedAdjacency => "UnnumberedAdjacency"
    | .ipv6LinkLocalAdjacency => "Ipv6LinkLocalAdjacency"

instance : LawfulCodePoint NaiType UInt8 where
  ofCode?_code value := by cases value <;> rfl

inductive OperationalStatus where
  | down | up | active | goingDown | goingUp
  deriving DecidableEq, Repr

instance : CodePoint OperationalStatus UInt8 where
  all := [.down, .up, .active, .goingDown, .goingUp]
  code
    | .down => 0
    | .up => 1
    | .active => 2
    | .goingDown => 3
    | .goingUp => 4
  name
    | .down => "Down"
    | .up => "Up"
    | .active => "Active"
    | .goingDown => "GoingDown"
    | .goingUp => "GoingUp"

instance : LawfulCodePoint OperationalStatus UInt8 where
  ofCode?_code value := by cases value <;> rfl

inductive BindingType where
  | mplsLabel | mplsLabelEntry | srv6 | srv6Behavior
  deriving DecidableEq, Repr

instance : CodePoint BindingType UInt8 where
  all := [.mplsLabel, .mplsLabelEntry, .srv6, .srv6Behavior]
  code
    | .mplsLabel => 0
    | .mplsLabelEntry => 1
    | .srv6 => 2
    | .srv6Behavior => 3
  name
    | .mplsLabel => "MplsLabel"
    | .mplsLabelEntry => "MplsLabelEntry"
    | .srv6 => "Srv6"
    | .srv6Behavior => "Srv6Behavior"

instance : LawfulCodePoint BindingType UInt8 where
  ofCode?_code value := by cases value <;> rfl

inductive ErrorType where
  | sessionEstablishmentFailure | capabilityNotSupported | unknownObject | notSupportedObject
  | policyViolation | mandatoryObjectMissing | synchronizedPathComputationRequestMissing
  | unknownRequestReference | attemptToEstablishSecondPcepSession | receptionOfInvalidObject
  | diffservAwareTeError | invalidOperation | lspStateSynchronizationError
  | invalidTrafficEngineeringPath | lspInstantiationError
  deriving DecidableEq, Repr

instance : CodePoint ErrorType UInt8 where
  all := [.sessionEstablishmentFailure, .capabilityNotSupported, .unknownObject,
    .notSupportedObject, .policyViolation, .mandatoryObjectMissing,
    .synchronizedPathComputationRequestMissing, .unknownRequestReference,
    .attemptToEstablishSecondPcepSession, .receptionOfInvalidObject, .diffservAwareTeError,
    .invalidOperation, .lspStateSynchronizationError, .invalidTrafficEngineeringPath,
    .lspInstantiationError]
  code
    | .sessionEstablishmentFailure => 1
    | .capabilityNotSupported => 2
    | .unknownObject => 3
    | .notSupportedObject => 4
    | .policyViolation => 5
    | .mandatoryObjectMissing => 6
    | .synchronizedPathComputationRequestMissing => 7
    | .unknownRequestReference => 8
    | .attemptToEstablishSecondPcepSession => 9
    | .receptionOfInvalidObject => 10
    | .diffservAwareTeError => 12
    | .invalidOperation => 19
    | .lspStateSynchronizationError => 20
    | .invalidTrafficEngineeringPath => 21
    | .lspInstantiationError => 24
  name
    | .sessionEstablishmentFailure => "SessionEstablishmentFailure"
    | .capabilityNotSupported => "CapabilityNotSupported"
    | .unknownObject => "UnknownObject"
    | .notSupportedObject => "NotSupportedObject"
    | .policyViolation => "PolicyViolation"
    | .mandatoryObjectMissing => "MandatoryObjectMissing"
    | .synchronizedPathComputationRequestMissing => "SynchronizedPathComputationRequestMissing"
    | .unknownRequestReference => "UnknownRequestReference"
    | .attemptToEstablishSecondPcepSession => "AttemptToEstablishSecondPcepSession"
    | .receptionOfInvalidObject => "ReceptionOfInvalidObject"
    | .diffservAwareTeError => "DiffservAwareTeError"
    | .invalidOperation => "InvalidOperation"
    | .lspStateSynchronizationError => "LspStateSynchronizationError"
    | .invalidTrafficEngineeringPath => "InvalidTrafficEngineeringPath"
    | .lspInstantiationError => "LspInstantiationError"

instance : LawfulCodePoint ErrorType UInt8 where
  ofCode?_code value := by cases value <;> rfl

def BindingType.valueLength : BindingType → Nat
  | .mplsLabel => 3
  | .mplsLabelEntry => 4
  | .srv6 => 16
  | .srv6Behavior => 24

/-- The errors that reading an object finds and hands on as data, to be reported to the peer. -/
inductive DocumentedError where
  | versionNotSupported | unrecognizedObjectClass | unrecognizedObjectType | invalidClassType
  deriving DecidableEq, Repr

namespace DocumentedError

def all : List DocumentedError :=
  [versionNotSupported, unrecognizedObjectClass, unrecognizedObjectType, invalidClassType]

def name : DocumentedError → String
  | versionNotSupported => "PcepVersionNotSupported"
  | unrecognizedObjectClass => "UnrecognizedObjectClass"
  | unrecognizedObjectType => "UnrecognizedObjectType"
  | invalidClassType => "InvalidClassType"

def type : DocumentedError → ErrorType
  | versionNotSupported => .sessionEstablishmentFailure
  | unrecognizedObjectClass | unrecognizedObjectType => .unknownObject
  | invalidClassType => .diffservAwareTeError

def value : DocumentedError → UInt8
  | versionNotSupported => 8
  | unrecognizedObjectClass => 1
  | unrecognizedObjectType => 2
  | invalidClassType => 2

end DocumentedError
end RouteWire.Pcep
