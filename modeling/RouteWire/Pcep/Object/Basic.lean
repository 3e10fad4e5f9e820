import RouteWire.Pcep.Subobject.Basic
import RouteWire.Pcep.TlvSet
/-!
Objects: the parts of a message. An object has two flags and a body. The kind of the body decides the
class and the type of the object; a body that could not be read as its kind keeps the class and the
type it came with.
-/
namespace RouteWire.Pcep

/-- A number in the 32-bit binary format, by its bits. -/
structure Binary32 where
  bits : UInt32
  deriving DecidableEq, Repr

def protocolVersion : UInt8 := 1

structure OpeningBody where
  flags : UInt8
  keepalive : UInt8
  deadTimer : UInt8
  sessionId : UInt8
  tlvs : OpeningTlvs
  deriving DecidableEq, Repr

structure RequestParametersBody where
  priority : UInt8
  reoptimization : Bool
  bidirectional : Bool
  loose : Bool
  vspt : Bool
  supplyObjectiveFunction : Bool
  pathKey : Bool
  reportOrder : Bool
  makeBeforeBreak : Bool
  eroCompression : Bool
  p2mp : Bool
  fragmentation : Bool
  requestId : UInt32
  tlvs : RequestParametersTlvs
  deriving DecidableEq, Repr

structure NoPathBody where
  natureOfIssue : UInt8
  unsatisfiedConstraints : Bool
  tlvs : NoPathTlvs
  deriving DecidableEq, Repr

structure MetricBody where
  bound : Bool
  computed : Bool
  metricType : UInt8
  value : Binary32
  deriving DecidableEq, Repr

structure LspaBody where
  excludeAny : UInt32
  includeAny : UInt32
  includeAll : UInt32
  setupPriority : UInt8
  holdingPriority : UInt8
  localProtectionDesired : Bool
  tlvs : VendorTlvs
  deriving DecidableEq, Repr

structure SvecBody where
  linkDiverse : Bool
  nodeDiverse : Bool
  srlgDiverse : Bool
  requestIds : List UInt32
  deriving DecidableEq, Repr

structure NotificationBody where
  notificationType : UInt8
  notificationValue : UInt8
  tlvs : NotificationTlvs
  deriving DecidableEq, Repr

structure ErrorBody where
  errorType : UInt8
  errorValue : UInt8
  tlvs : ErrorTlvs
  deriving DecidableEq, Repr

structure LoadBalancingBody where
  maxLsp : UInt8
  minBandwidth : Binary32
  deriving DecidableEq, Repr

structure CloseBody where
  reason : UInt8
  tlvs : VendorTlvs
  deriving DecidableEq, Repr

structure ExcludeRouteBody where
  fail : Bool
  route : List XroSubobject
  deriving DecidableEq, Repr

structure MonitoringBody where
  liveness : Bool
  general : Bool
  processingTime : Bool
  overload : Bool
  incomplete : Bool
  monitoringId : UInt32
  tlvs : VendorTlvs
  deriving DecidableEq, Repr

structure ObjectiveFunctionBody where
  code : UInt16
  tlvs : VendorTlvs
  deriving DecidableEq, Repr

structure GlobalConstraintsBody where
  maxHop : UInt8
  maxUtilization : UInt8
  minUtilization : UInt8
  overBookingFactor : UInt8
  tlvs : VendorTlvs
  deriving DecidableEq, Repr

structure ProcessingTimeBody where
  estimated : Bool
  current : UInt32
  min : UInt32
  max : UInt32
  average : UInt32
  variance : UInt32
  deriving DecidableEq, Repr

structure LspBody where
  plspId : UInt32
  delegate : Bool
  sync : Bool
  remove : Bool
  administrative : Bool
  operational : OperationalStatus
  create : Bool
  tlvs : LspTlvs
  deriving DecidableEq, Repr

structure SrpBody where
  remove : Bool
  srpId : UInt32
  tlvs : SrpTlvs
  deriving DecidableEq, Repr

structure AssociationBody (α : Type) where
  removal : Bool
  associationType : UInt16
  associationId : UInt16
  source : α
  tlvs : VendorTlvs
  deriving DecidableEq, Repr

/-- A body that could not be read as its kind, with the error that reports it. -/
structure UnknownBody where
  codes : ObjectCodes
  error : DocumentedError
  octets : List UInt8
  deriving DecidableEq, Repr

inductive ObjectBody where
  | opening (body : OpeningBody)
  | requestParameters (body : RequestParametersBody)
  | noPath (body : NoPathBody)
  | endPointsIpv4 (source destination : Ipv4)
  | endPointsIpv6 (source destination : Ipv6)
  | requestedBandwidth (bandwidth : Binary32)
  | existingBandwidth (bandwidth : Binary32)
  | metric (body : MetricBody)
  | explicitRoute (route : List EroSubobject)
  | reportedRoute (route : List RroSubobject)
  | lspa (body : LspaBody)
  | includeRoute (route : List EroSubobject)
  | svec (body : SvecBody)
  | notification (body : NotificationBody)
  | error (body : ErrorBody)
  | loadBalancing (body : LoadBalancingBody)
  | close (body : CloseBody)
  | pathKey (route : List EroSubobject)
  | excludeRoute (body : ExcludeRouteBody)
  | monitoring (body : MonitoringBody)
  | pccRequestIdIpv4 (address : Ipv4)
  | pccRequestIdIpv6 (address : Ipv6)
  | objectiveFunction (body : ObjectiveFunctionBody)
  | classType (number : UInt8)
  | globalConstraints (body : GlobalConstraintsBody)
  | pceIdIpv4 (address : Ipv4)
  | pceIdIpv6 (address : Ipv6)
  | processingTime (body : ProcessingTimeBody)
  | overload (duration : UInt16)
  | unreachDestinationIpv4 (destinations : List Ipv4)
  | unreachDestinationIpv6 (destinations : List Ipv6)
  | secondaryExplicitRoute (route : List EroSubobject)
  | secondaryReportedRoute (route : List RroSubobject)
  | lsp (body : LspBody)
  | srp (body : SrpBody)
  | vendorInformation (information : VendorInformation)
  | associationIpv4 (body : AssociationBody Ipv4)
  | associationIpv6 (body : AssociationBody Ipv6)
  deriving DecidableEq, Repr

namespace ObjectBody

def maxClassType : UInt8 := 7

def ofClassType? (classType : UInt8) : Option ObjectBody :=
  if classType ≤ maxClassType then some (.classType classType) else none

def ofError (reported : DocumentedError) : ObjectBody :=
  .error ⟨CodePoint.code reported.type, reported.value, TlvSet.empty⟩

def kind : ObjectBody → ObjectKind
  | opening _ => .opening
  | requestParameters _ => .requestParameters
  | noPath _ => .noPath
  | endPointsIpv4 .. => .endPointsIpv4
  | endPointsIpv6 .. => .endPointsIpv6
  | requestedBandwidth _ => .requestedBandwidth
  | existingBandwidth _ => .existingBandwidth
  | metric _ => .metric
  | explicitRoute _ => .explicitRoute
  | reportedRoute _ => .reportedRoute
  | lspa _ => .lspa
  | includeRoute _ => .includeRoute
  | svec _ => .svec
  | notification _ => .notification
  | error _ => .error
  | loadBalancing _ => .loadBalancing
  | close _ => .close
  | pathKey _ => .pathKey
  | excludeRoute _ => .excludeRoute
  | monitoring _ => .monitoring
  | pccRequestIdIpv4 _ => .pccRequestIdIpv4
  | pccRequestIdIpv6 _ => .pccRequestIdIpv6
  | objectiveFunction _ => .objectiveFunction
  | classType _ => .classType
  | globalConstraints _ => .globalConstraints
  | pceIdIpv4 _ => .pceIdIpv4
  | pceIdIpv6 _ => .pceIdIpv6
  | processingTime _ => .processingTime
  | overload _ => .overload
  | unreachDestinationIpv4 _ => .unreachDestinationIpv4
  | unreachDestinationIpv6 _ => .unreachDestinationIpv6
  | secondaryExplicitRoute _ => .secondaryExplicitRoute
  | secondaryReportedRoute _ => .secondaryReportedRoute
  | lsp _ => .lsp
  | srp _ => .srp
  | vendorInformation _ => .vendorInformation
  | associationIpv4 _ => .associationIpv4
  | associationIpv6 _ => .associationIpv6

end ObjectBody

inductive ObjectValue where
  | known (body : ObjectBody)
  | unknown (body : UnknownBody)
  deriving DecidableEq, Repr

def ObjectValue.codes : ObjectValue → ObjectCodes
  | known body => body.kind.codes
  | unknown body => body.codes

structure ObjectFlags where
  /-- The object must be taken into account. -/
  processingRule : Bool
  /-- The object was not taken into account. -/
  ignore : Bool
  deriving DecidableEq, Repr

namespace ObjectFlags

def ofOctet (octet : UInt8) : ObjectFlags := ⟨octet.toNat.testBit 1, octet.toNat.testBit 0⟩

def value (flags : ObjectFlags) : Nat := bitsValue [flags.ignore, flags.processingRule]

end ObjectFlags

structure Object where
  flags : ObjectFlags
  value : ObjectValue
  deriving DecidableEq, Repr

end RouteWire.Pcep
