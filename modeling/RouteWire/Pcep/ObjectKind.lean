import RouteWire.Pcep.CodePoints
/-!
Kinds of objects. A kind is a class together with a type of that class, and it decides how the body of
an object is laid out.

Main statements: `ofClassAndType?_eq_some_iff`, by which class and type name at most one kind.
-/
namespace RouteWire.Pcep

inductive ObjectKind where
  | opening | requestParameters | noPath | endPointsIpv4 | endPointsIpv6
  | requestedBandwidth | existingBandwidth | metric | explicitRoute | reportedRoute
  | lspa | includeRoute | svec | notification | error
  | loadBalancing | close | pathKey | excludeRoute | monitoring
  | pccRequestIdIpv4 | pccRequestIdIpv6 | objectiveFunction | classType | globalConstraints
  | pceIdIpv4 | pceIdIpv6 | processingTime | overload | unreachDestinationIpv4
  | unreachDestinationIpv6 | secondaryExplicitRoute | secondaryReportedRoute | lsp | srp
  | vendorInformation | associationIpv4 | associationIpv6
  deriving DecidableEq, Repr

structure ObjectCodes where
  objectClass : UInt8
  objectType : UInt8
  deriving DecidableEq, Repr

namespace ObjectKind

def all : List ObjectKind :=
  [opening, requestParameters, noPath, endPointsIpv4, endPointsIpv6,
    requestedBandwidth, existingBandwidth, metric, explicitRoute, reportedRoute,
    lspa, includeRoute, svec, notification, error,
    loadBalancing, close, pathKey, excludeRoute, monitoring,
    pccRequestIdIpv4, pccRequestIdIpv6, objectiveFunction, classType, globalConstraints,
    pceIdIpv4, pceIdIpv6, processingTime, overload, unreachDestinationIpv4,
    unreachDestinationIpv6, secondaryExplicitRoute, secondaryReportedRoute, lsp, srp,
    vendorInformation, associationIpv4, associationIpv6]

def objectClass : ObjectKind → ObjectClass
  | opening => .opening
  | requestParameters => .requestParameters
  | noPath => .noPath
  | endPointsIpv4 | endPointsIpv6 => .endPoints
  | requestedBandwidth | existingBandwidth => .bandwidth
  | metric => .metric
  | explicitRoute => .explicitRoute
  | reportedRoute => .reportedRoute
  | lspa => .lspa
  | includeRoute => .includeRoute
  | svec => .svec
  | notification => .notification
  | error => .pcepError
  | loadBalancing => .loadBalancing
  | close => .close
  | pathKey => .pathKey
  | excludeRoute => .excludeRoute
  | monitoring => .monitoring
  | pccRequestIdIpv4 | pccRequestIdIpv6 => .pccRequestId
  | objectiveFunction => .objectiveFunction
  | classType => .classType
  | globalConstraints => .globalConstraints
  | pceIdIpv4 | pceIdIpv6 => .pceId
  | processingTime => .processingTime
  | overload => .overload
  | unreachDestinationIpv4 | unreachDestinationIpv6 => .unreachDestination
  | secondaryExplicitRoute => .secondaryExplicitRoute
  | secondaryReportedRoute => .secondaryReportedRoute
  | lsp => .lsp
  | srp => .srp
  | vendorInformation => .vendorInformation
  | associationIpv4 | associationIpv6 => .association

def objectType : ObjectKind → UInt8
  | endPointsIpv6 | existingBandwidth | pccRequestIdIpv6 | pceIdIpv6 | unreachDestinationIpv6
  | associationIpv6 => 2
  | _ => 1

def codes (kind : ObjectKind) : ObjectCodes :=
  ⟨CodePoint.code kind.objectClass, kind.objectType⟩

def ofClassAndType? (codes : ObjectCodes) : Option ObjectKind :=
  all.find? fun kind => kind.codes = codes

theorem ofClassAndType?_eq_some_iff {codes : ObjectCodes} {kind : ObjectKind} :
    ofClassAndType? codes = some kind ↔ kind.codes = codes := by
  constructor
  · intro found
    simpa using List.find?_some found
  · rintro rfl
    cases kind <;> rfl

end ObjectKind
end RouteWire.Pcep
