import RouteWire.Document.Subobject
import RouteWire.Pcep.Message
/-!
Documents of objects and messages, and of the record of what reading passed over.
-/
namespace RouteWire.Pcep

instance : Documented OperationalStatus := .codePoint

instance : Documented MessageType := .codePoint

def DocumentedError.ofName? (name : String) : Option DocumentedError :=
  all.find? fun error => error.name = name

instance : Documented DocumentedError := .bare DocumentedError.name DocumentedError.ofName?

def Binary32.ofText? (text : List Char) : Option Binary32 := do
  let octets ← Text.octetsOfHex? text
  if octets.length = 4 then some ⟨UInt32.ofNat (beValue octets)⟩ else none

instance : Documented Binary32 := .textual (fun number => Text.hex number.octets) Binary32.ofText?

instance : Documented OpeningBody := .ofFields
  ["flags", "keepalive", "dead_timer", "session_id", "tlvs"]
  (fun body => [toDocument body.flags, toDocument body.keepalive, toDocument body.deadTimer,
    toDocument body.sessionId, toDocument body.tlvs])
  fun
    | [flags, keepalive, deadTimer, sessionId, tlvs] => do
      return ⟨← ofDocument? flags, ← ofDocument? keepalive, ← ofDocument? deadTimer,
        ← ofDocument? sessionId, ← ofDocument? tlvs⟩
    | _ => none

instance : Documented RequestParametersBody := .ofFields
  ["priority", "reoptimization", "bidirectional", "loose", "vspt", "supply_objective_function",
    "path_key", "report_order", "make_before_break", "ero_compression", "p2mp", "fragmentation",
    "request_id", "tlvs"]
  (fun body => [toDocument body.priority, toDocument body.reoptimization,
    toDocument body.bidirectional, toDocument body.loose, toDocument body.vspt,
    toDocument body.supplyObjectiveFunction, toDocument body.pathKey, toDocument body.reportOrder,
    toDocument body.makeBeforeBreak, toDocument body.eroCompression, toDocument body.p2mp,
    toDocument body.fragmentation, toDocument body.requestId, toDocument body.tlvs])
  fun
    | [priority, reoptimization, bidirectional, loose, vspt, supplyObjectiveFunction, pathKey,
        reportOrder, makeBeforeBreak, eroCompression, p2mp, fragmentation, requestId, tlvs] => do
      return ⟨← ofDocument? priority, ← ofDocument? reoptimization, ← ofDocument? bidirectional,
        ← ofDocument? loose, ← ofDocument? vspt, ← ofDocument? supplyObjectiveFunction,
        ← ofDocument? pathKey, ← ofDocument? reportOrder, ← ofDocument? makeBeforeBreak,
        ← ofDocument? eroCompression, ← ofDocument? p2mp, ← ofDocument? fragmentation,
        ← ofDocument? requestId, ← ofDocument? tlvs⟩
    | _ => none

instance : Documented NoPathBody := .ofFields
  ["nature_of_issue", "unsatisfied_constraints", "tlvs"]
  (fun body => [toDocument body.natureOfIssue, toDocument body.unsatisfiedConstraints,
    toDocument body.tlvs])
  fun
    | [natureOfIssue, unsatisfiedConstraints, tlvs] => do
      return ⟨← ofDocument? natureOfIssue, ← ofDocument? unsatisfiedConstraints,
        ← ofDocument? tlvs⟩
    | _ => none

/-- Read from a record only, not from a list. -/
instance : Documented MetricBody where
  toDocument body := .record
    [field "bound" body.bound, field "computed" body.computed,
      field "metric_type" body.metricType, field "value" body.value]
  ofDocument? d := do
    return ⟨← d.get "bound", ← d.get "computed", ← d.get "metric_type", ← d.get "value"⟩

instance : Documented LspaBody := .ofFields
  ["exclude_any", "include_any", "include_all", "setup_priority", "holding_priority",
    "local_protection_desired", "tlvs"]
  (fun body => [toDocument body.excludeAny, toDocument body.includeAny, toDocument body.includeAll,
    toDocument body.setupPriority, toDocument body.holdingPriority,
    toDocument body.localProtectionDesired, toDocument body.tlvs])
  fun
    | [excludeAny, includeAny, includeAll, setupPriority, holdingPriority, localProtectionDesired,
        tlvs] => do
      return ⟨← ofDocument? excludeAny, ← ofDocument? includeAny, ← ofDocument? includeAll,
        ← ofDocument? setupPriority, ← ofDocument? holdingPriority,
        ← ofDocument? localProtectionDesired, ← ofDocument? tlvs⟩
    | _ => none

instance : Documented SvecBody := .ofFields
  ["link_diverse", "node_diverse", "srlg_diverse", "request_ids"]
  (fun body => [toDocument body.linkDiverse, toDocument body.nodeDiverse,
    toDocument body.srlgDiverse, toDocument body.requestIds])
  fun
    | [linkDiverse, nodeDiverse, srlgDiverse, requestIds] => do
      return ⟨← ofDocument? linkDiverse, ← ofDocument? nodeDiverse, ← ofDocument? srlgDiverse,
        ← ofDocument? requestIds⟩
    | _ => none

instance : Documented NotificationBody := .ofFields
  ["notification_type", "notification_value", "tlvs"]
  (fun body => [toDocument body.notificationType, toDocument body.notificationValue,
    toDocument body.tlvs])
  fun
    | [notificationType, notificationValue, tlvs] => do
      return ⟨← ofDocument? notificationType, ← ofDocument? notificationValue, ← ofDocument? tlvs⟩
    | _ => none

instance : Documented ErrorBody := .ofFields
  ["error_type", "error_value", "tlvs"]
  (fun body => [toDocument body.errorType, toDocument body.errorValue, toDocument body.tlvs])
  fun
    | [errorType, errorValue, tlvs] => do
      return ⟨← ofDocument? errorType, ← ofDocument? errorValue, ← ofDocument? tlvs⟩
    | _ => none

instance : Documented LoadBalancingBody where
  toDocument body := .record
    [field "max_lsp" body.maxLsp, field "min_bandwidth" body.minBandwidth]
  ofDocument? d := do return ⟨← d.get "max_lsp", ← d.get "min_bandwidth"⟩

instance : Documented CloseBody := .ofFields
  ["reason", "tlvs"]
  (fun body => [toDocument body.reason, toDocument body.tlvs])
  fun
    | [reason, tlvs] => do
      return ⟨← ofDocument? reason, ← ofDocument? tlvs⟩
    | _ => none

instance : Documented ExcludeRouteBody := .ofFields
  ["fail", "subobjects"]
  (fun body => [toDocument body.fail, toDocument body.route])
  fun
    | [fail, subobjects] => do
      return ⟨← ofDocument? fail, ← ofDocument? subobjects⟩
    | _ => none

instance : Documented MonitoringBody := .ofFields
  ["liveness", "general", "processing_time", "overload", "incomplete", "monitoring_id", "tlvs"]
  (fun body => [toDocument body.liveness, toDocument body.general, toDocument body.processingTime,
    toDocument body.overload, toDocument body.incomplete, toDocument body.monitoringId,
    toDocument body.tlvs])
  fun
    | [liveness, general, processingTime, overload, incomplete, monitoringId, tlvs] => do
      return ⟨← ofDocument? liveness, ← ofDocument? general, ← ofDocument? processingTime,
        ← ofDocument? overload, ← ofDocument? incomplete, ← ofDocument? monitoringId,
        ← ofDocument? tlvs⟩
    | _ => none

instance : Documented ObjectiveFunctionBody := .ofFields
  ["code", "tlvs"]
  (fun body => [toDocument body.code, toDocument body.tlvs])
  fun
    | [code, tlvs] => do
      return ⟨← ofDocument? code, ← ofDocument? tlvs⟩
    | _ => none

instance : Documented GlobalConstraintsBody := .ofFields
  ["max_hop", "max_utilization", "min_utilization", "over_booking_factor", "tlvs"]
  (fun body => [toDocument body.maxHop, toDocument body.maxUtilization,
    toDocument body.minUtilization, toDocument body.overBookingFactor, toDocument body.tlvs])
  fun
    | [maxHop, maxUtilization, minUtilization, overBookingFactor, tlvs] => do
      return ⟨← ofDocument? maxHop, ← ofDocument? maxUtilization, ← ofDocument? minUtilization,
        ← ofDocument? overBookingFactor, ← ofDocument? tlvs⟩
    | _ => none

instance : Documented ProcessingTimeBody := .ofFields
  ["estimated", "current", "min", "max", "average", "variance"]
  (fun body => [toDocument body.estimated, toDocument body.current, toDocument body.min,
    toDocument body.max, toDocument body.average, toDocument body.variance])
  fun
    | [estimated, current, min, max, average, variance] => do
      return ⟨← ofDocument? estimated, ← ofDocument? current, ← ofDocument? min, ← ofDocument? max,
        ← ofDocument? average, ← ofDocument? variance⟩
    | _ => none

instance : Documented LspBody := .ofFields
  ["plsp_id", "delegate", "sync", "remove", "administrative", "operational", "create", "tlvs"]
  (fun body => [toDocument body.plspId, toDocument body.delegate, toDocument body.sync,
    toDocument body.remove, toDocument body.administrative, toDocument body.operational,
    toDocument body.create, toDocument body.tlvs])
  fun
    | [plspId, delegate, sync, remove, administrative, operational, create, tlvs] => do
      return ⟨← ofDocument? plspId, ← ofDocument? delegate, ← ofDocument? sync,
        ← ofDocument? remove, ← ofDocument? administrative, ← ofDocument? operational,
        ← ofDocument? create, ← ofDocument? tlvs⟩
    | _ => none

instance : Documented SrpBody := .ofFields
  ["remove", "srp_id", "tlvs"]
  (fun body => [toDocument body.remove, toDocument body.srpId, toDocument body.tlvs])
  fun
    | [remove, srpId, tlvs] => do
      return ⟨← ofDocument? remove, ← ofDocument? srpId, ← ofDocument? tlvs⟩
    | _ => none

instance {α : Type} [Documented α] : Documented (AssociationBody α) := .ofFields
  ["removal", "association_type", "association_id", "source", "tlvs"]
  (fun body => [toDocument body.removal, toDocument body.associationType,
    toDocument body.associationId, toDocument body.source, toDocument body.tlvs])
  fun
    | [removal, associationType, associationId, source, tlvs] => do
      return ⟨← ofDocument? removal, ← ofDocument? associationType, ← ofDocument? associationId,
        ← ofDocument? source, ← ofDocument? tlvs⟩
    | _ => none

instance : Documented UnknownBody := .ofFields
  ["class", "object_type", "error", "body"]
  (fun body => [toDocument body.codes.objectClass, toDocument body.codes.objectType,
    toDocument body.error, toDocument body.octets])
  fun
    | [objectClass, objectType, error, body] => do
      return ⟨⟨← ofDocument? objectClass, ← ofDocument? objectType⟩, ← ofDocument? error,
        ← ofDocument? body⟩
    | _ => none

namespace ObjectBody

def routeDocument {α : Type} [Documented α] (route : List α) : Document :=
  .record [field "subobjects" route]

def endPointsDocument {α : Type} [Documented α] (source destination : α) : Document :=
  .record [field "source" source, field "destination" destination]

def document : ObjectBody → Document
  | opening body => .form "Open" (toDocument body)
  | requestParameters body => .form "RequestParameters" (toDocument body)
  | noPath body => .form "NoPath" (toDocument body)
  | endPointsIpv4 source destination =>
    .form "EndPoints" (.form "Ipv4" (endPointsDocument source destination))
  | endPointsIpv6 source destination =>
    .form "EndPoints" (.form "Ipv6" (endPointsDocument source destination))
  | requestedBandwidth bandwidth => .form "Bandwidth" (.form "Requested" (toDocument bandwidth))
  | existingBandwidth bandwidth => .form "Bandwidth" (.form "Existing" (toDocument bandwidth))
  | metric body => .form "Metric" (toDocument body)
  | explicitRoute route => .form "ExplicitRoute" (routeDocument route)
  | reportedRoute route => .form "ReportedRoute" (routeDocument route)
  | lspa body => .form "Lspa" (toDocument body)
  | includeRoute route => .form "IncludeRoute" (routeDocument route)
  | svec body => .form "Svec" (toDocument body)
  | notification body => .form "Notification" (toDocument body)
  | error body => .form "Error" (toDocument body)
  | loadBalancing body => .form "LoadBalancing" (toDocument body)
  | close body => .form "Close" (toDocument body)
  | pathKey route => .form "PathKey" (routeDocument route)
  | excludeRoute body => .form "ExcludeRoute" (toDocument body)
  | monitoring body => .form "Monitoring" (toDocument body)
  | pccRequestIdIpv4 address => .form "PccRequestId" (.form "Ipv4" (toDocument address))
  | pccRequestIdIpv6 address => .form "PccRequestId" (.form "Ipv6" (toDocument address))
  | objectiveFunction body => .form "ObjectiveFunction" (toDocument body)
  | classType number => .form "ClassType" (.record [field "class_type" number])
  | globalConstraints body => .form "GlobalConstraints" (toDocument body)
  | pceIdIpv4 address => .form "PceId" (.form "Ipv4" (toDocument address))
  | pceIdIpv6 address => .form "PceId" (.form "Ipv6" (toDocument address))
  | processingTime body => .form "ProcessingTime" (toDocument body)
  | overload duration => .form "Overload" (.record [field "duration" duration])
  | unreachDestinationIpv4 destinations =>
    .form "UnreachDestination" (.form "Ipv4" (toDocument destinations))
  | unreachDestinationIpv6 destinations =>
    .form "UnreachDestination" (.form "Ipv6" (toDocument destinations))
  | secondaryExplicitRoute route => .form "SecondaryExplicitRoute" (routeDocument route)
  | secondaryReportedRoute route => .form "SecondaryReportedRoute" (routeDocument route)
  | lsp body => .form "Lsp" (toDocument body)
  | srp body => .form "Srp" (toDocument body)
  | vendorInformation information => .form "VendorInformation" (toDocument information)
  | associationIpv4 body => .form "Association" (toDocument body)
  | associationIpv6 body => .form "Association" (toDocument body)

def ofForms? {α β : Type} [Documented α] [Documented β] (first second : String)
    (ofFirst : α → ObjectBody) (ofSecond : β → ObjectBody) (d : Document) :
    Option ObjectBody := do
  let (name, value) ← d.form?
  if name = first then
    return ofFirst (← ofDocument? value)
  else if name = second then
    return ofSecond (← ofDocument? value)
  else
    none

def endPointsOfDocument? (d : Document) : Option ObjectBody := do
  match ← d.form? with
  | ("Ipv4", d) => return endPointsIpv4 (← d.get "source") (← d.get "destination")
  | ("Ipv6", d) => return endPointsIpv6 (← d.get "source") (← d.get "destination")
  | _ => none

def ofAssociation (body : AssociationBody Address) : ObjectBody :=
  match body with
  | ⟨removal, associationType, associationId, .ipv4 source, tlvs⟩ =>
    associationIpv4 ⟨removal, associationType, associationId, source, tlvs⟩
  | ⟨removal, associationType, associationId, .ipv6 source, tlvs⟩ =>
    associationIpv6 ⟨removal, associationType, associationId, source, tlvs⟩

def ofForm? (name : String) (d : Document) : Option ObjectBody := do
  match name with
  | "Open" => return opening (← ofDocument? d)
  | "RequestParameters" => return requestParameters (← ofDocument? d)
  | "NoPath" => return noPath (← ofDocument? d)
  | "EndPoints" => endPointsOfDocument? d
  | "Bandwidth" => ofForms? "Requested" "Existing" requestedBandwidth existingBandwidth d
  | "Metric" => return metric (← ofDocument? d)
  | "ExplicitRoute" => return explicitRoute (← d.only "subobjects")
  | "ReportedRoute" => return reportedRoute (← d.only "subobjects")
  | "Lspa" => return lspa (← ofDocument? d)
  | "IncludeRoute" => return includeRoute (← d.only "subobjects")
  | "Svec" => return svec (← ofDocument? d)
  | "Notification" => return notification (← ofDocument? d)
  | "Error" => return error (← ofDocument? d)
  | "LoadBalancing" => return loadBalancing (← ofDocument? d)
  | "Close" => return close (← ofDocument? d)
  | "PathKey" => return pathKey (← d.only "subobjects")
  | "ExcludeRoute" => return excludeRoute (← ofDocument? d)
  | "Monitoring" => return monitoring (← ofDocument? d)
  | "PccRequestId" => ofForms? "Ipv4" "Ipv6" pccRequestIdIpv4 pccRequestIdIpv6 d
  | "ObjectiveFunction" => return objectiveFunction (← ofDocument? d)
  | "ClassType" => return classType (← d.only "class_type")
  | "GlobalConstraints" => return globalConstraints (← ofDocument? d)
  | "PceId" => ofForms? "Ipv4" "Ipv6" pceIdIpv4 pceIdIpv6 d
  | "ProcessingTime" => return processingTime (← ofDocument? d)
  | "Overload" => return overload (← d.only "duration")
  | "UnreachDestination" =>
    ofForms? "Ipv4" "Ipv6" unreachDestinationIpv4 unreachDestinationIpv6 d
  | "SecondaryExplicitRoute" => return secondaryExplicitRoute (← d.only "subobjects")
  | "SecondaryReportedRoute" => return secondaryReportedRoute (← d.only "subobjects")
  | "Lsp" => return lsp (← ofDocument? d)
  | "Srp" => return srp (← ofDocument? d)
  | "VendorInformation" => return vendorInformation (← ofDocument? d)
  | "Association" => return ofAssociation (← ofDocument? d)
  | _ => none

end ObjectBody

instance : Documented ObjectValue where
  toDocument
    | .known body => body.document
    | .unknown body => .form "Unknown" (toDocument body)
  ofDocument? d := do
    match ← d.form? with
    | ("Unknown", d) => return .unknown (← ofDocument? d)
    | (name, d) => return .known (← ObjectBody.ofForm? name d)

instance : Documented ObjectFlags := .ofFields
  ["processing_rule", "ignore"]
  (fun flags => [toDocument flags.processingRule, toDocument flags.ignore])
  fun
    | [processingRule, ignore] => do
      return ⟨← ofDocument? processingRule, ← ofDocument? ignore⟩
    | _ => none

/-- Class and type are told besides flags and value, and are not read. Read from a record only. -/
instance : Documented Object where
  toDocument object := .record
    [field "class" object.value.codes.objectClass, field "type" object.value.codes.objectType,
      field "flags" object.flags, field "value" object.value]
  ofDocument? d := do return ⟨← d.get "flags", ← d.get "value"⟩

instance : Documented Message where
  toDocument message := .record
    [field "message_type" message.type, field "objects" message.objects]
  ofDocument? d := do return ⟨← d.get "message_type", ← d.get "objects"⟩

def Ignored.document (ignored : Ignored) : Document := .record
  [field "empty" ignored.isEmpty, field "unknown_tlvs" ignored.unknownTlvs.toList,
    field "rejected_tlvs" ignored.rejectedTlvs.toList,
    field "unknown_rro_subobjects" ignored.unknownRroSubobjects.toList,
    field "dropped_objects"
      (ignored.droppedObjects.toList.map fun codes => [codes.objectClass, codes.objectType])]

end RouteWire.Pcep
