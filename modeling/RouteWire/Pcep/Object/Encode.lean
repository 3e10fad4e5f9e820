import RouteWire.Pcep.Object.Basic
import RouteWire.Pcep.Subobject.Encode
/-!
Writing objects: class, type and flags, and whole length, then the fixed part of the body, then its
TLVs or its route, then zeros up to four octets. Only kinds that are registered are written; a body
that could not be read as its kind is written as it came.
-/
namespace RouteWire.Pcep

inductive ObjectWriteError where
  | sinkFull
  | tlv (error : TlvWriteError)
  | subobject (error : SubobjectWriteError)
  | unregistered (codes : ObjectCodes)
  | lengthOverflow (length : Nat)
  | invalidPlspId (plspId : UInt32)
  | invalidOpeningFlags (flags : UInt8)
  | invalidObjectType (objectType : UInt8)
  deriving DecidableEq, Repr

instance : SinkFull ObjectWriteError := ⟨.sinkFull⟩

def Binary32.octets (number : Binary32) : List UInt8 := word32 number.bits

def RequestParametersBody.flags (body : RequestParametersBody) : Nat :=
  body.priority.toNat % 8 + 8 * bitsValue [body.reoptimization, body.bidirectional, body.loose,
    body.vspt, body.supplyObjectiveFunction, body.pathKey, body.reportOrder,
    body.makeBeforeBreak, body.eroCompression, body.p2mp, body.fragmentation]

def LspBody.word (body : LspBody) : Nat :=
  body.plspId.toNat * 4096 + body.create.toNat * 128 +
    (CodePoint.code body.operational).toNat * 16 +
    bitsValue [body.delegate, body.sync, body.remove, body.administrative]

def AssociationBody.octets {α : Type} (address : α → List UInt8) (body : AssociationBody α) :
    List UInt8 :=
  [0, 0] ++ beOctets 2 (bitsValue [body.removal]) ++ word16 body.associationType ++
    word16 body.associationId ++ address body.source

namespace ObjectBody

def fixedPart : ObjectBody → List UInt8
  | opening body =>
    [UInt8.ofNat (protocolVersion.toNat * 32 + body.flags.toNat), body.keepalive, body.deadTimer,
      body.sessionId]
  | requestParameters body => beOctets 4 body.flags ++ word32 body.requestId
  | noPath body =>
    [body.natureOfIssue, if body.unsatisfiedConstraints then 128 else 0, 0, 0]
  | endPointsIpv4 source destination => source.octets ++ destination.octets
  | endPointsIpv6 source destination => source.octets ++ destination.octets
  | requestedBandwidth bandwidth | existingBandwidth bandwidth => bandwidth.octets
  | metric body =>
    [0, 0, UInt8.ofNat (bitsValue [body.bound, body.computed]), body.metricType] ++
      body.value.octets
  | explicitRoute _ | reportedRoute _ | includeRoute _ | pathKey _ => []
  | lspa body =>
    word32 body.excludeAny ++ word32 body.includeAny ++ word32 body.includeAll ++
      [body.setupPriority, body.holdingPriority,
        UInt8.ofNat (bitsValue [body.localProtectionDesired]), 0]
  | svec body =>
    0 :: beOctets 3 (bitsValue [body.linkDiverse, body.nodeDiverse, body.srlgDiverse]) ++
      body.requestIds.flatMap word32
  | notification body => [0, 0, body.notificationType, body.notificationValue]
  | error body => [0, 0, body.errorType, body.errorValue]
  | loadBalancing body => [0, 0, 0, body.maxLsp] ++ body.minBandwidth.octets
  | close body => [0, 0, 0, body.reason]
  | excludeRoute body => [0, 0] ++ beOctets 2 (bitsValue [body.fail])
  | monitoring body =>
    0 :: beOctets 3 (bitsValue [body.liveness, body.general, body.processingTime, body.overload,
      body.incomplete]) ++ word32 body.monitoringId
  | pccRequestIdIpv4 address => address.octets
  | pccRequestIdIpv6 address => address.octets
  | objectiveFunction body => word16 body.code ++ [0, 0]
  | classType number => [0, 0, 0, number]
  | globalConstraints body =>
    [body.maxHop, body.maxUtilization, body.minUtilization, body.overBookingFactor]
  | pceIdIpv4 address => address.octets
  | pceIdIpv6 address => address.octets
  | processingTime body =>
    [0, 0] ++ beOctets 2 (bitsValue [body.estimated]) ++ word32 body.current ++ word32 body.min ++
      word32 body.max ++ word32 body.average ++ word32 body.variance
  | overload duration => [0, 0] ++ word16 duration
  | unreachDestinationIpv4 destinations => destinations.flatMap Ipv4.octets
  | unreachDestinationIpv6 destinations => destinations.flatMap Ipv6.octets
  | secondaryExplicitRoute _ | secondaryReportedRoute _ => []
  | lsp body => beOctets 4 body.word
  | srp body => beOctets 4 (bitsValue [body.remove]) ++ word32 body.srpId
  | vendorInformation _ => []
  | associationIpv4 body => body.octets Ipv4.octets
  | associationIpv6 body => body.octets Ipv6.octets

inductive Tail where
  | nothing
  | tlvs (tlvs : List Tlv)
  | explicitRoute (route : List EroSubobject)
  | reportedRoute (route : List RroSubobject)
  | excludedRoute (route : List XroSubobject)
  | vendorInformation (information : VendorInformation)

def tail : ObjectBody → Tail
  | opening body => .tlvs (TlvSet.toList body.tlvs)
  | requestParameters body => .tlvs (TlvSet.toList body.tlvs)
  | noPath body => .tlvs (TlvSet.toList body.tlvs)
  | lspa body => .tlvs (TlvSet.toList body.tlvs)
  | notification body => .tlvs (TlvSet.toList body.tlvs)
  | error body => .tlvs (TlvSet.toList body.tlvs)
  | close body => .tlvs (TlvSet.toList body.tlvs)
  | monitoring body => .tlvs (TlvSet.toList body.tlvs)
  | objectiveFunction body => .tlvs (TlvSet.toList body.tlvs)
  | globalConstraints body => .tlvs (TlvSet.toList body.tlvs)
  | lsp body => .tlvs (TlvSet.toList body.tlvs)
  | srp body => .tlvs (TlvSet.toList body.tlvs)
  | associationIpv4 body => .tlvs (TlvSet.toList body.tlvs)
  | associationIpv6 body => .tlvs (TlvSet.toList body.tlvs)
  | explicitRoute route | includeRoute route | pathKey route | secondaryExplicitRoute route =>
    .explicitRoute route
  | reportedRoute route | secondaryReportedRoute route => .reportedRoute route
  | excludeRoute body => .excludedRoute body.route
  | vendorInformation information => .vendorInformation information
  | endPointsIpv4 .. | endPointsIpv6 .. | requestedBandwidth _ | existingBandwidth _ | metric _
  | svec _ | loadBalancing _ | pccRequestIdIpv4 _ | pccRequestIdIpv6 _ | classType _ | pceIdIpv4 _
  | pceIdIpv6 _ | processingTime _ | overload _ | unreachDestinationIpv4 _
  | unreachDestinationIpv6 _ => .nothing

def fixedLength : ObjectBody → Nat
  | requestParameters _ | endPointsIpv4 .. | metric _ | loadBalancing _ | monitoring _ | srp _ => 8
  | lspa _ | pccRequestIdIpv6 _ | pceIdIpv6 _ => 16
  | endPointsIpv6 .. => 2 * 16
  | processingTime _ => 24
  | associationIpv4 _ => 8 + 4
  | associationIpv6 _ => 8 + 16
  | explicitRoute _ | reportedRoute _ | includeRoute _ | pathKey _ | secondaryExplicitRoute _
  | secondaryReportedRoute _ | vendorInformation _ => 0
  | svec body => 4 + 4 * body.requestIds.length
  | unreachDestinationIpv4 destinations => 4 * destinations.length
  | unreachDestinationIpv6 destinations => 16 * destinations.length
  | opening _ | noPath _ | requestedBandwidth _ | existingBandwidth _ | notification _ | error _
  | close _ | excludeRoute _ | pccRequestIdIpv4 _ | objectiveFunction _ | classType _
  | globalConstraints _ | pceIdIpv4 _ | overload _ | lsp _ => 4

namespace Tail

def length (registry : Registry) : Tail → Nat
  | nothing => 0
  | tlvs list => Tlv.totalLength registry list
  | explicitRoute route => Subobject.eroLength route
  | reportedRoute route => Subobject.rroLength registry route
  | excludedRoute route => Subobject.xroLength route
  | vendorInformation information => information.valueLength

def script (registry : Registry) : Tail → Script ObjectWriteError
  | nothing => .done
  | tlvs list => (Tlv.scriptAll registry list).mapError .tlv
  | explicitRoute route => (Subobject.eroScript registry route).mapError .subobject
  | reportedRoute route => (Subobject.rroScript registry route).mapError .subobject
  | excludedRoute route => (Subobject.xroScript registry route).mapError .subobject
  | vendorInformation information => information.script.mapError .tlv

end Tail

def check : ObjectBody → Option ObjectWriteError
  | opening body => if 31 < body.flags then some (.invalidOpeningFlags body.flags) else none
  | lsp body => if 0xFFFFF < body.plspId then some (.invalidPlspId body.plspId) else none
  | _ => none

end ObjectBody

namespace ObjectValue

def length (registry : Registry) : ObjectValue → Nat
  | known body => body.fixedLength + body.tail.length registry
  | unknown body => body.octets.length

/-- Whether class and type are registered, as whatever kind. A body that could not be read as its
kind needs no registration. -/
def isRegistered (registry : Registry) : ObjectValue → Bool
  | known body => (registry.object? body.kind.codes).isSome
  | unknown _ => true

def check : ObjectValue → Option ObjectWriteError
  | known body => body.check
  | unknown body =>
    if 15 < body.codes.objectType then some (.invalidObjectType body.codes.objectType) else none

def script (registry : Registry) : ObjectValue → Script ObjectWriteError
  | known body => .emit body.fixedPart ++ body.tail.script registry
  | unknown body => .emit body.octets

end ObjectValue

namespace Object

def unpaddedLength (registry : Registry) (object : Object) : Nat :=
  4 + object.value.length registry

def length (registry : Registry) (object : Object) : Nat :=
  padded (object.unpaddedLength registry)

def lengthCheck (length : Nat) : Option ObjectWriteError :=
  if 65535 < length then some (.lengthOverflow length) else none

def header (object : Object) (length : Nat) : List UInt8 :=
  let codes := object.value.codes
  [codes.objectClass, UInt8.ofNat (codes.objectType.toNat * 16 + object.flags.value)] ++
    beOctets 2 length

def script (registry : Registry) (object : Object) : Script ObjectWriteError :=
  if object.value.isRegistered registry then
    .check (lengthCheck (object.length registry)) ++ (.check object.value.check ++
      (.emit (object.header (object.length registry)) ++
        (object.value.script registry ++
          .emit (zeros (padding (object.unpaddedLength registry))))))
  else
    .fail (.unregistered object.value.codes)

def totalLength (registry : Registry) (objects : List Object) : Nat :=
  (objects.map (length registry)).foldr (· + ·) 0

end Object
end RouteWire.Pcep
