import RouteWire.Bgp.Capability
import RouteWire.Octets
import RouteWire.Script
/-!
Writing capabilities. A family is written with the codes that the registry gives its address type.
-/
namespace RouteWire.Bgp

inductive CapabilityWriteError where
  | sinkFull
  | unregisteredType (type : AddressType)
  | invalidRestartTime (time : UInt16)
  | lengthOverflow (length : Nat)
  deriving DecidableEq, Repr

instance : SinkFull CapabilityWriteError := ⟨.sinkFull⟩

def CapabilityWriteError.message? : CapabilityWriteError → Option String
  | unregisteredType type => some type.unregisteredMessage
  | sinkFull | invalidRestartTime _ | lengthOverflow _ => none

namespace Capability

def check (capability : Capability) : Option CapabilityWriteError :=
  if 255 < capability.valueLength then
    some (.lengthOverflow capability.valueLength)
  else
    match capability with
    | gracefulRestart restart =>
      if 4095 < restart.time then some (.invalidRestartTime restart.time) else none
    | _ => none

def withCodes (registry : FamilyRegistry) (type : AddressType) (octets : FamilyCodes → List UInt8) :
    Script CapabilityWriteError :=
  match registry.codesOf? type with
  | some codes => Script.emit (octets codes)
  | none => Script.fail (.unregisteredType type)

def familyEntry (registry : FamilyRegistry) (type : AddressType) (flags : List Bool) :
    Script CapabilityWriteError :=
  withCodes registry type fun codes =>
    word16 codes.afi ++ [codes.safi, UInt8.ofNat (bitsValue flags)]

def valueScript (registry : FamilyRegistry) : Capability → Script CapabilityWriteError
  | multiProtocolExtensions type =>
    withCodes registry type fun codes => word16 codes.afi ++ [0, codes.safi]
  | routeRefresh | enhancedRouteRefresh | extendedMessage => .done
  | fourOctetAs number => .emit (word32 number)
  | gracefulRestart restart =>
    .emit (beOctets 2 (restart.time.toNat +
      16384 * bitsValue [restart.gracefulNotification, restart.restart])) ++
    .concat (restart.families.map fun family =>
      familyEntry registry family.type
        [false, false, false, false, false, false, false, family.forwardingState])
  | addPath families =>
    .concat (families.map fun family =>
      familyEntry registry family.type [family.receive, family.send])
  | unrecognized _ value => .emit value

def script (registry : FamilyRegistry) (capability : Capability) : Script CapabilityWriteError :=
  .check capability.check ++
    (.emit [capability.code, UInt8.ofNat capability.valueLength] ++ capability.valueScript registry)

end Capability
end RouteWire.Bgp
