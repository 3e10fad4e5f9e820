import RouteWire.AddressFamily.Registry
/-!
BGP capabilities: what a speaker announces that it can do when a session opens.
-/
namespace RouteWire.Bgp

inductive CapabilityCode where
  | multiProtocolExtensions | routeRefresh | extendedMessage | gracefulRestart | fourOctetAs
  | addPath | enhancedRouteRefresh
  deriving DecidableEq, Repr

instance : CodePoint CapabilityCode UInt8 where
  all := [.multiProtocolExtensions, .routeRefresh, .extendedMessage, .gracefulRestart, .fourOctetAs,
    .addPath, .enhancedRouteRefresh]
  code
    | .multiProtocolExtensions => 1
    | .routeRefresh => 2
    | .extendedMessage => 6
    | .gracefulRestart => 64
    | .fourOctetAs => 65
    | .addPath => 69
    | .enhancedRouteRefresh => 70
  name
    | .multiProtocolExtensions => "MultiProtocolExtensions"
    | .routeRefresh => "RouteRefresh"
    | .extendedMessage => "ExtendedMessage"
    | .gracefulRestart => "GracefulRestart"
    | .fourOctetAs => "FourOctetAs"
    | .addPath => "AddPath"
    | .enhancedRouteRefresh => "EnhancedRouteRefresh"

instance : LawfulCodePoint CapabilityCode UInt8 where
  ofCode?_code value := by cases value <;> rfl

structure RestartFamily where
  forwardingState : Bool
  type : AddressType
  deriving DecidableEq, Repr

structure GracefulRestart where
  restart : Bool
  gracefulNotification : Bool
  time : UInt16
  families : List RestartFamily
  deriving DecidableEq, Repr

structure PathFamily where
  type : AddressType
  send : Bool
  receive : Bool
  deriving DecidableEq, Repr

/-- A capability. A code without a representation of its own keeps its value as it is. -/
inductive Capability where
  | multiProtocolExtensions (type : AddressType)
  | routeRefresh
  | enhancedRouteRefresh
  | extendedMessage
  | fourOctetAs (number : UInt32)
  | gracefulRestart (restart : GracefulRestart)
  | addPath (families : List PathFamily)
  | unrecognized (code : UInt8) (value : List UInt8)
  deriving DecidableEq, Repr

namespace Capability

def code : Capability → UInt8
  | multiProtocolExtensions _ => CodePoint.code CapabilityCode.multiProtocolExtensions
  | routeRefresh => CodePoint.code CapabilityCode.routeRefresh
  | enhancedRouteRefresh => CodePoint.code CapabilityCode.enhancedRouteRefresh
  | extendedMessage => CodePoint.code CapabilityCode.extendedMessage
  | fourOctetAs _ => CodePoint.code CapabilityCode.fourOctetAs
  | gracefulRestart _ => CodePoint.code CapabilityCode.gracefulRestart
  | addPath _ => CodePoint.code CapabilityCode.addPath
  | unrecognized code _ => code

def valueLength : Capability → Nat
  | multiProtocolExtensions _ => 4
  | routeRefresh | enhancedRouteRefresh | extendedMessage => 0
  | fourOctetAs _ => 4
  | gracefulRestart restart => 2 + restart.families.length * 4
  | addPath families => families.length * 4
  | unrecognized _ value => value.length

def length (capability : Capability) : Nat := 2 + capability.valueLength

end Capability
end RouteWire.Bgp
