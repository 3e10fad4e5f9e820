import RouteWire.Bgp.Decode
import RouteWire.Bgp.Encode
import RouteWire.Document.Address
/-!
Documents of capabilities.
-/
namespace RouteWire.Bgp

instance : Documented RestartFamily := .ofFields
  ["forwarding_state", "address_type"]
  (fun family => [toDocument family.forwardingState, toDocument family.type])
  fun
    | [forwardingState, addressType] => do
      return ⟨← ofDocument? forwardingState, ← ofDocument? addressType⟩
    | _ => none

instance : Documented PathFamily := .ofFields
  ["address_type", "send", "receive"]
  (fun family => [toDocument family.type, toDocument family.send, toDocument family.receive])
  fun
    | [addressType, send, receive] => do
      return ⟨← ofDocument? addressType, ← ofDocument? send, ← ofDocument? receive⟩
    | _ => none

instance : Documented GracefulRestart := .ofFields
  ["restart", "graceful_notification", "time", "address_families"]
  (fun restart => [toDocument restart.restart, toDocument restart.gracefulNotification,
    toDocument restart.time, toDocument restart.families])
  fun
    | [restart, gracefulNotification, time, addressFamilies] => do
      return ⟨← ofDocument? restart, ← ofDocument? gracefulNotification, ← ofDocument? time,
        ← ofDocument? addressFamilies⟩
    | _ => none

namespace Capability

def document : Capability → Document
  | multiProtocolExtensions type => .form "MultiProtocolExtensions" (toDocument type)
  | routeRefresh => .text "RouteRefresh"
  | enhancedRouteRefresh => .text "EnhancedRouteRefresh"
  | extendedMessage => .text "ExtendedMessage"
  | fourOctetAs number => .form "FourOctetAs" (toDocument number)
  | gracefulRestart restart => .form "GracefulRestart" (toDocument restart)
  | addPath families => .form "AddPath" (.record [field "address_families" families])
  | unrecognized code value =>
    .form "Unrecognized" (.record [field "code" code, field "value" value])

def ofForm? (name : String) (d : Document) : Option Capability := do
  match name, d with
  | "RouteRefresh", .null => return routeRefresh
  | "EnhancedRouteRefresh", .null => return enhancedRouteRefresh
  | "ExtendedMessage", .null => return extendedMessage
  | "MultiProtocolExtensions", d => return multiProtocolExtensions (← ofDocument? d)
  | "FourOctetAs", d => return fourOctetAs (← ofDocument? d)
  | "GracefulRestart", d => return gracefulRestart (← ofDocument? d)
  | "AddPath", d => return addPath (← d.only "address_families")
  | "Unrecognized", d => return unrecognized (← d.get "code") (← d.get "value")
  | _, _ => none

instance : Documented Capability where
  toDocument := document
  ofDocument? d := do
    let (name, value) ← d.form?
    ofForm? name value

end Capability
end RouteWire.Bgp
