import RouteWire.Address.Network
import RouteWire.AddressFamily.Registry
import RouteWire.Document
/-!
Documents of addresses, networks, and the families of addresses.
-/
namespace RouteWire

instance : Documented Ipv4 := .textual Ipv4.toText Ipv4.ofText?

instance : Documented Ipv6 := .textual Ipv6.toText Ipv6.ofText?

instance : Documented Address := .textual Address.toText Address.ofText?

instance : Documented Ipv4Network := .textual Ipv4Network.toText Ipv4Network.ofText?

instance : Documented Ipv6Network := .textual Ipv6Network.toText Ipv6Network.ofText?

instance : Documented AddressType := .bare AddressType.name AddressType.ofName?

instance : Documented FamilyCodes where
  toDocument codes := .record [field "afi" codes.afi, field "safi" codes.safi]
  ofDocument? d := do return ⟨← d.get "afi", ← d.get "safi"⟩

end RouteWire
