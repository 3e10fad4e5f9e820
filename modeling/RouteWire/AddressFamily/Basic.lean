import RouteWire.CodePoint
/-!
Address families, subsequent address families, and the pairs of them that name a kind of route.

Main statements: `AddressType.ofFamilies?_eq_some_iff`, by which a pair of families names at most one
address type, namely the one that has this pair.
-/
namespace RouteWire

inductive AddressFamily where
  | ipv4 | ipv6 | l2vpn | bgpLs
  deriving DecidableEq, Repr

instance : CodePoint AddressFamily UInt16 where
  all := [.ipv4, .ipv6, .l2vpn, .bgpLs]
  code
    | .ipv4 => 1
    | .ipv6 => 2
    | .l2vpn => 25
    | .bgpLs => 16388
  name
    | .ipv4 => "IPv4"
    | .ipv6 => "IPv6"
    | .l2vpn => "L2vpn"
    | .bgpLs => "BgpLs"

instance : LawfulCodePoint AddressFamily UInt16 where
  ofCode?_code value := by cases value <;> rfl

inductive SubsequentAddressFamily where
  | unicast | multicast | nlriMplsLabels | bgpEvpn | bgpLs | bgpLsVpn | srTePolicy | mplsVpn
  | routeTargetConstrains | flowSpecFilter | flowSpecFilterL3Vpn
  deriving DecidableEq, Repr

instance : CodePoint SubsequentAddressFamily UInt8 where
  all := [.unicast, .multicast, .nlriMplsLabels, .bgpEvpn, .bgpLs, .bgpLsVpn, .srTePolicy, .mplsVpn,
    .routeTargetConstrains, .flowSpecFilter, .flowSpecFilterL3Vpn]
  code
    | .unicast => 1
    | .multicast => 2
    | .nlriMplsLabels => 4
    | .bgpEvpn => 70
    | .bgpLs => 71
    | .bgpLsVpn => 72
    | .srTePolicy => 73
    | .mplsVpn => 128
    | .routeTargetConstrains => 132
    | .flowSpecFilter => 133
    | .flowSpecFilterL3Vpn => 134
  name
    | .unicast => "Unicast"
    | .multicast => "Multicast"
    | .nlriMplsLabels => "NlriMplsLabels"
    | .bgpEvpn => "BgpEvpn"
    | .bgpLs => "BgpLs"
    | .bgpLsVpn => "BgpLsVpn"
    | .srTePolicy => "SrTePolicy"
    | .mplsVpn => "MplsVpn"
    | .routeTargetConstrains => "RouteTargetConstrains"
    | .flowSpecFilter => "FlowSpecFilter"
    | .flowSpecFilterL3Vpn => "FlowSpecFilterL3Vpn"

instance : LawfulCodePoint SubsequentAddressFamily UInt8 where
  ofCode?_code value := by cases value <;> rfl

inductive AddressType where
  | ipv4Unicast | ipv4Multicast | ipv4NlriMplsLabels | ipv4MplsLabeledVpn | ipv4FlowSpec
  | ipv4FlowSpecL3Vpn | ipv4RouteTargetConstrains | ipv4SrTePolicy
  | ipv6Unicast | ipv6Multicast | ipv6NlriMplsLabels | ipv6MplsLabeledVpn | ipv6FlowSpec
  | ipv6FlowSpecL3Vpn | ipv6SrTePolicy
  | l2vpnBgpEvpn | bgpLs | bgpLsVpn
  deriving DecidableEq, Repr

namespace AddressType

def all : List AddressType :=
  [ipv4Unicast, ipv4Multicast, ipv4NlriMplsLabels, ipv4MplsLabeledVpn, ipv4FlowSpec,
    ipv4FlowSpecL3Vpn, ipv4RouteTargetConstrains, ipv4SrTePolicy, ipv6Unicast, ipv6Multicast,
    ipv6NlriMplsLabels, ipv6MplsLabeledVpn, ipv6FlowSpec, ipv6FlowSpecL3Vpn, ipv6SrTePolicy,
    l2vpnBgpEvpn, bgpLs, bgpLsVpn]

def name : AddressType → String
  | ipv4Unicast => "Ipv4Unicast"
  | ipv4Multicast => "Ipv4Multicast"
  | ipv4NlriMplsLabels => "Ipv4NlriMplsLabels"
  | ipv4MplsLabeledVpn => "Ipv4MplsLabeledVpn"
  | ipv4FlowSpec => "Ipv4FlowSpec"
  | ipv4FlowSpecL3Vpn => "Ipv4FlowSpecL3Vpn"
  | ipv4RouteTargetConstrains => "Ipv4RouteTargetConstrains"
  | ipv4SrTePolicy => "Ipv4SrTePolicy"
  | ipv6Unicast => "Ipv6Unicast"
  | ipv6Multicast => "Ipv6Multicast"
  | ipv6NlriMplsLabels => "Ipv6NlriMplsLabels"
  | ipv6MplsLabeledVpn => "Ipv6MplsLabeledVpn"
  | ipv6FlowSpec => "Ipv6FlowSpec"
  | ipv6FlowSpecL3Vpn => "Ipv6FlowSpecL3Vpn"
  | ipv6SrTePolicy => "Ipv6SrTePolicy"
  | l2vpnBgpEvpn => "L2VpnBgpEvpn"
  | bgpLs => "BgpLs"
  | bgpLsVpn => "BgpLsVpn"

def ofName? (wanted : String) : Option AddressType := all.find? fun type => type.name = wanted

def family : AddressType → AddressFamily
  | ipv4Unicast | ipv4Multicast | ipv4NlriMplsLabels | ipv4MplsLabeledVpn | ipv4FlowSpec
  | ipv4FlowSpecL3Vpn | ipv4RouteTargetConstrains | ipv4SrTePolicy => .ipv4
  | ipv6Unicast | ipv6Multicast | ipv6NlriMplsLabels | ipv6MplsLabeledVpn | ipv6FlowSpec
  | ipv6FlowSpecL3Vpn | ipv6SrTePolicy => .ipv6
  | l2vpnBgpEvpn => .l2vpn
  | bgpLs | bgpLsVpn => .bgpLs

def subsequentFamily : AddressType → SubsequentAddressFamily
  | ipv4Unicast | ipv6Unicast => .unicast
  | ipv4Multicast | ipv6Multicast => .multicast
  | ipv4NlriMplsLabels | ipv6NlriMplsLabels => .nlriMplsLabels
  | ipv4MplsLabeledVpn | ipv6MplsLabeledVpn => .mplsVpn
  | ipv4FlowSpec | ipv6FlowSpec => .flowSpecFilter
  | ipv4FlowSpecL3Vpn | ipv6FlowSpecL3Vpn => .flowSpecFilterL3Vpn
  | ipv4RouteTargetConstrains => .routeTargetConstrains
  | ipv4SrTePolicy | ipv6SrTePolicy => .srTePolicy
  | l2vpnBgpEvpn => .bgpEvpn
  | bgpLs => .bgpLs
  | bgpLsVpn => .bgpLsVpn

def ofFamilies? (family : AddressFamily) (subsequent : SubsequentAddressFamily) :
    Option AddressType :=
  all.find? fun type => type.family = family ∧ type.subsequentFamily = subsequent

theorem ofFamilies?_eq_some_iff {family : AddressFamily} {subsequent : SubsequentAddressFamily}
    {type : AddressType} :
    ofFamilies? family subsequent = some type ↔
      type.family = family ∧ type.subsequentFamily = subsequent := by
  constructor
  · intro found
    simpa using List.find?_some found
  · rintro ⟨rfl, rfl⟩
    cases type <;> rfl

end AddressType
end RouteWire
