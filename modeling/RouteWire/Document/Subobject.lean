import RouteWire.Document.Tlv
import RouteWire.Pcep.Subobject.Basic
/-!
Documents of subobjects.
-/
namespace RouteWire.Pcep

instance : Documented NaiType := .codePoint

instance : Documented XroAttribute := .codePoint

instance : Documented UnnumberedInterface := .ofFields
  ["router_id", "interface_id"]
  (fun hop => [toDocument hop.routerId, toDocument hop.interfaceId])
  fun
    | [routerId, interfaceId] => do
      return ⟨← ofDocument? routerId, ← ofDocument? interfaceId⟩
    | _ => none

instance {α : Type} [Documented α] : Documented (PathKey α) := .ofFields
  ["path_key", "pce_id"]
  (fun key => [toDocument key.key, toDocument key.pceId])
  fun
    | [pathKey, pceId] => do
      return ⟨← ofDocument? pathKey, ← ofDocument? pceId⟩
    | _ => none

instance : Documented Label where
  toDocument
    | .type1 label => .form "Type1" (toDocument label)
    | .generalized octets => .form "Generalized" (toDocument octets)
    | .wavebandSwitching wavebandId startLabel endLabel => .form "WavebandSwitching" (.record
        [field "waveband_id" wavebandId, field "start_label" startLabel,
          field "end_label" endLabel])
  ofDocument? d := do
    match ← d.form? with
    | ("Type1", d) => return .type1 (← ofDocument? d)
    | ("Generalized", d) => return .generalized (← ofDocument? d)
    | ("WavebandSwitching", d) =>
      return .wavebandSwitching (← d.get "waveband_id") (← d.get "start_label")
        (← d.get "end_label")
    | _ => none

instance : Documented Nai where
  toDocument
    | .ipv4NodeId node => .form "Ipv4NodeId" (toDocument node)
    | .ipv6NodeId node => .form "Ipv6NodeId" (toDocument node)
    | .ipv4Adjacency localAddress remoteAddress => .form "Ipv4Adjacency" (.record
        [field "local" localAddress, field "remote" remoteAddress])
    | .ipv6GlobalAdjacency localAddress remoteAddress => .form "Ipv6GlobalAdjacency" (.record
        [field "local" localAddress, field "remote" remoteAddress])
    | .unnumberedAdjacency localNode localInterface remoteNode remoteInterface =>
      .form "UnnumberedAdjacency" (.record
        [field "local_node_id" localNode, field "local_interface_id" localInterface,
          field "remote_node_id" remoteNode, field "remote_interface_id" remoteInterface])
    | .ipv6LinkLocalAdjacency localAddress localInterface remoteAddress remoteInterface =>
      .form "Ipv6LinkLocalAdjacency" (.record
        [field "local" localAddress, field "local_interface_id" localInterface,
          field "remote" remoteAddress, field "remote_interface_id" remoteInterface])
  ofDocument? d := do
    match ← d.form? with
    | ("Ipv4NodeId", d) => return .ipv4NodeId (← ofDocument? d)
    | ("Ipv6NodeId", d) => return .ipv6NodeId (← ofDocument? d)
    | ("Ipv4Adjacency", d) => return .ipv4Adjacency (← d.get "local") (← d.get "remote")
    | ("Ipv6GlobalAdjacency", d) =>
      return .ipv6GlobalAdjacency (← d.get "local") (← d.get "remote")
    | ("UnnumberedAdjacency", d) =>
      return .unnumberedAdjacency (← d.get "local_node_id") (← d.get "local_interface_id")
        (← d.get "remote_node_id") (← d.get "remote_interface_id")
    | ("Ipv6LinkLocalAdjacency", d) =>
      return .ipv6LinkLocalAdjacency (← d.get "local") (← d.get "local_interface_id")
        (← d.get "remote") (← d.get "remote_interface_id")
    | _ => none

instance : Documented Segment := .ofFields
  ["nai_type", "control_word", "mpls_label", "sid", "nai"]
  (fun segment => [toDocument segment.naiType, toDocument segment.controlWord,
    toDocument segment.mplsLabel, toDocument segment.sid, toDocument segment.nai])
  fun
    | [naiType, controlWord, mplsLabel, sid, nai] => do
      return ⟨← ofDocument? naiType, ← ofDocument? controlWord, ← ofDocument? mplsLabel,
        ← ofDocument? sid, ← ofDocument? nai⟩
    | _ => none

instance : Documented Srv6Segment := .ofFields
  ["nai_type", "verification", "endpoint_behavior", "sid", "sid_structure", "nai"]
  (fun segment => [toDocument segment.naiType, toDocument segment.verification,
    toDocument segment.behavior, toDocument segment.sid, toDocument segment.parts,
    toDocument segment.nai])
  fun
    | [naiType, verification, endpointBehavior, sid, sidStructure, nai] => do
      return ⟨← ofDocument? naiType, ← ofDocument? verification, ← ofDocument? endpointBehavior,
        ← ofDocument? sid, ← ofDocument? sidStructure, ← ofDocument? nai⟩
    | _ => none

instance : Documented EroValue where
  toDocument
    | .ipv4Prefix network => .form "Ipv4Prefix" (toDocument network)
    | .ipv6Prefix network => .form "Ipv6Prefix" (toDocument network)
    | .label backward label =>
      .form "Label" (.record [field "upstream" backward, field "label" label])
    | .unnumberedInterface hop => .form "UnnumberedInterface" (toDocument hop)
    | .asNumber number => .form "AsNumber" (toDocument number)
    | .segmentRouting segment => .form "SegmentRouting" (toDocument segment)
    | .srv6 segment => .form "Srv6" (toDocument segment)
    | .pathKeyIpv4 key => .form "PathKeyIpv4" (toDocument key)
    | .pathKeyIpv6 key => .form "PathKeyIpv6" (toDocument key)
  ofDocument? d := do
    match ← d.form? with
    | ("Ipv4Prefix", d) => return .ipv4Prefix (← ofDocument? d)
    | ("Ipv6Prefix", d) => return .ipv6Prefix (← ofDocument? d)
    | ("Label", d) =>
      let [backward, label] ← d.values? ["upstream", "label"] | none
      return .label (← ofDocument? backward) (← ofDocument? label)
    | ("UnnumberedInterface", d) => return .unnumberedInterface (← ofDocument? d)
    | ("AsNumber", d) => return .asNumber (← ofDocument? d)
    | ("SegmentRouting", d) => return .segmentRouting (← ofDocument? d)
    | ("Srv6", d) => return .srv6 (← ofDocument? d)
    | ("PathKeyIpv4", d) => return .pathKeyIpv4 (← ofDocument? d)
    | ("PathKeyIpv6", d) => return .pathKeyIpv6 (← ofDocument? d)
    | _ => none

instance : Documented EroSubobject := .ofFields
  ["loose", "value"]
  (fun subobject => [toDocument subobject.loose, toDocument subobject.value])
  fun
    | [loose, value] => do
      return ⟨← ofDocument? loose, ← ofDocument? value⟩
    | _ => none

instance : Documented XroValue where
  toDocument
    | .ipv4Prefix network aspect =>
      .form "Ipv4Prefix" (.record [field "prefix" network, field "attribute" aspect])
    | .ipv6Prefix network aspect =>
      .form "Ipv6Prefix" (.record [field "prefix" network, field "attribute" aspect])
    | .unnumberedInterface aspect hop =>
      .form "UnnumberedInterface" (.record [field "attribute" aspect, field "interface" hop])
    | .asNumber number => .form "AsNumber" (toDocument number)
    | .srlg id aspect => .form "Srlg" (.record [field "srlg_id" id, field "attribute" aspect])
    | .pathKeyIpv4 key => .form "PathKeyIpv4" (toDocument key)
    | .pathKeyIpv6 key => .form "PathKeyIpv6" (toDocument key)
  ofDocument? d := do
    match ← d.form? with
    | ("Ipv4Prefix", d) => return .ipv4Prefix (← d.get "prefix") (← d.get "attribute")
    | ("Ipv6Prefix", d) => return .ipv6Prefix (← d.get "prefix") (← d.get "attribute")
    | ("UnnumberedInterface", d) =>
      return .unnumberedInterface (← d.get "attribute") (← d.get "interface")
    | ("AsNumber", d) => return .asNumber (← ofDocument? d)
    | ("Srlg", d) => return .srlg (← d.get "srlg_id") (← d.get "attribute")
    | ("PathKeyIpv4", d) => return .pathKeyIpv4 (← ofDocument? d)
    | ("PathKeyIpv6", d) => return .pathKeyIpv6 (← ofDocument? d)
    | _ => none

instance : Documented XroSubobject := .ofFields
  ["mandatory", "value"]
  (fun subobject => [toDocument subobject.mandatory, toDocument subobject.value])
  fun
    | [mandatory, value] => do
      return ⟨← ofDocument? mandatory, ← ofDocument? value⟩
    | _ => none

instance : Documented Protection := .ofFields
  ["available", "in_use"]
  (fun protection => [toDocument protection.available, toDocument protection.inUse])
  fun
    | [available, inUse] => do
      return ⟨← ofDocument? available, ← ofDocument? inUse⟩
    | _ => none

instance : Documented RroSubobject where
  toDocument
    | .ipv4Prefix network protection =>
      .form "Ipv4Prefix" (.record [field "prefix" network, field "protection" protection])
    | .ipv6Prefix network protection =>
      .form "Ipv6Prefix" (.record [field "prefix" network, field "protection" protection])
    | .label backward wide label => .form "Label" (.record
        [field "upstream" backward, field "global" wide, field "label" label])
    | .unnumberedInterface protection hop =>
      .form "UnnumberedInterface" (.record
        [field "protection" protection, field "interface" hop])
    | .segmentRouting segment => .form "SegmentRouting" (toDocument segment)
    | .pathKeyIpv4 key => .form "PathKeyIpv4" (toDocument key)
    | .pathKeyIpv6 key => .form "PathKeyIpv6" (toDocument key)
  ofDocument? d := do
    match ← d.form? with
    | ("Ipv4Prefix", d) => return .ipv4Prefix (← d.get "prefix") (← d.get "protection")
    | ("Ipv6Prefix", d) => return .ipv6Prefix (← d.get "prefix") (← d.get "protection")
    | ("Label", d) =>
      let [backward, wide, label] ← d.values? ["upstream", "global", "label"] | none
      return .label (← ofDocument? backward) (← ofDocument? wide) (← ofDocument? label)
    | ("UnnumberedInterface", d) =>
      return .unnumberedInterface (← d.get "protection") (← d.get "interface")
    | ("SegmentRouting", d) => return .segmentRouting (← ofDocument? d)
    | ("PathKeyIpv4", d) => return .pathKeyIpv4 (← ofDocument? d)
    | ("PathKeyIpv6", d) => return .pathKeyIpv6 (← ofDocument? d)
    | _ => none

end RouteWire.Pcep
