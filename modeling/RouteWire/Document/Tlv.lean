import RouteWire.Document.Address
import RouteWire.Pcep.TlvSet
/-!
Documents of TLVs and of the sets of them that objects carry.
-/
namespace RouteWire.Pcep

instance : Documented NoPathVector where
  toDocument vector := toDocument vector.flags
  ofDocument? d := (ofDocument? d).map .mk

instance : Documented VendorSubTlv := .ofFields
  ["code", "value"]
  (fun record => [toDocument record.code, toDocument record.value])
  fun
    | [code, value] => do
      return ⟨← ofDocument? code, ← ofDocument? value⟩
    | _ => none

instance : Documented VendorPayload where
  toDocument
    | .subTlvs records => .form "SubTlvs" (toDocument records)
    | .unstructured octets => .form "Opaque" (toDocument octets)
  ofDocument? d := do
    match ← d.form? with
    | ("SubTlvs", value) => return .subTlvs (← ofDocument? value)
    | ("Opaque", value) => return .unstructured (← ofDocument? value)
    | _ => none

instance : Documented VendorInformation := .ofFields
  ["enterprise_number", "payload"]
  (fun information => [toDocument information.enterprise, toDocument information.payload])
  fun
    | [enterpriseNumber, payload] => do
      return ⟨← ofDocument? enterpriseNumber, ← ofDocument? payload⟩
    | _ => none

instance : Documented StatefulPceCapability := .ofFields
  ["lsp_update", "include_db_version", "lsp_instantiation", "triggered_resync", "delta_lsp_sync",
    "triggered_initial_sync"]
  (fun capability => [toDocument capability.lspUpdate, toDocument capability.includeDbVersion,
    toDocument capability.lspInstantiation, toDocument capability.triggeredResync,
    toDocument capability.deltaLspSync, toDocument capability.triggeredInitialSync])
  fun
    | [lspUpdate, includeDbVersion, lspInstantiation, triggeredResync, deltaLspSync,
        triggeredInitialSync] => do
      return ⟨← ofDocument? lspUpdate, ← ofDocument? includeDbVersion,
        ← ofDocument? lspInstantiation, ← ofDocument? triggeredResync, ← ofDocument? deltaLspSync,
        ← ofDocument? triggeredInitialSync⟩
    | _ => none

instance {α : Type} [Documented α] : Documented (LspIdentifiers α) := .ofFields
  ["tunnel_sender", "lsp_id", "tunnel_id", "extended_tunnel_id", "tunnel_endpoint"]
  (fun identifiers => [toDocument identifiers.tunnelSender, toDocument identifiers.lspId,
    toDocument identifiers.tunnelId, toDocument identifiers.extendedTunnelId,
    toDocument identifiers.tunnelEndpoint])
  fun
    | [tunnelSender, lspId, tunnelId, extendedTunnelId, tunnelEndpoint] => do
      return ⟨← ofDocument? tunnelSender, ← ofDocument? lspId, ← ofDocument? tunnelId,
        ← ofDocument? extendedTunnelId, ← ofDocument? tunnelEndpoint⟩
    | _ => none

instance : Documented UserErrorSpec := .ofFields
  ["enterprise_number", "sub_org", "value", "description", "subobjects"]
  (fun spec => [toDocument spec.enterprise, toDocument spec.subOrganisation, toDocument spec.value,
    toDocument spec.description, toDocument spec.subobjects])
  fun
    | [enterpriseNumber, subOrg, value, description, subobjects] => do
      return ⟨← ofDocument? enterpriseNumber, ← ofDocument? subOrg, ← ofDocument? value,
        ← ofDocument? description, ← ofDocument? subobjects⟩
    | _ => none

instance : Documented RsvpErrorSpec where
  toDocument
    | .errorSpec node flags code value => .form "ErrorSpec" (.record
        [field "node" node, field "flags" flags, field "code" code, field "value" value])
    | .userErrorSpec spec => .form "UserErrorSpec" (toDocument spec)
  ofDocument? d := do
    match ← d.form? with
    | ("ErrorSpec", d) =>
      return .errorSpec (← d.get "node") (← d.get "flags") (← d.get "code") (← d.get "value")
    | ("UserErrorSpec", d) => return .userErrorSpec (← ofDocument? d)
    | _ => none

instance : Documented AssociationRange := .ofFields
  ["association_type", "start_id", "range"]
  (fun range => [toDocument range.associationType, toDocument range.startId,
    toDocument range.range])
  fun
    | [associationType, startId, range] => do
      return ⟨← ofDocument? associationType, ← ofDocument? startId, ← ofDocument? range⟩
    | _ => none

instance : Documented SrPceCapability := .ofFields
  ["nai_resolution", "unlimited_msd", "msd"]
  (fun capability => [toDocument capability.naiResolution, toDocument capability.unlimitedDepth,
    toDocument capability.maximumDepth])
  fun
    | [naiResolution, unlimitedMsd, msd] => do
      return ⟨← ofDocument? naiResolution, ← ofDocument? unlimitedMsd, ← ofDocument? msd⟩
    | _ => none

instance : Documented SetupTypeSubTlv where
  toDocument
    | .srPceCapability capability => .form "SrPceCapability" (toDocument capability)
    | .unknown code value =>
      .form "Unknown" (.record [field "code" code, field "value" value])
  ofDocument? d := do
    match ← d.form? with
    | ("SrPceCapability", d) => return .srPceCapability (← ofDocument? d)
    | ("Unknown", d) => return .unknown (← d.get "code") (← d.get "value")
    | _ => none

instance : Documented PathSetupTypeCapability := .ofFields
  ["path_setup_types", "sub_tlvs"]
  (fun capability => [toDocument capability.types, toDocument capability.subTlvs])
  fun
    | [pathSetupTypes, subTlvs] => do
      return ⟨← ofDocument? pathSetupTypes, ← ofDocument? subTlvs⟩
    | _ => none

def SidStructure.names : List String :=
  ["locator_block_length", "locator_node_length", "function_length", "argument_length"]

def SidStructure.documents (parts : SidStructure) : List Document :=
  [toDocument parts.locatorBlock, toDocument parts.locatorNode, toDocument parts.function,
    toDocument parts.argument]

instance : Documented SidStructure := .ofFields SidStructure.names SidStructure.documents
  fun
    | [locatorBlock, locatorNode, function, argument] => do
      return ⟨← ofDocument? locatorBlock, ← ofDocument? locatorNode, ← ofDocument? function,
        ← ofDocument? argument⟩
    | _ => none

instance : Documented BindingValue where
  toDocument
    | .mplsLabel label => .form "MplsLabel" (toDocument label)
    | .mplsLabelEntry label trafficClass bottomOfStack ttl => .form "MplsLabelEntry" (.record
        [field "label" label, field "traffic_class" trafficClass,
          field "bottom_of_stack" bottomOfStack, field "ttl" ttl])
    | .srv6 sid => .form "Srv6" (toDocument sid)
    | .srv6Behavior sid behavior parts => .form "Srv6Behavior" (.record
        ([field "sid" sid, field "endpoint_behavior" behavior] ++
          SidStructure.names.zip parts.documents))
  ofDocument? d := do
    match ← d.form? with
    | ("MplsLabel", d) => return .mplsLabel (← ofDocument? d)
    | ("MplsLabelEntry", d) =>
      return .mplsLabelEntry (← d.get "label") (← d.get "traffic_class")
        (← d.get "bottom_of_stack") (← d.get "ttl")
    | ("Srv6", d) => return .srv6 (← ofDocument? d)
    | ("Srv6Behavior", d) =>
      return .srv6Behavior (← d.get "sid") (← d.get "endpoint_behavior")
        (← ofDocument? d)
    | _ => none

instance : Documented PathBinding := .ofFields
  ["removal", "value"]
  (fun binding => [toDocument binding.removal, toDocument binding.value])
  fun
    | [removal, value] => do
      return ⟨← ofDocument? removal, ← ofDocument? value⟩
    | _ => none

instance : Documented Order := .ofFields
  ["delete", "setup"]
  (fun order => [toDocument order.delete, toDocument order.setup])
  fun
    | [delete, setup] => do
      return ⟨← ofDocument? delete, ← ofDocument? setup⟩
    | _ => none

namespace Tlv

def document : Tlv → Document
  | noPathVector vector => .form "NoPathVector" (toDocument vector)
  | overloadDuration seconds => .form "OverloadDuration" (toDocument seconds)
  | requestMissing requestId => .form "RequestMissing" (toDocument requestId)
  | objectiveFunctionList codes => .form "ObjectiveFunctionList" (toDocument codes)
  | order delete setup => .form "Order" (toDocument (Order.mk delete setup))
  | vendorInformation information => .form "VendorInformation" (toDocument information)
  | statefulPceCapability capability => .form "StatefulPceCapability" (toDocument capability)
  | symbolicPathName name => .form "SymbolicPathName" (toDocument name)
  | ipv4LspIdentifiers identifiers => .form "Ipv4LspIdentifiers" (toDocument identifiers)
  | ipv6LspIdentifiers identifiers => .form "Ipv6LspIdentifiers" (toDocument identifiers)
  | lspErrorCode code => .form "LspErrorCode" (toDocument code)
  | rsvpErrorSpec spec => .form "RsvpErrorSpec" (toDocument spec)
  | lspDbVersion version => .form "LspDbVersion" (toDocument version)
  | speakerEntityId id => .form "SpeakerEntityId" (toDocument id)
  | pathSetupType type => .form "PathSetupType" (toDocument type)
  | associationRanges ranges => .form "AssociationRanges" (toDocument ranges)
  | pathSetupTypeCapability capability => .form "PathSetupTypeCapability" (toDocument capability)
  | associationTypeList types => .form "AssociationTypeList" (toDocument types)
  | pathBinding binding => .form "PathBinding" (toDocument binding)

def ofOrder (value : Order) : Tlv := order value.delete value.setup

def ofForm? (name : String) (d : Document) : Option Tlv := do
  match name with
  | "NoPathVector" => return noPathVector (← ofDocument? d)
  | "OverloadDuration" => return overloadDuration (← ofDocument? d)
  | "RequestMissing" => return requestMissing (← ofDocument? d)
  | "ObjectiveFunctionList" => return objectiveFunctionList (← ofDocument? d)
  | "Order" => return ofOrder (← ofDocument? d)
  | "VendorInformation" => return vendorInformation (← ofDocument? d)
  | "StatefulPceCapability" => return statefulPceCapability (← ofDocument? d)
  | "SymbolicPathName" => return symbolicPathName (← ofDocument? d)
  | "Ipv4LspIdentifiers" => return ipv4LspIdentifiers (← ofDocument? d)
  | "Ipv6LspIdentifiers" => return ipv6LspIdentifiers (← ofDocument? d)
  | "LspErrorCode" => return lspErrorCode (← ofDocument? d)
  | "RsvpErrorSpec" => return rsvpErrorSpec (← ofDocument? d)
  | "LspDbVersion" => return lspDbVersion (← ofDocument? d)
  | "SpeakerEntityId" => return speakerEntityId (← ofDocument? d)
  | "PathSetupType" => return pathSetupType (← ofDocument? d)
  | "AssociationRanges" => return associationRanges (← ofDocument? d)
  | "PathSetupTypeCapability" => return pathSetupTypeCapability (← ofDocument? d)
  | "AssociationTypeList" => return associationTypeList (← ofDocument? d)
  | "PathBinding" => return pathBinding (← ofDocument? d)
  | _ => none

instance : Documented Tlv where
  toDocument := document
  ofDocument? d := do
    let (name, value) ← d.form?
    ofForm? name value

end Tlv

instance : Documented AnyLspIdentifiers where
  toDocument
    | .ipv4 identifiers => .form "Ipv4" (toDocument identifiers)
    | .ipv6 identifiers => .form "Ipv6" (toDocument identifiers)
  ofDocument? d := do
    match ← d.form? with
    | ("Ipv4", d) => return .ipv4 (← ofDocument? d)
    | ("Ipv6", d) => return .ipv6 (← ofDocument? d)
    | _ => none

instance : Documented OpeningTlvs := .ofFields
  ["objective_function_list", "stateful_capability", "lsp_db_version", "speaker_entity_id",
    "association_type_list", "association_ranges", "path_setup_type_capability",
    "vendor_information"]
  (fun set => [toDocument set.objectiveFunctionList, toDocument set.statefulCapability,
    toDocument set.lspDbVersion, toDocument set.speakerEntityId,
    toDocument set.associationTypeList, toDocument set.associationRanges,
    toDocument set.pathSetupTypeCapability, toDocument set.vendorInformation])
  fun
    | [objectiveFunctionList, statefulCapability, lspDbVersion, speakerEntityId,
        associationTypeList, associationRanges, pathSetupTypeCapability, vendorInformation] => do
      return ⟨← ofDocument? objectiveFunctionList, ← ofDocument? statefulCapability,
        ← ofDocument? lspDbVersion, ← ofDocument? speakerEntityId,
        ← ofDocument? associationTypeList, ← ofDocument? associationRanges,
        ← ofDocument? pathSetupTypeCapability, ← ofDocument? vendorInformation⟩
    | _ => none

instance : Documented RequestParametersTlvs := .ofFields
  ["order", "path_setup_type", "vendor_information"]
  (fun set => [toDocument set.order, toDocument set.pathSetupType,
    toDocument set.vendorInformation])
  fun
    | [order, pathSetupType, vendorInformation] => do
      return ⟨← ofDocument? order, ← ofDocument? pathSetupType, ← ofDocument? vendorInformation⟩
    | _ => none

instance : Documented NoPathTlvs := .ofFields
  ["no_path_vector", "vendor_information"]
  (fun set => [toDocument set.noPathVector, toDocument set.vendorInformation])
  fun
    | [noPathVector, vendorInformation] => do
      return ⟨← ofDocument? noPathVector, ← ofDocument? vendorInformation⟩
    | _ => none

instance : Documented NotificationTlvs := .ofFields
  ["overload_duration", "vendor_information"]
  (fun set => [toDocument set.overloadDuration, toDocument set.vendorInformation])
  fun
    | [overloadDuration, vendorInformation] => do
      return ⟨← ofDocument? overloadDuration, ← ofDocument? vendorInformation⟩
    | _ => none

instance : Documented ErrorTlvs := .ofFields
  ["request_missing", "vendor_information"]
  (fun set => [toDocument set.requestMissing, toDocument set.vendorInformation])
  fun
    | [requestMissing, vendorInformation] => do
      return ⟨← ofDocument? requestMissing, ← ofDocument? vendorInformation⟩
    | _ => none

instance : Documented LspTlvs := .ofFields
  ["lsp_identifiers", "symbolic_path_name", "lsp_error_code", "rsvp_error_spec", "lsp_db_version",
    "path_binding", "vendor_information"]
  (fun set => [toDocument set.lspIdentifiers, toDocument set.symbolicPathName,
    toDocument set.lspErrorCode, toDocument set.rsvpErrorSpec, toDocument set.lspDbVersion,
    toDocument set.pathBinding, toDocument set.vendorInformation])
  fun
    | [lspIdentifiers, symbolicPathName, lspErrorCode, rsvpErrorSpec, lspDbVersion, pathBinding,
        vendorInformation] => do
      return ⟨← ofDocument? lspIdentifiers, ← ofDocument? symbolicPathName,
        ← ofDocument? lspErrorCode, ← ofDocument? rsvpErrorSpec, ← ofDocument? lspDbVersion,
        ← ofDocument? pathBinding, ← ofDocument? vendorInformation⟩
    | _ => none

instance : Documented SrpTlvs := .ofFields
  ["symbolic_path_name", "path_setup_type", "vendor_information"]
  (fun set => [toDocument set.symbolicPathName, toDocument set.pathSetupType,
    toDocument set.vendorInformation])
  fun
    | [symbolicPathName, pathSetupType, vendorInformation] => do
      return ⟨← ofDocument? symbolicPathName, ← ofDocument? pathSetupType,
        ← ofDocument? vendorInformation⟩
    | _ => none

instance : Documented VendorTlvs := .ofFields
  ["vendor_information"]
  (fun set => [toDocument set.vendorInformation])
  fun
    | [vendorInformation] => do
      return ⟨← ofDocument? vendorInformation⟩
    | _ => none

end RouteWire.Pcep
