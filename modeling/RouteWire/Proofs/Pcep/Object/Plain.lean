import RouteWire.Proofs.Pcep.Object.Frame
/-!
The plain form of an object: what its octets say where no enterprise is registered. Information of
enterprises is octets without structure, a priority has its lowest three bits, and a class type that is
too large is a body that could not be read. An object is written as its plain form is, and it is the
plain form that is read back.

Main statements: `Object.script_plain`, `Object.read_plain_unless_lacking`.
-/
namespace RouteWire.Pcep
open Framing

theorem padOctets_of_mod {octets : List UInt8} (whole : octets.length % 4 = 0) :
    padOctets octets = octets := by
  rw [padOctets, padding_of_mod whole, zeros, List.replicate_zero, List.append_nil]

theorem Scan.element_failed {η ε α : Type} {framing : Framing η ε} {read : FrameReader η ε α} [read.Logs]
    {registry : Registry} {slice rest : Slice} {frame : Frame η} {ignored : Ignored}
    {failure : Failure ε} (cut : framing.cut slice = .ok (frame, rest))
    (answer : read registry frame = (ignored, .error failure)) :
    element framing read registry slice = (ignored, .error failure) := by
  simp only [(records_element framing read).apply, cut, answer]

/-! ## Information of enterprises -/

def VendorPayload.octets : VendorPayload → List UInt8
  | subTlvs records => records.flatMap fun record => tlvOctets record.code record.value
  | unstructured octets => octets

namespace VendorInformation
variable {information : VendorInformation} {octets : List UInt8}

def plain (information : VendorInformation) : VendorInformation :=
  ⟨information.enterprise, .unstructured information.payload.octets⟩

/-- The same information, without structure, and with the zeros that follow it where it is not a TLV. -/
def filled (information : VendorInformation) : VendorInformation :=
  ⟨information.enterprise, .unstructured (padOctets information.payload.octets)⟩

theorem octets_of_script (written : information.script.toExcept = .ok octets) :
    octets = word32 information.enterprise ++ information.payload.octets := by
  obtain ⟨back, rfl, payload⟩ := Tlv.vendorScript_ok.mp written
  obtain ⟨enterprise, records | others⟩ := information
  · rw [payload.2]
    rfl
  · rw [payload]
    rfl

theorem script_plain (written : information.script.toExcept = .ok octets) :
    information.plain.script.toExcept = .ok octets := by
  rw [octets_of_script written]
  exact Tlv.vendorScript_ok.mpr ⟨_, rfl, rfl⟩

theorem script_filled (written : information.script.toExcept = .ok octets) :
    information.filled.script.toExcept = .ok (padOctets octets) := by
  rw [octets_of_script written]
  refine Tlv.vendorScript_ok.mpr ⟨padOctets information.payload.octets, ?_, rfl⟩
  rw [padOctets, padOctets, List.length_append, length_word32, padding_four_add, List.append_assoc]
  rfl

end VendorInformation

/-! ## TLVs -/

namespace Tlv
variable {registry : Registry} {octets : List UInt8} {tlv : Tlv}

def plain : Tlv → Tlv
  | vendorInformation information => .vendorInformation information.plain
  | tlv => tlv

def Recognizable : Tlv → Prop
  | pathSetupTypeCapability capability => ∀ record ∈ capability.subTlvs, record.Recognizable
  | _ => True

theorem readable_plain (unstructured : ∀ enterprise, registry.hasVendor enterprise = false)
    (recognizable : tlv.Recognizable) : tlv.plain.Readable registry := by
  cases tlv with
  | vendorInformation information => exact unstructured information.enterprise
  | pathSetupTypeCapability capability => exact recognizable
  | _ => trivial

theorem script_plain (written : (tlv.script registry).toExcept = .ok octets) :
    (tlv.plain.script registry).toExcept = .ok octets := by
  cases tlv with
  | vendorInformation information =>
    have same : (vendorInformation information.plain).isRegistered registry =
        (vendorInformation information).isRegistered registry := rfl
    cases registered : (vendorInformation information).isRegistered registry with
    | false =>
      rw [script_of_unregistered registered] at written
      rw [plain, script_of_unregistered (same.trans registered)]
      exact written
    | true =>
      obtain ⟨-, fits, value, found, rfl⟩ := (script_ok registered).mp written
      have alike : (vendorInformation information.plain).valueScript.toExcept = .ok value :=
        VendorInformation.script_plain found
      refine (script_ok (same.trans registered)).mpr ⟨rfl, ?_, value, alike, rfl⟩
      rw [← length_valueScript alike, length_valueScript found]
      exact fits
  | _ => exact written

theorem scriptAll_plain {tlvs : List Tlv} (written : (scriptAll registry tlvs).toExcept = .ok octets) :
    (scriptAll registry (tlvs.map plain)).toExcept = .ok octets := by
  obtain ⟨runs, rfl⟩ := Script.concat_map_ok.mp written
  have each := fun tlv member =>
    Script.toExcept_ok.mp (script_plain (Script.toExcept_of_failure (runs tlv member)))
  refine Script.concat_map_ok.mpr ⟨List.forall_mem_map.mpr fun tlv member => (each tlv member).1, ?_⟩
  rw [List.flatMap_map]
  exact List.flatMap_congr fun tlv member => (each tlv member).2.symm

theorem map_plain_optional {α : Type} {make : α → Tlv} (fixed : ∀ value, (make value).plain = make value)
    (value? : Option α) : (value?.map make).toList.map plain = (value?.map make).toList := by
  cases value? with
  | none => rfl
  | some value => exact congrArg (fun tlv => [tlv]) (fixed value)

end Tlv

class PlainTlvSet (σ : Type) [TlvSet σ] where
  plain : σ → σ
  toList_plain : ∀ set : σ, TlvSet.toList (plain set) = (TlvSet.toList set).map Tlv.plain := by
    intro set
    simp only [TlvSet.toList, List.map_append, List.map_map]
    repeat rw [Tlv.map_plain_optional fun _ => rfl]
    rfl

instance : PlainTlvSet OpeningTlvs where
  plain set := { set with vendorInformation := set.vendorInformation.map .plain }

instance : PlainTlvSet RequestParametersTlvs where
  plain set := { set with vendorInformation := set.vendorInformation.map .plain }

instance : PlainTlvSet NoPathTlvs where
  plain set := { set with vendorInformation := set.vendorInformation.map .plain }

instance : PlainTlvSet NotificationTlvs where
  plain set := { set with vendorInformation := set.vendorInformation.map .plain }

instance : PlainTlvSet ErrorTlvs where
  plain set := { set with vendorInformation := set.vendorInformation.map .plain }

instance : PlainTlvSet LspTlvs where
  plain set := { set with vendorInformation := set.vendorInformation.map .plain }
  toList_plain set := by
    simp only [TlvSet.toList, List.map_append, List.map_map]
    rw [Tlv.map_plain_optional fun identifiers => by cases identifiers <;> rfl]
    repeat rw [Tlv.map_plain_optional fun _ => rfl]
    rfl

instance : PlainTlvSet SrpTlvs where
  plain set := { set with vendorInformation := set.vendorInformation.map .plain }

instance : PlainTlvSet VendorTlvs where
  plain set := ⟨set.vendorInformation.map .plain⟩

/-! ## Bodies -/

namespace ObjectBody

namespace Tail
variable {registry : Registry} {octets : List UInt8} {tail : Tail}

def plain : Tail → Tail
  | tlvs list => .tlvs (list.map Tlv.plain)
  | vendorInformation information => .vendorInformation information.filled
  | tail => tail

def Consistent : Tail → Prop
  | tlvs list => ∀ tlv ∈ list, tlv.Recognizable
  | explicitRoute route => ∀ subobject ∈ route, subobject.value.Consistent
  | reportedRoute route => ∀ subobject ∈ route, subobject.Consistent
  | nothing | excludedRoute _ | vendorInformation _ => True

theorem readable_plain (unstructured : ∀ enterprise, registry.hasVendor enterprise = false)
    (consistent : tail.Consistent) : tail.plain.Readable registry := by
  cases tail with
  | tlvs list =>
    exact List.forall_mem_map.mpr fun tlv member => Tlv.readable_plain unstructured (consistent tlv member)
  | vendorInformation information =>
    refine ⟨unstructured information.enterprise, ?_⟩
    have whole := padded_mod information.payload.octets.length
    change (4 + (padOctets information.payload.octets).length) % 4 = 0
    rw [length_padOctets]
    omega
  | explicitRoute route => exact consistent
  | reportedRoute route => exact consistent
  | nothing | excludedRoute route => trivial

theorem script_plain (unstructured : ∀ enterprise, registry.hasVendor enterprise = false)
    (consistent : tail.Consistent) (written : (tail.script registry).toExcept = .ok octets) :
    (tail.plain.script registry).toExcept = .ok (padOctets octets) := by
  -- Only the information of an enterprise can end within a group of four octets.
  have whole : (tail.plain.script registry).toExcept = .ok octets →
      (tail.plain.script registry).toExcept = .ok (padOctets octets) := by
    intro alike
    have aligned := length_mod (readable_plain unstructured consistent) (Script.toExcept_ok.mp alike).1
    rw [← length_script alike] at aligned
    rwa [padOctets_of_mod aligned]
  cases tail with
  | tlvs list => exact whole (Script.mapError_ok.mpr (Tlv.scriptAll_plain (Script.mapError_ok.mp written)))
  | vendorInformation information =>
    exact Script.mapError_ok.mpr (VendorInformation.script_filled (Script.mapError_ok.mp written))
  | nothing | explicitRoute route | reportedRoute route | excludedRoute route => exact whole written

end Tail

def plain : ObjectBody → ObjectBody
  | opening body => .opening { body with tlvs := PlainTlvSet.plain body.tlvs }
  | requestParameters body =>
    .requestParameters { body with priority := body.priority % 8, tlvs := PlainTlvSet.plain body.tlvs }
  | noPath body => .noPath { body with tlvs := PlainTlvSet.plain body.tlvs }
  | lspa body => .lspa { body with tlvs := PlainTlvSet.plain body.tlvs }
  | notification body => .notification { body with tlvs := PlainTlvSet.plain body.tlvs }
  | error body => .error { body with tlvs := PlainTlvSet.plain body.tlvs }
  | close body => .close { body with tlvs := PlainTlvSet.plain body.tlvs }
  | monitoring body => .monitoring { body with tlvs := PlainTlvSet.plain body.tlvs }
  | objectiveFunction body => .objectiveFunction { body with tlvs := PlainTlvSet.plain body.tlvs }
  | globalConstraints body => .globalConstraints { body with tlvs := PlainTlvSet.plain body.tlvs }
  | lsp body => .lsp { body with tlvs := PlainTlvSet.plain body.tlvs }
  | srp body => .srp { body with tlvs := PlainTlvSet.plain body.tlvs }
  | associationIpv4 body => .associationIpv4 { body with tlvs := PlainTlvSet.plain body.tlvs }
  | associationIpv6 body => .associationIpv6 { body with tlvs := PlainTlvSet.plain body.tlvs }
  | vendorInformation information => .vendorInformation information.filled
  | body => body

theorem length_fixedPart_mod (body : ObjectBody) : body.fixedPart.length % 4 = 0 := by
  rw [length_fixedPart]
  exact fixedLength_mod body

theorem kind_plain (body : ObjectBody) : body.plain.kind = body.kind := by
  cases body <;> rfl

theorem check_plain (body : ObjectBody) : body.plain.check = body.check := by
  cases body <;> rfl

theorem tail_plain (body : ObjectBody) : body.plain.tail = body.tail.plain := by
  cases body <;> first
    | rfl
    | exact congrArg Tail.tlvs (PlainTlvSet.toList_plain _)

theorem fixedPart_plain (body : ObjectBody) : body.plain.fixedPart = body.fixedPart := by
  cases body with
  | requestParameters body =>
    have priority : (body.priority % 8).toNat % 8 = body.priority.toNat % 8 := by
      rw [UInt8.toNat_mod]
      exact Nat.mod_mod _ 8
    simp only [plain, fixedPart, RequestParametersBody.flags, priority]
  | _ => rfl

def LacksDestinations : ObjectBody → Prop
  | unreachDestinationIpv4 destinations => destinations = []
  | unreachDestinationIpv6 destinations => destinations = []
  | _ => False

theorem LacksDestinations.empty {body : ObjectBody} (nothing : body.LacksDestinations) :
    body.fixedPart = [] ∧ body.tail = .nothing ∧ 0 < body.kind.leastLength := by
  cases body with
  | unreachDestinationIpv4 destinations =>
    cases nothing
    exact ⟨rfl, rfl, by decide⟩
  | unreachDestinationIpv6 destinations =>
    cases nothing
    exact ⟨rfl, rfl, by decide⟩
  | _ => cases nothing

def isLargeClassType : ObjectBody → Bool
  | classType number => maxClassType < number
  | _ => false

theorem inRange_plain {body : ObjectBody} (some : ¬body.LacksDestinations)
    (small : body.isLargeClassType = false) : body.plain.InRange := by
  cases body with
  | requestParameters body =>
    change (body.priority % 8).toNat ≤ 7
    rw [UInt8.toNat_mod]
    exact Nat.le_of_lt_succ (Nat.mod_lt _ (by decide))
  | classType number =>
    rw [isLargeClassType, decide_eq_false_iff_not, UInt8.lt_iff_toNat_lt] at small
    exact Nat.le_of_not_lt small
  | unreachDestinationIpv4 destinations => exact some
  | unreachDestinationIpv6 destinations => exact some
  | _ => trivial

theorem kind_enabled (registry : Registry) (body : ObjectBody) :
    (body.enabled registry).kind = body.kind := by
  cases body <;> rfl

end ObjectBody

/-! ## Objects -/

namespace Object
variable {registry : Registry} {octets : List UInt8} {flags : ObjectFlags} {body : ObjectBody}

def plain (flags : ObjectFlags) (body : ObjectBody) : Object where
  flags
  value :=
    if body.isLargeClassType then .unknown ⟨body.kind.codes, .invalidClassType, body.fixedPart⟩
    else .known body.plain

theorem script_plainBody (unstructured : ∀ enterprise, registry.hasVendor enterprise = false)
    (consistent : body.tail.Consistent)
    (written : (script registry ⟨flags, .known body⟩).toExcept = .ok octets) :
    (script registry ⟨flags, .known body.plain⟩).toExcept = .ok octets := by
  obtain ⟨registered, fits, checked, contents, value, rfl⟩ := script_ok.mp written
  obtain ⟨back, tail, rfl⟩ := Script.emit_append_ok.mp value
  have alike : ((ObjectValue.known body.plain).script registry).toExcept =
      .ok (body.fixedPart ++ padOctets back) := by
    refine Script.emit_append_ok.mpr ⟨padOctets back, ?_, by rw [body.fixedPart_plain]⟩
    rw [body.tail_plain]
    exact ObjectBody.Tail.script_plain unstructured consistent tail
  have front := body.length_fixedPart_mod
  have old : unpaddedLength registry ⟨flags, .known body⟩ =
      4 + (body.fixedPart.length + back.length) := by
    rw [unpaddedLength, ← ObjectValue.length_script value, List.length_append]
  have new : unpaddedLength registry ⟨flags, .known body.plain⟩ =
      4 + (body.fixedPart.length + padded back.length) := by
    rw [unpaddedLength, ← ObjectValue.length_script alike, List.length_append, length_padOctets]
  have length : Object.length registry ⟨flags, .known body.plain⟩ =
      Object.length registry ⟨flags, .known body⟩ := by
    rw [Object.length, Object.length, old, new]
    simp only [padded, padding]
    omega
  have codes : (ObjectValue.known body.plain).codes = (ObjectValue.known body).codes :=
    congrArg ObjectKind.codes body.kind_plain
  refine script_ok.mpr ⟨?_, by rwa [length], (body.check_plain).trans checked, _, alike, ?_⟩
  · rw [ObjectValue.isRegistered, body.kind_plain]
    exact registered
  · have none : padding (4 + (body.fixedPart.length + padded back.length)) = 0 := by
      simp only [padded, padding]
      omega
    have same : padding (4 + (body.fixedPart.length + back.length)) = padding back.length := by
      simp only [padding]
      omega
    rw [header, header, codes, length, old, new, none, same, padOctets]
    simp only [zeros, List.replicate_zero, List.append_nil, List.append_assoc]

theorem script_plain (unstructured : ∀ enterprise, registry.hasVendor enterprise = false)
    (consistent : body.tail.Consistent)
    (written : (script registry ⟨flags, .known body⟩).toExcept = .ok octets) :
    (script registry (plain flags body)).toExcept = .ok octets := by
  cases large : body.isLargeClassType with
  | false =>
    rw [plain, large]
    exact script_plainBody unstructured consistent written
  | true =>
    cases body with
    | classType number =>
      rw [plain, large, if_pos rfl]
      obtain ⟨-, fits, -, contents, value, rfl⟩ := script_ok.mp written
      obtain ⟨back, nothing, rfl⟩ := Script.emit_append_ok.mp value
      cases Script.done_ok.mp nothing
      exact script_ok.mpr ⟨rfl, fits, rfl, _, Script.emit_ok.mpr rfl, by rw [List.append_nil]; rfl⟩
    | _ => cases large

theorem readable_plain (canonical : registry.Canonical)
    (unstructured : ∀ enterprise, registry.hasVendor enterprise = false)
    (registered : (registry.object? body.kind.codes).isSome) (consistent : body.tail.Consistent)
    (some : ¬body.LacksDestinations) : (plain flags body).Readable registry := by
  cases large : body.isLargeClassType with
  | false =>
    rw [plain, large]
    refine ⟨ObjectBody.inRange_plain some large, ?_⟩
    rw [body.tail_plain]
    exact ObjectBody.Tail.readable_plain unstructured consistent
  | true =>
    cases body with
    | classType number =>
      rw [plain, large, if_pos rfl]
      refine ⟨(ObjectBody.classType number).length_fixedPart_mod, fun start offset => ?_⟩
      have known : registry.object? (ObjectKind.codes .classType) = Option.some .classType :=
        canonical.object?_eq registered
      have refused : ObjectValue.refusal? .classType [0, 0, 0, number] =
          Option.some (.invalidClassType, 4) := by
        have front : ([0, 0, 0, number] : List UInt8).take 4 = [0, 0, 0, number] := rfl
        rw [ObjectBody.isLargeClassType, decide_eq_true_eq, UInt8.lt_iff_toNat_lt] at large
        rw [ObjectValue.refusal?, front, ObjectBody.beValue_lastOfFour, if_neg (Nat.not_le_of_lt large)]
      have scanned : ObjectValue.scan .classType registry ⟨offset, [0, 0, 0, number]⟩ = (∅, .ok
          (.unknown ⟨ObjectKind.codes .classType, .invalidClassType, [0, 0, 0, number]⟩,
            Slice.skip ⟨offset, [0, 0, 0, number]⟩ 4)) := by
        rw [(ObjectValue.records_scan .classType).apply, refused]
        rfl
      rw [records_ofFrame.apply]
      simp only [ObjectBody.kind, known, ObjectBody.fixedPart, scanned]
    | _ => cases large

theorem scan_plain (canonical : registry.Canonical)
    (unstructured : ∀ enterprise, registry.hasVendor enterprise = false)
    (consistent : body.tail.Consistent) (some : ¬body.LacksDestinations)
    (written : (script registry ⟨flags, .known body⟩).toExcept = .ok octets) :
    scan registry (.whole octets) =
      (∅, .ok (Option.some ((plain flags body).enabled registry), ⟨octets.length, []⟩)) := by
  obtain ⟨registered, -⟩ := script_ok.mp written
  have readable := @readable_plain _ flags _ canonical unstructured registered consistent some
  obtain ⟨runs, whole⟩ := Script.toExcept_ok.mp (script_plain unstructured consistent written)
  obtain ⟨frame, cut, answer⟩ := cutsOff_script canonical readable runs 0 []
  rw [whole, List.append_nil, Nat.zero_add] at cut
  exact Scan.element_ok.mpr ⟨frame, cut, answer⟩

theorem offset_of_cut {slice rest : Slice} {frame : Frame ObjectHeader}
    (found : framing.cut slice = .ok (frame, rest)) : frame.value.offset = slice.offset + 4 := by
  simp only [framing] at found
  split at found
  · split at found
    · cases found
    · split at found
      · cases found
      · next cut =>
        cases found
        obtain ⟨-, -, offset, -⟩ := Slice.octets_of_split? cut
        exact offset
  · cases found

theorem octets_of_lacking (nothing : body.LacksDestinations)
    (written : (script registry ⟨flags, .known body⟩).toExcept = .ok octets) :
    octets = header ⟨flags, .known body⟩ 4 := by
  obtain ⟨empty, tail, -⟩ := nothing.empty
  obtain ⟨-, -, -, contents, value, rfl⟩ := script_ok.mp written
  obtain ⟨back, done, rfl⟩ := Script.emit_append_ok.mp value
  have unpadded : unpaddedLength registry ⟨flags, .known body⟩ = 4 := by
    rw [unpaddedLength, ObjectValue.length, ← body.length_fixedPart, empty, tail]
    rfl
  have none : padding 4 = 0 := rfl
  rw [tail] at done
  rw [Script.done_ok.mp done, empty, Object.length, unpadded, padded, none, zeros, List.replicate_zero,
    List.append_nil, List.append_nil, List.append_nil, Nat.add_zero]

theorem scan_lacking (canonical : registry.Canonical) (nothing : body.LacksDestinations)
    (written : (script registry ⟨flags, .known body⟩).toExcept = .ok octets) :
    scan registry (.whole octets) = (∅, .error
      ⟨.bodyTooShort body.kind.codes.objectClass body.kind.leastLength 0, 4, 0⟩) := by
  obtain ⟨registered, -, checked, -⟩ := script_ok.mp written
  have known : registry.object? body.kind.codes = some body.kind := canonical.object?_eq registered
  obtain ⟨-, -, short⟩ := nothing.empty
  obtain ⟨frame, cut, same, contents⟩ :=
    @cutsOff_header ⟨flags, .known body⟩ []
      (fun frame => frame.header = ⟨body.kind.codes, flags⟩ ∧ frame.value.octets = [])
      (ObjectValue.objectType_le checked) (by decide) rfl (fun _ _ => ⟨rfl, rfl⟩) 0 []
  rw [List.append_nil, List.append_nil, List.length_nil, Nat.add_zero] at cut
  have place : frame.value.offset = 4 := (offset_of_cut cut).trans (Nat.zero_add 4)
  have answer : ofFrame registry frame = (∅, .error
      ⟨.bodyTooShort body.kind.codes.objectClass body.kind.leastLength 0, 4, 0⟩) := by
    rw [records_ofFrame.apply]
    simp only [same, known, (ObjectValue.records_scan body.kind).apply, contents, List.length_nil,
      if_pos short, Slice.failure, place]
  rw [octets_of_lacking nothing written, Slice.whole]
  exact Scan.element_failed cut answer

theorem codes_plain (registry : Registry) (flags : ObjectFlags) (body : ObjectBody) :
    ((plain flags body).enabled registry).value.codes = body.kind.codes := by
  cases large : body.isLargeClassType with
  | false =>
    rw [plain, large]
    exact congrArg ObjectKind.codes ((body.plain.kind_enabled registry).trans body.kind_plain)
  | true =>
    rw [plain, large]
    rfl

/-- An object that was written is read back in its plain form, with the same class, type and flags,
unless it is a list of unreachable destinations without one: such a list is written, and refused. -/
theorem read_plain_unless_lacking {session : Session} (assembled : session.registry.Assembled)
    (unstructured : ∀ enterprise, session.registry.hasVendor enterprise = false)
    (consistent : body.tail.Consistent)
    (written : (script session.registry ⟨flags, .known body⟩).run none = (octets, none)) :
    (¬body.LacksDestinations →
      session.read scan octets = (.ok (some ((plain flags body).enabled session.registry),
        ⟨octets.length, []⟩), session)) ∧
    (body.LacksDestinations → session.read scan octets = (.error
      ⟨.bodyTooShort body.kind.codes.objectClass body.kind.leastLength 0, 4, 0⟩, session)) ∧
    ((plain flags body).enabled session.registry).value.codes = body.kind.codes ∧
    ((plain flags body).enabled session.registry).flags = flags := by
  have canonical := assembled.canonical
  have runs := Script.run_none_iff.mp written
  refine ⟨fun some => ?_, fun nothing => ?_, codes_plain .., rfl⟩
  · exact Session.read_of_scan (scan_plain canonical unstructured consistent some runs)
  · exact Session.read_of_scan (scan_lacking canonical nothing runs)

/-- A priority of more than three bits, and information of an enterprise in records. -/
def overflowing : ObjectBody :=
  .requestParameters ⟨12, false, false, false, false, false, false, false, false, false, false, false, 7,
    { vendorInformation := [⟨9, .subTlvs [⟨1, [5]⟩]⟩] }⟩

def overflowed : ObjectBody :=
  .requestParameters ⟨4, false, false, false, false, false, false, false, false, false, false, false, 7,
    { vendorInformation := [⟨9, .unstructured [0, 1, 0, 1, 5, 0, 0, 0]⟩] }⟩

theorem read_plain_unless_lacking_overflowing :
    let session := Session.start (Registry.empty.enable .base)
    session.read scan
        [2, 16, 0, 28, 0, 0, 0, 4, 0, 0, 0, 7, 0, 7, 0, 12, 0, 0, 0, 9, 0, 1, 0, 1, 5, 0, 0, 0] =
        (.ok (some ⟨⟨false, false⟩, .known overflowed⟩, ⟨28, []⟩), session) ∧
      session.read scan [28, 16, 0, 4] = (.error ⟨.bodyTooShort 28 4 0, 4, 0⟩, session) := by
  intro session
  have unstructured : ∀ enterprise, session.registry.hasVendor enterprise = false := fun _ => rfl
  have consistent : overflowing.tail.Consistent := by
    intro tlv member
    obtain rfl := List.mem_singleton.mp member
    trivial
  have one : (script session.registry ⟨⟨false, false⟩, .known overflowing⟩).run none =
      ([2, 16, 0, 28, 0, 0, 0, 4, 0, 0, 0, 7, 0, 7, 0, 12, 0, 0, 0, 9, 0, 1, 0, 1, 5, 0, 0, 0], none) := by
    decide +kernel
  have other : (script session.registry ⟨⟨false, false⟩, .known (.unreachDestinationIpv4 [])⟩).run none =
      ([28, 16, 0, 4], none) := by decide +kernel
  have found : (plain ⟨false, false⟩ overflowing).enabled session.registry =
      ⟨⟨false, false⟩, .known overflowed⟩ := by decide +kernel
  have empty : (ObjectBody.unreachDestinationIpv4 []).tail.Consistent := trivial
  refine ⟨?_, (read_plain_unless_lacking (.base .empty) unstructured empty other).2.1 rfl⟩
  rw [← found]
  exact (read_plain_unless_lacking (.base .empty) unstructured consistent one).1 id

/-- Not every object that is written is read back: a list of unreachable destinations without one is
written, and refused. -/
theorem not_readable_of_written :
    ¬∀ (registry : Registry) (flags : ObjectFlags) (body : ObjectBody) (octets : List UInt8),
      registry.Assembled → (∀ enterprise, registry.hasVendor enterprise = false) →
      body.tail.Consistent → (script registry ⟨flags, .known body⟩).run none = (octets, none) →
        ∃ ignored object rest, scan registry (.whole octets) = (ignored, .ok (some object, rest)) ∧
          object.value.codes = body.kind.codes ∧ object.flags = flags := by
  intro every
  have written : (script (Registry.empty.enable .base)
      ⟨⟨false, false⟩, .known (.unreachDestinationIpv4 [])⟩).run none = ([28, 16, 0, 4], none) := by
    decide +kernel
  have refused : scan (Registry.empty.enable .base) (.whole [28, 16, 0, 4]) =
      (∅, .error ⟨.bodyTooShort 28 4 0, 4, 0⟩) := by decide +kernel
  have consistent : (ObjectBody.unreachDestinationIpv4 []).tail.Consistent := trivial
  obtain ⟨_, _, _, found, -⟩ := every _ _ _ _ (.base .empty) (fun _ => rfl) consistent written
  rw [refused] at found
  cases found

end Object
end RouteWire.Pcep
