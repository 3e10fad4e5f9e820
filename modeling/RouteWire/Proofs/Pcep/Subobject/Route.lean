import RouteWire.Proofs.Framing
import RouteWire.Proofs.Pcep.Logging
import RouteWire.Proofs.Pcep.Registry
import RouteWire.Proofs.Pcep.Subobject.Value
/-!
Routes, written and read. A written subobject is cut off whole, so a route is read back; of a reported
route that is what the registry knows. A route that was read can be written again, if each segment in
it has an identifier, and is not longer than what it was read from.

Main statements: `readEro_script`, `readXro_script`, `scanRro_script`, and `ero_of_read`,
`xro_of_read`, `rro_of_scan`.
-/
namespace RouteWire.Pcep
open Framing
variable {registry : Registry} {octets : List UInt8} {slice rest : Slice}

namespace Subobject

theorem cut_ok {frame : Frame UInt8} (found : framing.cut slice = .ok (frame, rest)) :
    slice.octets.length = 2 + frame.value.octets.length + rest.octets.length ∧
      2 + frame.value.octets.length ≤ 255 := by
  simp only [framing] at found
  split at found
  · cases found
  · cases found
  · next header length contents whole =>
    split at found
    · cases found
    · next enough =>
      split at found
      · cases found
      · next value behind cut =>
        cases found
        obtain ⟨parts, size, -, -⟩ := Slice.octets_of_split? cut
        have lengths := congrArg List.length parts
        have bound := length.toNat_lt
        have least : 2 ≤ length.toNat := Nat.le_of_not_lt enough
        rw [List.length_append] at lengths
        rw [whole, List.length_cons, List.length_cons]
        dsimp only at lengths ⊢
        omega

theorem cutsOff_header {flag : Bool} {code : UInt8} {contents : List UInt8}
    {passes : Frame UInt8 → Prop} (fits : 2 + contents.length ≤ 255)
    (each : ∀ start offset,
      passes ⟨start, if flag then 128 + code else code, ⟨offset, contents⟩⟩) :
    CutsOff framing (header flag code (2 + contents.length) ++ contents) passes := by
  intro offset others
  refine ⟨_, ?_, each ⟨offset, header flag code (2 + contents.length) ++ contents ++ others⟩ (offset + 2)⟩
  have length : (UInt8.ofNat (2 + contents.length)).toNat = 2 + contents.length :=
    UInt8.toNat_ofNat_of_lt' (Nat.lt_of_le_of_lt fits (by decide))
  have enough : ¬UInt8.ofNat (2 + contents.length) < 2 := by
    rw [UInt8.lt_iff_toNat_lt, length]
    exact Nat.not_lt.mpr (Nat.le_add_right 2 _)
  simp only [framing, header, List.cons_append, List.nil_append]
  rw [if_neg enough, length, Nat.add_sub_cancel_left, Slice.split?_append]
  simp only [List.length_cons, Except.ok.injEq, Prod.mk.injEq, Slice.mk.injEq, and_true, true_and]
  omega

end Subobject

theorem EroKind.code_lt (kind : EroKind) : CodePoint.code kind < 128 := by
  cases kind <;> decide

theorem XroKind.code_lt (kind : XroKind) : CodePoint.code kind < 128 := by
  cases kind <;> decide

namespace Subobject

theorem code_flag {code : UInt8} (low : code < 128) (flag : Bool) :
    (if flag then 128 + code else code) % 128 = code ∧
      (if flag then 128 + code else code).toNat.testBit 7 = flag := by
  have small : code.toNat < 2 ^ 7 := UInt8.lt_iff_toNat_lt.mp low
  cases flag with
  | false => exact ⟨by grind, Nat.testBit_lt_two_pow small⟩
  | true =>
    have sum : (128 + code).toNat = 2 ^ 7 + code.toNat := by
      rw [UInt8.toNat_add]
      exact Nat.mod_eq_of_lt (Nat.add_lt_add_left small (2 ^ 7))
    refine ⟨by grind, ?_⟩
    show (128 + code).toNat.testBit 7 = true
    rw [sum, Nat.testBit_two_pow_add_eq, Nat.testBit_lt_two_pow small]
    rfl

theorem lengthCheck_eq_none {length : Nat} : lengthCheck length = none ↔ length ≤ 255 := by
  rw [lengthCheck]
  split <;> simp <;> omega

end Subobject

namespace EroSubobject
variable {subobject : EroSubobject}

theorem script_ok :
    (subobject.script registry).toExcept = .ok octets ↔
      (registry.ero? subobject.code).isSome ∧ subobject.value.check = none ∧
        2 + subobject.value.length ≤ 255 ∧ ∃ contents,
          subobject.value.script.toExcept = .ok contents ∧
            octets = Subobject.header subobject.loose subobject.code (2 + subobject.value.length) ++
              contents := by
  rw [script]
  split
  · next registered =>
    simp only [Script.check_append_ok, Script.emit_append_ok, Subobject.lengthCheck_eq_none, length,
      registered, true_and]
  · next absent => simp [absent]

theorem script_of_value (registered : (registry.ero? subobject.code).isSome)
    (checked : subobject.value.check = none) (fits : 2 + subobject.value.length ≤ 255)
    (identified : subobject.value.Identified) : (subobject.script registry).failure = none := by
  have runs := Script.toExcept_of_failure (EroValue.identified_iff.mpr identified)
  exact (Script.toExcept_ok.mp (script_ok.mpr ⟨registered, checked, fits, _, runs, rfl⟩)).1

theorem length_script (written : (subobject.script registry).failure = none) :
    (subobject.script registry).octets.length = subobject.length := by
  obtain ⟨-, -, -, contents, value, whole⟩ := script_ok.mp (Script.toExcept_of_failure written)
  rw [whole, List.length_append, EroValue.length_script value]
  rfl

theorem cutsOff_script (canonical : registry.Canonical) (consistent : subobject.value.Consistent)
    (written : (subobject.script registry).failure = none) :
    CutsOff Subobject.framing (subobject.script registry).octets fun frame =>
      Subobject.eroOfFrame registry frame = .ok subobject := by
  obtain ⟨registered, checked, fits, contents, value, whole⟩ :=
    script_ok.mp (Script.toExcept_of_failure written)
  have length := EroValue.length_script value
  obtain ⟨code, flag⟩ := Subobject.code_flag subobject.value.kind.code_lt subobject.loose
  rw [whole, ← length]
  refine Subobject.cutsOff_header (by rwa [length]) fun start offset => ?_
  have found : Subobject.readEroValue subobject.value.kind ⟨offset, contents⟩ = _ :=
    Subobject.readEroValue_script checked consistent value Reader.behind_whole rfl
  rw [Subobject.eroOfFrame]
  dsimp only [EroSubobject.code]
  rw [code, canonical.ero?_eq registered]
  dsimp only
  rw [Reader.inside_ok.mpr ⟨_, found⟩, flag]

theorem of_frame (canonical : registry.Canonical) {frame : Frame UInt8}
    (short : 2 + frame.value.octets.length ≤ 255)
    (found : Subobject.eroOfFrame registry frame = .ok subobject) :
    subobject.value.Consistent ∧ subobject.length ≤ 2 + frame.value.octets.length ∧
      (subobject.value.Identified → (subobject.script registry).failure = none) := by
  rw [Subobject.eroOfFrame] at found
  split at found
  · cases found
  · next kind registered =>
    split at found
    · cases found
    · next value contents =>
      cases found
      obtain ⟨_, read⟩ := Reader.inside_ok.mp contents
      obtain ⟨rfl, checked, consistent, length, -⟩ := Subobject.eroValue_of_read read
      have code : CodePoint.code value.kind = frame.header % 128 := canonical.ero _ _ registered
      refine ⟨consistent, Nat.add_le_add_left length 2, script_of_value ?_ checked ?_⟩
      · rw [EroSubobject.code, code, registered]
        rfl
      · dsimp only
        omega

end EroSubobject

namespace XroSubobject
variable {subobject : XroSubobject}

theorem script_ok :
    (subobject.script registry).toExcept = .ok octets ↔
      (registry.xro? subobject.code).isSome ∧ 2 + subobject.value.length ≤ 255 ∧
        octets = Subobject.header subobject.mandatory subobject.code
          (2 + subobject.value.octets.length) ++ subobject.value.octets := by
  rw [script, XroValue.length_octets]
  split
  · next registered =>
    simp only [Script.check_append_ok, Script.emit_append_ok, Script.emit_ok,
      Subobject.lengthCheck_eq_none, length, registered, true_and, exists_eq_left]
  · next absent => simp [absent]

theorem length_script (written : (subobject.script registry).failure = none) :
    (subobject.script registry).octets.length = subobject.length := by
  obtain ⟨-, -, whole⟩ := script_ok.mp (Script.toExcept_of_failure written)
  rw [whole, List.length_append, XroValue.length_octets]
  rfl

theorem cutsOff_script (canonical : registry.Canonical)
    (written : (subobject.script registry).failure = none) :
    CutsOff Subobject.framing (subobject.script registry).octets fun frame =>
      Subobject.xroOfFrame registry frame = .ok subobject := by
  obtain ⟨registered, fits, whole⟩ := script_ok.mp (Script.toExcept_of_failure written)
  obtain ⟨code, flag⟩ := Subobject.code_flag subobject.value.kind.code_lt subobject.mandatory
  rw [whole]
  refine Subobject.cutsOff_header (by rwa [XroValue.length_octets]) fun start offset => ?_
  have found : Subobject.readXroValue subobject.value.kind ⟨offset, subobject.value.octets⟩ = _ :=
    Subobject.readXroValue_octets Reader.behind_whole rfl
  rw [Subobject.xroOfFrame]
  dsimp only [XroSubobject.code]
  rw [code, canonical.xro?_eq registered]
  dsimp only
  rw [Reader.inside_ok.mpr ⟨_, found⟩, flag]

theorem of_frame (canonical : registry.Canonical) {frame : Frame UInt8}
    (short : 2 + frame.value.octets.length ≤ 255)
    (found : Subobject.xroOfFrame registry frame = .ok subobject) :
    subobject.length ≤ 2 + frame.value.octets.length ∧
      (subobject.script registry).failure = none := by
  rw [Subobject.xroOfFrame] at found
  split at found
  · cases found
  · next kind registered =>
    split at found
    · cases found
    · next value contents =>
      cases found
      obtain ⟨_, read⟩ := Reader.inside_ok.mp contents
      obtain ⟨rfl, length⟩ := Subobject.xroValue_of_read read
      have code : CodePoint.code value.kind = frame.header % 128 := canonical.xro _ _ registered
      refine ⟨Nat.add_le_add_left length.le 2,
        (Script.toExcept_ok.mp (script_ok.mpr ⟨?_, ?_, rfl⟩)).1⟩
      · rw [XroSubobject.code, code, registered]
        rfl
      · dsimp only
        omega

end XroSubobject

namespace RroSubobject
variable {subobject : RroSubobject}

theorem script_ok (registered : subobject.isRegistered registry = true) :
    (subobject.script registry).toExcept = .ok octets ↔
      subobject.check = none ∧ 2 + subobject.valueLength ≤ 255 ∧ ∃ contents,
        subobject.valueScript.toExcept = .ok contents ∧
          octets = Subobject.header false subobject.code (2 + subobject.valueLength) ++ contents := by
  rw [script, if_pos registered]
  simp only [Script.check_append_ok, Script.emit_append_ok, Subobject.lengthCheck_eq_none]

theorem script_of_unregistered (absent : subobject.isRegistered registry = false) :
    subobject.script registry = .done := by
  rw [script, absent, if_neg Bool.false_ne_true]

theorem length_script (written : (subobject.script registry).failure = none) :
    (subobject.script registry).octets.length = subobject.length registry := by
  rw [length]
  split
  · next registered =>
    obtain ⟨-, -, contents, value, whole⟩ :=
      (script_ok registered).mp (Script.toExcept_of_failure written)
    rw [whole, List.length_append, length_valueScript value]
    rfl
  · next absent =>
    rw [script_of_unregistered (Bool.eq_false_iff.mpr absent)]
    rfl

theorem cutsOff_script (canonical : registry.Canonical)
    (registered : subobject.isRegistered registry = true) (consistent : subobject.Consistent)
    (written : (subobject.script registry).failure = none) :
    CutsOff Subobject.framing (subobject.script registry).octets fun frame =>
      Subobject.rroOfFrame registry frame = (∅, .ok (some subobject)) := by
  obtain ⟨checked, fits, contents, value, whole⟩ :=
    (script_ok registered).mp (Script.toExcept_of_failure written)
  have length := length_valueScript value
  rw [whole, ← length]
  refine Subobject.cutsOff_header (by rwa [length]) fun start offset => ?_
  have found : Subobject.readRroValue subobject.kind ⟨offset, contents⟩ = _ :=
    Subobject.readRroValue_script checked consistent value Reader.behind_whole rfl
  rw [Subobject.records_rroOfFrame.apply]
  dsimp only [Bool.false_eq_true, if_false, RroSubobject.code]
  rw [if_neg Bool.false_ne_true, canonical.rro?_eq registered]
  dsimp only
  rw [Reader.inside_ok.mpr ⟨_, found⟩]

theorem of_frame (canonical : registry.Canonical) {frame : Frame UInt8} {ignored : Ignored}
    (short : 2 + frame.value.octets.length ≤ 255)
    (found : Subobject.rroOfFrame registry frame = (ignored, .ok (some subobject))) :
    subobject.Consistent ∧ subobject.isRegistered registry = true ∧
      subobject.length registry ≤ 2 + frame.value.octets.length ∧
      (subobject.Identified → (subobject.script registry).failure = none) := by
  rw [Subobject.records_rroOfFrame.apply] at found
  split at found
  · cases found
  · next kind known =>
    split at found
    · cases found
    · next value contents =>
      cases found
      obtain ⟨_, read⟩ := Reader.inside_ok.mp contents
      obtain ⟨rfl, checked, consistent, length⟩ := Subobject.rroValue_of_read read
      have code : CodePoint.code subobject.kind = frame.header := canonical.rro _ _ known
      have registered : subobject.isRegistered registry = true := by
        rw [isRegistered, RroSubobject.code, code, known]
        rfl
      refine ⟨consistent, registered, ?_, fun identified => ?_⟩
      · rw [RroSubobject.length, if_pos registered]
        exact Nat.add_le_add_left length 2
      · have runs := Script.toExcept_of_failure (identified_iff.mpr identified)
        exact (Script.toExcept_ok.mp ((script_ok registered).mpr
          ⟨checked, by omega, _, runs, rfl⟩)).1

end RroSubobject

namespace Subobject
variable {α : Type} {read : Frame UInt8 → Except (Failure SubobjectReadError) α}
  {script : α → Script SubobjectWriteError} {route : List α}

theorem routeScript_ok :
    (routeScript script route).toExcept = .ok octets ↔
      route ≠ [] ∧ (∀ element ∈ route, (script element).failure = none) ∧
        octets = route.flatMap fun element => (script element).octets := by
  rw [routeScript]
  cases route with
  | nil => simp
  | cons first others =>
    rw [List.isEmpty_cons, if_neg Bool.false_ne_true, Script.concat_map_ok]
    simp only [ne_eq, reduceCtorEq, not_false_eq_true, true_and]

theorem readRoute_ok :
    readRoute read slice = .ok (route, rest) ↔
      slice.octets ≠ [] ∧ framing.readAll read slice = .ok (route, rest) := by
  rw [readRoute]
  split
  · next nothing => simp [List.isEmpty_iff.mp nothing]
  · next something => simp [List.isEmpty_iff.not.mp something]

theorem readRoute_script
    (each : ∀ element ∈ route, (script element).failure = none →
      CutsOff framing (script element).octets fun frame => read frame = .ok element)
    (written : (routeScript script route).toExcept = .ok octets) (offset : Nat) :
    readRoute read ⟨offset, octets⟩ = .ok (route, ⟨offset + octets.length, []⟩) := by
  obtain ⟨something, runs, rfl⟩ := routeScript_ok.mp written
  have cutsOff := fun element member => each element member (runs element member)
  have whole : framing.readAll read ⟨offset, _⟩ = .ok (route.map id, _) :=
    readAll_flatMap cutsOff offset
  rw [List.map_id] at whole
  refine readRoute_ok.mpr ⟨?_, whole⟩
  cases route with
  | nil => exact absurd rfl something
  | cons first others =>
    have positive := CutsOff.ne_nil (cutsOff first List.mem_cons_self)
    rw [List.flatMap_cons]
    exact List.append_ne_nil_of_left_ne_nil positive _

theorem length_routeScript {length : α → Nat}
    (each : ∀ element, (script element).failure = none →
      (script element).octets.length = length element)
    (written : (routeScript script route).toExcept = .ok octets) :
    octets.length = (route.map length).sum := by
  obtain ⟨-, runs, rfl⟩ := routeScript_ok.mp written
  exact length_flatMap_eq fun element member => each element (runs element member)

theorem route_of_read (found : readRoute read slice = .ok (route, rest)) {length : α → Nat}
    (holds : α → Prop)
    (each : ∀ {frame : Frame UInt8} {element : α}, 2 + frame.value.octets.length ≤ 255 →
      read frame = .ok element → length element ≤ 2 + frame.value.octets.length ∧ holds element) :
    route ≠ [] ∧ (route.map length).sum ≤ slice.octets.length ∧ ∀ element ∈ route, holds element := by
  obtain ⟨something, whole⟩ := readRoute_ok.mp found
  refine ⟨?_, sum_le_of_readAll id ?_ whole, forall_mem_of_readAll ?_ whole⟩
  · rintro rfl
    obtain ⟨⟨frames, tiles, all⟩, -⟩ := readAll_ok.mp whole
    cases all
    cases tiles with
    | nil nothing => exact something nothing
  · intro slice rest frame element cut answer
    obtain ⟨size, short⟩ := cut_ok cut
    have fits := (each short answer).1
    dsimp only [id]
    omega
  · intro slice rest frame element cut answer
    exact (each (cut_ok cut).2 answer).2

variable {offset : Nat}

theorem readEro_script (canonical : registry.Canonical) {route : List EroSubobject}
    (consistent : ∀ subobject ∈ route, subobject.value.Consistent)
    (written : (eroScript registry route).toExcept = .ok octets) :
    readEro registry ⟨offset, octets⟩ = .ok (route, ⟨offset + octets.length, []⟩) :=
  readRoute_script
    (fun subobject member => subobject.cutsOff_script canonical (consistent subobject member))
    written offset

theorem length_eroScript {route : List EroSubobject}
    (written : (eroScript registry route).toExcept = .ok octets) :
    octets.length = eroLength route :=
  length_routeScript (fun _ => EroSubobject.length_script) written

theorem ero_of_read (canonical : registry.Canonical) {route : List EroSubobject}
    (found : readEro registry slice = .ok (route, rest)) :
    (∀ subobject ∈ route, subobject.value.Consistent) ∧ eroLength route ≤ slice.octets.length ∧
      ((∀ subobject ∈ route, subobject.value.Identified) →
        (eroScript registry route).failure = none) := by
  obtain ⟨something, length, sound⟩ := route_of_read found
    (fun subobject => subobject.value.Consistent ∧
      (subobject.value.Identified → (subobject.script registry).failure = none))
    fun short answer => by
      obtain ⟨consistent, length, writes⟩ := EroSubobject.of_frame canonical short answer
      exact ⟨length, consistent, writes⟩
  refine ⟨fun subobject member => (sound subobject member).1, length, fun identified => ?_⟩
  exact (Script.toExcept_ok.mp (routeScript_ok.mpr ⟨something, fun subobject member =>
    (sound subobject member).2 (identified subobject member), rfl⟩)).1

theorem readXro_script (canonical : registry.Canonical) {route : List XroSubobject}
    (written : (xroScript registry route).toExcept = .ok octets) :
    readXro registry ⟨offset, octets⟩ = .ok (route, ⟨offset + octets.length, []⟩) :=
  readRoute_script (fun subobject _ => subobject.cutsOff_script canonical) written offset

theorem length_xroScript {route : List XroSubobject}
    (written : (xroScript registry route).toExcept = .ok octets) :
    octets.length = xroLength route :=
  length_routeScript (fun _ => XroSubobject.length_script) written

theorem xro_of_read (canonical : registry.Canonical) {route : List XroSubobject}
    (found : readXro registry slice = .ok (route, rest)) :
    xroLength route ≤ slice.octets.length ∧ (xroScript registry route).failure = none := by
  obtain ⟨something, length, writes⟩ := route_of_read found
    (fun subobject => (subobject.script registry).failure = none)
    fun short answer => XroSubobject.of_frame canonical short answer
  exact ⟨length, (Script.toExcept_ok.mp (routeScript_ok.mpr ⟨something, writes, rfl⟩)).1⟩

theorem scanRro_script (canonical : registry.Canonical) {route : List RroSubobject}
    (consistent : ∀ subobject ∈ route, subobject.Consistent)
    (written : (rroScript registry route).toExcept = .ok octets) :
    scanRro registry ⟨offset, octets⟩ =
      (∅, .ok (route.filter (RroSubobject.isRegistered registry),
        ⟨offset + octets.length, []⟩)) := by
  obtain ⟨runs, rfl⟩ := Script.concat_map_ok.mp written
  have skipped (subobject : RroSubobject) (absent : subobject.isRegistered registry = false) :
      (subobject.script registry).octets = [] := by
    rw [RroSubobject.script_of_unregistered absent]
    rfl
  have cutsOff : ∀ subobject ∈ route.filter (RroSubobject.isRegistered registry),
      CutsOff framing (subobject.script registry).octets fun frame =>
        rroOfFrame registry frame = (∅, .ok (some subobject)) := by
    intro subobject member
    obtain ⟨member, registered⟩ := List.mem_filter.mp member
    exact RroSubobject.cutsOff_script canonical registered (consistent _ member) (runs _ member)
  have whole := Scan.elements_flatMap cutsOff offset
  rwa [flatMap_filter_of_skipped skipped, List.filterMap_some] at whole

theorem length_rroScript {route : List RroSubobject}
    (written : (rroScript registry route).toExcept = .ok octets) :
    octets.length = rroLength registry route := by
  obtain ⟨runs, rfl⟩ := Script.concat_map_ok.mp written
  exact length_flatMap_eq fun subobject member => RroSubobject.length_script (runs subobject member)

theorem rro_of_scan (canonical : registry.Canonical) {route : List RroSubobject} {ignored : Ignored}
    (found : scanRro registry slice = (ignored, .ok (route, rest))) :
    (∀ subobject ∈ route, subobject.Consistent ∧ subobject.isRegistered registry = true) ∧
      rroLength registry route ≤ slice.octets.length ∧
      ((∀ subobject ∈ route, subobject.Identified) →
        (rroScript registry route).failure = none) := by
  have sound : ∀ subobject ∈ route, subobject.Consistent ∧ subobject.isRegistered registry = true ∧
      (subobject.Identified → (subobject.script registry).failure = none) := by
    refine Scan.forall_mem_of_elements (Nat.le_refl _) ?_ found
    intro slice rest frame ignored subobject _ cut answer
    obtain ⟨consistent, registered, -, writes⟩ :=
      RroSubobject.of_frame canonical (cut_ok cut).2 answer
    exact ⟨consistent, registered, writes⟩
  refine ⟨fun subobject member => ⟨(sound subobject member).1, (sound subobject member).2.1⟩,
    Scan.sum_le_of_elements id ?_ ?_ found, fun identified => ?_⟩
  · intro slice rest frame cut
    have size := (cut_ok cut).1
    dsimp only [id]
    omega
  · intro slice rest frame ignored subobject cut answer
    obtain ⟨size, short⟩ := cut_ok cut
    obtain ⟨-, -, fits, -⟩ := RroSubobject.of_frame canonical short answer
    dsimp only [id]
    omega
  · exact (Script.toExcept_ok.mp (Script.concat_map_ok.mpr ⟨fun subobject member =>
      (sound subobject member).2.2 (identified subobject member), rfl⟩)).1

end Subobject
end RouteWire.Pcep
