import Mathlib.Algebra.BigOperators.Ring.List
import Mathlib.Algebra.Ring.Nat
import Mathlib.Data.List.Forall2
import RouteWire.Proofs.Reading
import RouteWire.Proofs.Logging
/-!
Elements laid end to end, read as a whole. Frames tile a slice if cutting the first element off again
and again gives them and leaves nothing.

Main statements: `Tiles.cutAll` and `tiles_of_cutAll`, by which cutting finds exactly the frames that
tile a slice, `tiles_flatMap`, and `readAll_ok` and `Scan.elements_ok`, which say what values are read.
-/
namespace RouteWire

theorem length_flatMap_eq {β : Type} {encode : β → List UInt8} {length : β → Nat}
    {elements : List β} (each : ∀ element ∈ elements, (encode element).length = length element) :
    (elements.flatMap encode).length = (elements.map length).sum := by
  rw [List.length_flatMap, List.map_congr_left each]

theorem sum_mod_of_mem {α : Type} {length : α → Nat} {elements : List α}
    (each : ∀ element ∈ elements, length element % 4 = 0) : (elements.map length).sum % 4 = 0 := by
  apply Nat.mod_eq_zero_of_dvd
  apply List.dvd_sum
  exact List.forall_mem_map.mpr fun element member => Nat.dvd_of_mod_eq_zero (each element member)

theorem flatMap_filter_of_skipped {β : Type} {encode : β → List UInt8} {keep : β → Bool}
    (skipped : ∀ element, keep element = false → encode element = []) (elements : List β) :
    (elements.filter keep).flatMap encode = elements.flatMap encode := by
  induction elements with
  | nil => rfl
  | cons element elements ih =>
    rw [List.filter_cons, List.flatMap_cons]
    cases kept : keep element with
    | true => rw [if_pos rfl, List.flatMap_cons, ih]
    | false => rw [if_neg Bool.false_ne_true, ih, skipped element kept, List.nil_append]

namespace Framing
variable {η ε α β : Type} {framing : Framing η ε}

/-- The frames of a slice, one behind the other and up to its end. -/
inductive Tiles (framing : Framing η ε) : Slice → List (Frame η) → Prop
  | nil {slice : Slice} (nothing : slice.octets = []) : Tiles framing slice []
  | cons {slice rest : Slice} {frame : Frame η} {frames : List (Frame η)}
      (cut : framing.cut slice = .ok (frame, rest)) (others : Tiles framing rest frames) :
      Tiles framing slice (frame :: frames)

theorem cutAll_of_cut {slice rest : Slice} {frame : Frame η}
    (cut : framing.cut slice = .ok (frame, rest)) :
    framing.cutAll slice = (frame :: (framing.cutAll rest).1, (framing.cutAll rest).2) := by
  have shorter := framing.shrinks cut
  have something : slice.octets.isEmpty = false := by
    cases octets : slice.octets with
    | nil => simp [octets] at shorter
    | cons first others => rfl
  rw [cutAll_eq, something, cut]
  rfl

theorem Tiles.cutAll {slice : Slice} {frames : List (Frame η)} (tiles : Tiles framing slice frames) :
    framing.cutAll slice = (frames, none) := by
  induction tiles with
  | nil nothing => rw [cutAll_eq, nothing]; rfl
  | cons cut others ih => rw [cutAll_of_cut cut, ih]

theorem Tiles.unique {slice : Slice} {frames others : List (Frame η)}
    (tiles : Tiles framing slice frames) (also : Tiles framing slice others) : frames = others :=
  (Prod.mk.inj (tiles.cutAll.symm.trans also.cutAll)).1

theorem tiles_of_cutAll {slice : Slice} {frames : List (Frame η)}
    (found : framing.cutAll slice = (frames, none)) : Tiles framing slice frames := by
  induction frames generalizing slice with
  | nil =>
    rw [cutAll_eq] at found
    split at found
    · next nothing => exact .nil (List.isEmpty_iff.mp nothing)
    · split at found <;> cases found
  | cons frame frames ih =>
    rw [cutAll_eq] at found
    split at found
    · cases found
    · split at found
      · cases found
      · next first rest cut =>
        simp only [Prod.mk.injEq, List.cons.injEq] at found
        obtain ⟨⟨rfl, others⟩, stopped⟩ := found
        exact .cons cut (ih (Prod.ext others stopped))

/-- Octets are cut off as one element, whatever follows them, and its frame passes a test. -/
def CutsOff (framing : Framing η ε) (octets : List UInt8) (passes : Frame η → Prop) : Prop :=
  ∀ offset others, ∃ frame,
    framing.cut ⟨offset, octets ++ others⟩ = .ok (frame, ⟨offset + octets.length, others⟩) ∧
      passes frame

theorem tiles_flatMap {encode : β → List UInt8} {passes : Frame η → β → Prop} {elements : List β}
    (each : ∀ element ∈ elements,
      CutsOff framing (encode element) fun frame => passes frame element) (offset : Nat) :
    ∃ frames, Tiles framing ⟨offset, elements.flatMap encode⟩ frames ∧
      List.Forall₂ passes frames elements := by
  induction elements generalizing offset with
  | nil => exact ⟨[], .nil rfl, .nil⟩
  | cons element elements ih =>
    obtain ⟨first, others⟩ := List.forall_mem_cons.mp each
    obtain ⟨frame, cut, passed⟩ := first offset (elements.flatMap encode)
    obtain ⟨frames, tiles, all⟩ := ih others (offset + (encode element).length)
    exact ⟨frame :: frames, .cons cut tiles, .cons passed all⟩

theorem collect_ok {read : Frame η → Except (Failure ε) α} {stopped : Option (Failure ε)}
    {frames : List (Frame η)} {values : List α} :
    collect read stopped frames = .ok values ↔
      stopped = none ∧ List.Forall₂ (fun frame value => read frame = .ok value) frames values := by
  induction frames generalizing values with
  | nil => cases stopped <;> simp [collect, eq_comm]
  | cons frame frames ih =>
    rw [collect, List.forall₂_cons_left_iff]
    cases action : read frame with
    | error failure => simp
    | ok value =>
      dsimp only
      cases later : collect read stopped frames with
      | error failure =>
        simp only [reduceCtorEq, Except.ok.injEq, false_iff]
        rintro ⟨whole, _, others, -, all, -⟩
        rw [ih.mpr ⟨whole, all⟩] at later
        cases later
      | ok others =>
        obtain ⟨whole, all⟩ := ih.mp later
        simp only [Except.ok.injEq]
        constructor
        · rintro rfl
          exact ⟨whole, value, others, rfl, all, rfl⟩
        · rintro ⟨-, _, rest, rfl, same, rfl⟩
          rw [ih.mpr ⟨whole, same⟩] at later
          rw [Except.ok.inj later]

theorem readAll_ok {read : Frame η → Except (Failure ε) α} {slice rest : Slice} {values : List α} :
    framing.readAll read slice = .ok (values, rest) ↔
      (∃ frames, Tiles framing slice frames ∧
        List.Forall₂ (fun frame value => read frame = .ok value) frames values) ∧
      rest = slice.finish := by
  rw [readAll]
  cases found : framing.cutAll slice with
  | mk frames stopped =>
    dsimp only
    cases action : collect read stopped frames with
    | error failure =>
      simp only [reduceCtorEq, false_iff, not_and, forall_exists_index, and_imp]
      intro others tiles all
      rw [tiles.cutAll, Prod.mk.injEq] at found
      obtain ⟨rfl, rfl⟩ := found
      rw [collect_ok.mpr ⟨rfl, all⟩] at action
      cases action
    | ok found_values =>
      obtain ⟨rfl, all⟩ := collect_ok.mp action
      simp only [Except.ok.injEq, Prod.mk.injEq]
      constructor
      · rintro ⟨rfl, rfl⟩
        exact ⟨⟨frames, tiles_of_cutAll found, all⟩, rfl⟩
      · rintro ⟨⟨others, tiles, same⟩, rfl⟩
        rw [tiles.cutAll, Prod.mk.injEq] at found
        obtain ⟨rfl, -⟩ := found
        rw [collect_ok.mpr ⟨rfl, same⟩] at action
        exact ⟨(Except.ok.inj action).symm, rfl⟩

theorem readAll_flatMap {encode : β → List UInt8} {read : Frame η → Except (Failure ε) α}
    {value : β → α} {elements : List β}
    (each : ∀ element ∈ elements,
      CutsOff framing (encode element) fun frame => read frame = .ok (value element))
    (offset : Nat) :
    framing.readAll read ⟨offset, elements.flatMap encode⟩ =
      .ok (elements.map value, ⟨offset + (elements.flatMap encode).length, []⟩) := by
  obtain ⟨frames, tiles, all⟩ := tiles_flatMap each offset
  exact readAll_ok.mpr ⟨⟨frames, tiles, List.forall₂_map_right_iff.mpr all⟩, rfl⟩

theorem forall_mem_of_readAll {read : Frame η → Except (Failure ε) α} {holds : α → Prop}
    {slice rest : Slice} {values : List α}
    (each : ∀ {slice rest : Slice} {frame : Frame η} {value : α},
      framing.cut slice = .ok (frame, rest) → read frame = .ok value → holds value)
    (found : framing.readAll read slice = .ok (values, rest)) : ∀ value ∈ values, holds value := by
  obtain ⟨⟨frames, tiles, all⟩, -⟩ := readAll_ok.mp found
  clear found
  induction tiles generalizing values with
  | nil _ =>
    cases all
    exact List.forall_mem_nil _
  | cons cut _ ih =>
    cases all with
    | cons first others => exact List.forall_mem_cons.mpr ⟨each cut first, ih others⟩

theorem sum_le_of_readAll {read : Frame η → Except (Failure ε) α} {length : α → Nat}
    {slice rest : Slice} {values : List α} (bound : Nat → Nat)
    (each : ∀ {slice rest : Slice} {frame : Frame η} {value : α},
      framing.cut slice = .ok (frame, rest) → read frame = .ok value →
        length value + bound rest.octets.length ≤ bound slice.octets.length)
    (found : framing.readAll read slice = .ok (values, rest)) :
    (values.map length).sum ≤ bound slice.octets.length := by
  obtain ⟨⟨frames, tiles, all⟩, -⟩ := readAll_ok.mp found
  clear found
  induction tiles generalizing values with
  | nil _ =>
    cases all
    exact Nat.zero_le _
  | cons cut _ ih =>
    cases all with
    | cons first others =>
      have one := each cut first
      have more := ih others
      rw [List.map_cons, List.sum_cons]
      omega

theorem le_sum_of_readAll {read : Frame η → Except (Failure ε) α} {length : α → Nat}
    {slice rest : Slice} {values : List α}
    (each : ∀ {slice rest : Slice} {frame : Frame η} {value : α},
      framing.cut slice = .ok (frame, rest) → read frame = .ok value →
        slice.octets.length ≤ length value + rest.octets.length)
    (found : framing.readAll read slice = .ok (values, rest)) :
    slice.octets.length ≤ (values.map length).sum := by
  obtain ⟨⟨frames, tiles, all⟩, -⟩ := readAll_ok.mp found
  clear found
  induction tiles generalizing values with
  | nil nothing => simp [nothing]
  | cons cut _ ih =>
    cases all with
    | cons first others =>
      have one := each cut first
      have more := ih others
      rw [List.map_cons, List.sum_cons]
      omega

theorem CutsOff.ne_nil {octets : List UInt8} {passes : Frame η → Prop}
    (cutsOff : CutsOff framing octets passes) : octets ≠ [] := by
  rintro rfl
  obtain ⟨frame, cut, -⟩ := cutsOff 0 []
  exact Nat.lt_irrefl _ (framing.shrinks cut)

section OfWidth
variable [EndOfInput ε] {width : Nat} {positive : 0 < width}

theorem cutsOff_ofWidth {octets : List UInt8} {passes : Frame Unit → Prop}
    (length : octets.length = width)
    (each : ∀ start offset, passes ⟨start, (), ⟨offset, octets⟩⟩) :
    CutsOff (ofWidth width positive : Framing Unit ε) octets passes := by
  subst length
  intro offset others
  refine ⟨_, ?_, each ⟨offset, octets ++ others⟩ offset⟩
  simp [ofWidth, Slice.split?_append]

theorem length_of_cut_ofWidth {slice rest : Slice} {frame : Frame Unit}
    (cut : (ofWidth width positive : Framing Unit ε).cut slice = .ok (frame, rest)) :
    slice.octets.length = width + rest.octets.length := by
  simp only [ofWidth] at cut
  split at cut
  · next value behind parts =>
    cases cut
    obtain ⟨whole, length, -, -⟩ := Slice.octets_of_split? parts
    rw [whole, List.length_append, length]
  · cases cut

end OfWidth

end Framing

namespace Pcep.Scan
open Framing
variable {ε ε' η α β : Type} {framing : Framing η ε} {slice rest : Slice} {ignored : Ignored}
variable {registry : Registry}

/-- What is passed over in frames and which values are kept, when all of them can be read. -/
inductive Kept (read : Frame η → Ignored × Except (Failure ε) (Option α)) :
    List (Frame η) → Ignored → List α → Prop
  | nil : Kept read [] ∅ []
  | cons {frame : Frame η} {frames : List (Frame η)} {ignored later : Ignored} {value? : Option α}
      {values : List α} (answer : read frame = (ignored, .ok value?))
      (others : Kept read frames later values) :
      Kept read (frame :: frames) (ignored ++ later) (value?.toList ++ values)

theorem kept_of_forall₂ {read : Frame η → Ignored × Except (Failure ε) (Option α)}
    {value? : β → Option α} {frames : List (Frame η)} {elements : List β}
    (all : List.Forall₂ (fun frame element => read frame = (∅, .ok (value? element))) frames
      elements) :
    Kept read frames ∅ (elements.filterMap value?) := by
  induction all with
  | nil => exact .nil
  | @cons frame element frames elements answer others ih =>
    have kept := Kept.cons answer ih
    rw [Ignored.empty_append] at kept
    rw [List.filterMap_cons]
    cases found : value? element with
    | none => simpa [found] using kept
    | some value => simpa [found] using kept

theorem collect_ok {read : Frame η → Ignored × Except (Failure ε) (Option α)}
    {stopped : Option (Failure ε)} {frames : List (Frame η)} {values : List α} :
    collected read stopped frames = (ignored, .ok values) ↔
      stopped = none ∧ Kept read frames ignored values := by
  constructor
  · intro found
    induction frames generalizing ignored values with
    | nil =>
      cases stopped with
      | none =>
        cases found
        exact ⟨rfl, .nil⟩
      | some failure => cases found
    | cons frame frames ih =>
      rw [collected] at found
      split at found
      · cases found
      · next first value? answer =>
        split at found
        · cases found
        · next later others action =>
          cases found
          exact ⟨(ih action).1, .cons answer (ih action).2⟩
  · rintro ⟨rfl, kept⟩
    induction kept with
    | nil => rfl
    | cons answer others ih => rw [collected, answer, ih]

theorem elements_ok {read : FrameReader η ε (Option α)} [read.Logs] {values : List α} :
    elements framing read registry slice = (ignored, .ok (values, rest)) ↔
      (∃ frames, Tiles framing slice frames ∧ Kept (read registry) frames ignored values) ∧
        rest = slice.finish := by
  rw [(records_elements framing read).apply]
  constructor
  · intro found
    split at found
    · cases found
    · next _ action =>
      cases found
      obtain ⟨stopped, kept⟩ := collect_ok.mp action
      exact ⟨⟨_, tiles_of_cutAll (Prod.ext rfl stopped), kept⟩, rfl⟩
  · rintro ⟨⟨frames, tiles, kept⟩, rfl⟩
    rw [tiles.cutAll]
    dsimp only
    rw [collect_ok.mpr ⟨rfl, kept⟩]

theorem elements_flatMap {encode : β → List UInt8}
    {read : FrameReader η ε (Option α)} [read.Logs] {value? : β → Option α} {written : List β}
    (each : ∀ element ∈ written,
      CutsOff framing (encode element) fun frame => read registry frame = (∅, .ok (value? element)))
    (offset : Nat) :
    elements framing read registry ⟨offset, written.flatMap encode⟩ =
      (∅, .ok (written.filterMap value?, ⟨offset + (written.flatMap encode).length, []⟩)) := by
  obtain ⟨frames, tiles, all⟩ := tiles_flatMap each offset
  exact elements_ok.mpr ⟨⟨frames, tiles, kept_of_forall₂ all⟩, rfl⟩

theorem forall_mem_of_elements {read : FrameReader η ε (Option α)} [read.Logs]
    {holds : α → Prop} {values : List α} {limit : Nat} (short : slice.octets.length ≤ limit)
    (each : ∀ {slice rest : Slice} {frame : Frame η} {ignored : Ignored} {value : α},
      slice.octets.length ≤ limit → framing.cut slice = .ok (frame, rest) →
        read registry frame = (ignored, .ok (some value)) → holds value)
    (found : elements framing read registry slice = (ignored, .ok (values, rest))) :
    ∀ value ∈ values, holds value := by
  obtain ⟨⟨frames, tiles, kept⟩, -⟩ := elements_ok.mp found
  clear found
  induction tiles generalizing ignored values with
  | nil _ =>
    cases kept
    exact List.forall_mem_nil _
  | cons cut _ ih =>
    have shorter := Nat.le_trans (Nat.le_of_lt (framing.shrinks cut)) short
    cases kept with
    | @cons _ _ _ _ value? _ answer others =>
      refine List.forall_mem_append.mpr ⟨?_, ih shorter others⟩
      cases value? with
      | none => exact List.forall_mem_nil _
      | some value => exact List.forall_mem_singleton.mpr (each short cut answer)

theorem sum_le_of_elements {read : FrameReader η ε (Option α)} [read.Logs]
    {length : α → Nat} {values : List α} (bound : Nat → Nat)
    (smaller : ∀ {slice rest : Slice} {frame : Frame η}, framing.cut slice = .ok (frame, rest) →
      bound rest.octets.length ≤ bound slice.octets.length)
    (each : ∀ {slice rest : Slice} {frame : Frame η} {ignored : Ignored} {value : α},
      framing.cut slice = .ok (frame, rest) → read registry frame = (ignored, .ok (some value)) →
        length value + bound rest.octets.length ≤ bound slice.octets.length)
    (found : elements framing read registry slice = (ignored, .ok (values, rest))) :
    (values.map length).sum ≤ bound slice.octets.length := by
  obtain ⟨⟨frames, tiles, kept⟩, -⟩ := elements_ok.mp found
  clear found
  induction tiles generalizing ignored values with
  | nil _ =>
    cases kept
    exact Nat.zero_le _
  | cons cut _ ih =>
    cases kept with
    | @cons _ _ _ _ value? _ answer others =>
      have more := ih others
      rw [List.map_append, List.sum_append_nat]
      cases value? with
      | none =>
        have less := smaller cut
        rw [Option.toList_none, List.map_nil, List.sum_nil]
        omega
      | some value =>
        have one := each cut answer
        rw [Option.toList_some, List.map_cons, List.sum_cons, List.map_nil, List.sum_nil]
        omega

theorem bind_ok {scan : Scan ε α} [scan.Logs] {next : α → Scan ε β} [∀ value, (next value).Logs]
    {value : β} :
    (scan >>= next) registry slice = (ignored, .ok (value, rest)) ↔
      ∃ first later found behind, scan registry slice = (first, .ok (found, behind)) ∧
        next found registry behind = (later, .ok (value, rest)) ∧ ignored = first ++ later := by
  rw [(records_bind scan next).apply]
  rcases scan registry slice with ⟨first, failure | ⟨found, behind⟩⟩
  · simp
  · simp only [Prod.mk.injEq, Except.ok.injEq]
    constructor
    · rintro ⟨rfl, action⟩
      exact ⟨first, _, found, behind, ⟨rfl, rfl, rfl⟩, Prod.ext rfl action, rfl⟩
    · rintro ⟨_, _, _, _, ⟨rfl, rfl, rfl⟩, action, rfl⟩
      rw [action]
      exact ⟨rfl, rfl⟩

theorem ofReader_ok {reader : Registry → Reader ε α} {value : α} :
    ofReader reader registry slice = (ignored, .ok (value, rest)) ↔
      ignored = ∅ ∧ reader registry slice = .ok (value, rest) := by
  rw [(records_ofReader reader).apply, Prod.mk.injEq, eq_comm]

theorem pure_ok {value result : α} :
    (pure value : Scan ε α) registry slice = (ignored, .ok (result, rest)) ↔
      ignored = ∅ ∧ result = value ∧ rest = slice := by
  rw [(records_pure value).apply, Prod.mk.injEq, Except.ok.injEq, Prod.mk.injEq, eq_comm, @eq_comm _ value,
    @eq_comm _ slice]

theorem mapError_ok {wrap : ε → ε'} {scan : Scan ε α} [scan.Logs] {value : α} :
    scan.mapError wrap registry slice = (ignored, .ok (value, rest)) ↔
      scan registry slice = (ignored, .ok (value, rest)) := by
  rw [(records_mapError wrap scan).apply]
  rcases scan registry slice with ⟨first, failure | found⟩ <;> simp

theorem element_ok {read : FrameReader η ε α} [read.Logs] {value : α} :
    element framing read registry slice = (ignored, .ok (value, rest)) ↔
      ∃ frame, framing.cut slice = .ok (frame, rest) ∧ read registry frame = (ignored, .ok value) := by
  rw [(records_element framing read).apply]
  cases framing.cut slice with
  | error failure => simp
  | ok found =>
    obtain ⟨frame, behind⟩ := found
    dsimp only
    rcases action : read registry frame with ⟨first, failure | found⟩
    · simp only [Prod.mk.injEq, reduceCtorEq, and_false, Except.ok.injEq, false_iff, not_exists,
        not_and, and_imp]
      rintro _ rfl rfl same
      rw [action] at same
      cases same
    · simp only [Prod.mk.injEq, Except.ok.injEq]
      constructor
      · rintro ⟨rfl, rfl, rfl⟩
        exact ⟨frame, ⟨rfl, rfl⟩, action⟩
      · rintro ⟨_, ⟨rfl, rfl⟩, same⟩
        rw [action] at same
        cases same
        exact ⟨rfl, rfl, rfl⟩

end Pcep.Scan
end RouteWire
