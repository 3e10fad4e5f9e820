import RouteWire.Proofs.Relocation
/-!
Elements of the wire. Octets that frames tile are elements laid end to end, each of which shows in its
frame, and what is known of a frame and of what was read from it is known of the element.

Main statements: `Framing.Tiles.wire`, `Framing.tiles_of_wire`, `Pcep.Scan.Kept.accounted`.
-/
namespace RouteWire
variable {η ε ω α : Type} {framing : Framing η ε} {shows : Frame η → ω → Prop}
  {encode : ω → List UInt8}

namespace Framing

/-- Octets that frames tile are elements of the wire, laid end to end; all but the last have others
behind them. -/
theorem Tiles.wire {single full : ω → Prop}
    (cut : ∀ {slice rest : Slice} {frame : Frame η}, framing.cut slice = .ok (frame, rest) →
      ∃ element, single element ∧ (rest.octets ≠ [] → full element) ∧
        slice.octets = encode element ++ rest.octets ∧ shows frame element)
    {slice : Slice} {frames : List (Frame η)} (tiles : Tiles framing slice frames) :
    ∃ wire, (∀ element ∈ wire, single element) ∧ (∀ element ∈ wire.dropLast, full element) ∧
      slice.octets = wire.flatMap encode ∧ List.Forall₂ shows frames wire := by
  induction tiles with
  | nil nothing => exact ⟨[], List.forall_mem_nil _, List.forall_mem_nil _, nothing, .nil⟩
  | cons first others ih =>
    obtain ⟨element, fits, more, parts, shown⟩ := cut first
    obtain ⟨wire, all, allFull, rest, allShown⟩ := ih
    refine ⟨element :: wire, List.forall_mem_cons.mpr ⟨fits, all⟩, ?_, ?_, .cons shown allShown⟩
    · cases others with
      | nil nothing =>
        cases allShown
        exact List.forall_mem_nil _
      | cons second _ =>
        have something := List.ne_nil_of_length_pos (Nat.zero_lt_of_lt (framing.shrinks second))
        cases allShown
        exact List.forall_mem_cons.mpr ⟨more something, allFull⟩
    · rw [parts, rest, List.flatMap_cons]

theorem tiles_of_wire {single full : ω → Prop}
    (cut : ∀ {element others} (offset : Nat), single element → (others ≠ [] → full element) →
      ∃ frame, framing.cut ⟨offset, encode element ++ others⟩ =
        .ok (frame, ⟨offset + (encode element).length, others⟩) ∧ shows frame element)
    {wire : List ω} (all : ∀ element ∈ wire, single element)
    (allFull : ∀ element ∈ wire.dropLast, full element) (offset : Nat) :
    ∃ frames, Tiles framing ⟨offset, wire.flatMap encode⟩ frames ∧ List.Forall₂ shows frames wire := by
  induction wire generalizing offset with
  | nil => exact ⟨[], .nil rfl, .nil⟩
  | cons element wire ih =>
    obtain ⟨fits, others⟩ := List.forall_mem_cons.mp all
    have more : wire.flatMap encode ≠ [] → full element := by
      intro something
      cases wire with
      | nil => exact absurd rfl something
      | cons => exact allFull _ List.mem_cons_self
    have back : ∀ element ∈ wire.dropLast, full element := by
      intro other member
      cases wire with
      | nil => cases member
      | cons => exact allFull _ (List.mem_cons_of_mem _ member)
    obtain ⟨frame, first, shown⟩ := cut offset fits more
    obtain ⟨frames, tiles, allShown⟩ := ih others back (offset + (encode element).length)
    exact ⟨frame :: frames, .cons first tiles, .cons shown allShown⟩

theorem Tiles.exists_wire
    (cut : ∀ {slice rest : Slice} {frame : Frame η}, framing.cut slice = .ok (frame, rest) →
      ∃ element, slice.octets = encode element ++ rest.octets ∧ shows frame element)
    {slice : Slice} {frames : List (Frame η)} (tiles : Tiles framing slice frames) :
    ∃ wire, slice.octets = wire.flatMap encode ∧ List.Forall₂ shows frames wire := by
  induction tiles with
  | nil nothing => exact ⟨[], nothing, .nil⟩
  | cons first _ ih =>
    obtain ⟨element, parts, shown⟩ := cut first
    obtain ⟨wire, rest, allShown⟩ := ih
    refine ⟨element :: wire, ?_, .cons shown allShown⟩
    rw [parts, rest, List.flatMap_cons]

theorem Tiles.wire_whole {single : ω → Prop}
    (cut : ∀ {slice rest : Slice} {frame : Frame η}, framing.cut slice = .ok (frame, rest) →
      ∃ element, single element ∧ slice.octets = encode element ++ rest.octets ∧ shows frame element)
    {slice : Slice} {frames : List (Frame η)} (tiles : Tiles framing slice frames) :
    ∃ wire, (∀ element ∈ wire, single element) ∧ slice.octets = wire.flatMap encode ∧
      List.Forall₂ shows frames wire := by
  have each : ∀ {slice rest : Slice} {frame : Frame η}, framing.cut slice = .ok (frame, rest) →
      ∃ element, slice.octets = encode element ++ rest.octets ∧ single element ∧ shows frame element := by
    intro slice rest frame found
    obtain ⟨element, fits, parts, shown⟩ := cut found
    exact ⟨element, parts, fits, shown⟩
  obtain ⟨wire, parts, both⟩ := tiles.exists_wire each
  obtain ⟨all, shown⟩ := (List.forall₂_and_left ..).mp both.flip
  exact ⟨wire, all, parts, shown.flip⟩

theorem tiles_of_whole {single : ω → Prop}
    (cut : ∀ {element others} (offset : Nat), single element →
      ∃ frame, framing.cut ⟨offset, encode element ++ others⟩ =
        .ok (frame, ⟨offset + (encode element).length, others⟩) ∧ shows frame element)
    {wire : List ω} (all : ∀ element ∈ wire, single element) (offset : Nat) :
    ∃ frames, Tiles framing ⟨offset, wire.flatMap encode⟩ frames ∧ List.Forall₂ shows frames wire :=
  tiles_of_wire (fun offset fits _ => cut offset fits) all
    (fun element member => all element (List.dropLast_subset wire member)) offset

theorem behind_of_cut {octets : List UInt8} {passes : Frame η → Prop} {slice rest : Slice}
    {frame : Frame η} (found : framing.cut slice = .ok (frame, rest))
    (parts : slice.octets = octets ++ rest.octets)
    (again : ∃ frame, framing.cut ⟨slice.offset, octets ++ rest.octets⟩ =
      .ok (frame, ⟨slice.offset + octets.length, rest.octets⟩) ∧ passes frame) :
    Reader.Behind slice octets rest := by
  obtain ⟨again, same, -⟩ := again
  rw [← parts, found] at same
  exact ⟨parts, congrArg Slice.offset (congrArg Prod.snd (Except.ok.inj same))⟩

end Framing

theorem forall₂_shown {β γ : Type} {shows : β → γ → Prop} {reads : β → α → Prop}
    {gives : γ → α → Prop} {frames : List β} {wire : List γ} {values : List α}
    (shown : List.Forall₂ shows frames wire) (read : List.Forall₂ reads frames values)
    (each : ∀ {frame element value}, shows frame element → reads frame value → gives element value) :
    List.Forall₂ gives wire values := by
  induction shown generalizing values with
  | nil =>
    cases read
    exact .nil
  | cons first _ ih =>
    cases read with
    | cons answer others => exact .cons (each first answer) (ih others)

theorem forall_mem_of_forall₂ {β : Type} {relation : α → β → Prop} {holds : α → Prop}
    {holds' : β → Prop} {values : List α} {others : List β}
    (related : List.Forall₂ relation values others) (each : ∀ value ∈ values, holds value)
    (carried : ∀ {value other}, relation value other → holds value → holds' other) :
    ∀ other ∈ others, holds' other := by
  induction related with
  | nil => exact List.forall_mem_nil _
  | cons first _ ih =>
    obtain ⟨one, more⟩ := List.forall_mem_cons.mp each
    exact List.forall_mem_cons.mpr ⟨carried first one, ih more⟩

theorem Reader.inside_iff_whole (reader : Reader ε α) [reader.Uniform] {contents : Slice} {value : α} :
    reader.inside contents = .ok value ↔ reader.inside (.whole contents.octets) = .ok value := by
  have same := inside_moved reader contents.offset (.whole contents.octets)
  rw [Slice.moved_whole] at same
  rw [same]
  cases reader.inside (.whole contents.octets) <;> simp [Except.mapError]

namespace Pcep

theorem Scan.whole_of_ok (scan : Scan ε α) [scan.Uniform] {registry : Registry} {slice rest : Slice}
    {ignored : Ignored} {value : α} (found : scan registry slice = (ignored, .ok (value, rest))) :
    ∃ rest, scan registry (.whole slice.octets) = (ignored, .ok (value, rest)) := by
  have same := apply_moved scan registry slice.offset (.whole slice.octets)
  rw [Slice.moved_whole, found] at same
  generalize scan registry (.whole slice.octets) = answer at same ⊢
  rcases answer with ⟨_, failure | ⟨_, rest⟩⟩
  · cases same
  · cases same
    exact ⟨rest, rfl⟩

/-- Reads a value as a reader says, if there is one, and otherwise passes it over with a note. -/
def Scan.asKnown (reader? : Option (Reader ε α)) (note : Ignored) (value : Slice) :
    Ignored × Except (Failure ε) (Option α) :=
  match reader? with
  | none => (note, .ok none)
  | some reader =>
    match reader.inside value with
    | .error failure => (∅, .error failure)
    | .ok found => (∅, .ok (some found))

theorem Scan.asKnown_ok {reader? : Option (Reader ε α)} {note ignored : Ignored} {value : Slice}
    {value? : Option α} :
    asKnown reader? note value = (ignored, .ok value?) ↔
      (reader? = none ∧ ignored = note ∧ value? = none) ∨
      ∃ reader found, reader? = some reader ∧ reader.inside value = .ok found ∧ ignored = ∅ ∧
        value? = some found := by
  cases reader? with
  | none => simp [asKnown, eq_comm]
  | some reader =>
    rw [asKnown]
    cases read : reader.inside value with
    | error failure => simp [read]
    | ok found => simp [read, eq_comm]

def Ignored.concat (records : List Ignored) : Ignored := records.foldr (· ++ ·) ∅

theorem Ignored.concat_skipped {β : Type} (note : List β → Ignored) (nothing : note [] = ∅)
    (more : ∀ first others, note [first] ++ note others = note (first :: others)) (keeps : ω → Bool)
    (noted : ω → β) (wire : List ω) :
    concat (wire.map fun element => if keeps element then ∅ else note [noted element]) =
      note ((wire.filter fun element => !keeps element).map noted) := by
  induction wire with
  | nil => exact nothing.symm
  | cons element wire ih =>
    rw [List.map_cons, concat, List.foldr_cons, ← concat, ih, List.filter_cons]
    cases keeps element with
    | true => exact Ignored.empty_append _
    | false => exact more ..

theorem Scan.Kept.accounted {read : Frame η → Ignored × Except (Failure ε) (Option α)}
    {frames : List (Frame η)} {wire : List ω} {ignored : Ignored} {values : List α}
    (kept : Kept read frames ignored values) (shown : List.Forall₂ shows frames wire)
    {keeps : ω → Bool} {gives : ω → α → Prop} {record : ω → Ignored}
    (each : ∀ {frame element ignored value?}, shows frame element →
      read frame = (ignored, .ok value?) → ignored = record element ∧
        if keeps element then ∃ value, value? = some value ∧ gives element value
        else value? = none) :
    List.Forall₂ gives (wire.filter keeps) values ∧ ignored = .concat (wire.map record) := by
  induction shown generalizing ignored values with
  | nil =>
    cases kept
    exact ⟨.nil, rfl⟩
  | @cons frame element frames wire first _ ih =>
    cases kept with
    | cons answer others =>
      obtain ⟨rest, later⟩ := ih others
      obtain ⟨noted, kind⟩ := each first answer
      refine ⟨?_, by rw [noted, later]; rfl⟩
      rw [List.filter_cons]
      split at kind
      · next keep =>
        obtain ⟨value, rfl, given⟩ := kind
        rw [if_pos keep]
        exact .cons given rest
      · next skip =>
        subst kind
        rw [if_neg skip]
        exact rest

theorem Scan.Kept.replaced {read : Frame η → Ignored × Except (Failure ε) (Option α)}
    {frames others : List (Frame η)} {wire news : List ω} {ignored : Ignored} {values : List α}
    (kept : Kept read frames ignored values) (shown : List.Forall₂ shows frames wire)
    (otherShown : List.Forall₂ shows others news) {alike : ω → ω → Prop}
    (same : List.Forall₂ alike wire news)
    (each : ∀ {frame replaced element new ignored value?}, shows frame element →
      shows replaced new → alike element new → read frame = (ignored, .ok value?) →
        read replaced = (ignored, .ok value?)) :
    Kept read others ignored values := by
  induction same generalizing frames others ignored values with
  | nil =>
    cases shown
    cases otherShown
    exact kept
  | cons first _ ih =>
    cases shown with
    | cons one rest =>
      cases otherShown with
      | cons two more =>
        cases kept with
        | cons answer later => exact .cons (each one two first answer) (ih later rest more)

end Pcep
end RouteWire
