import RouteWire.Proofs.Relocation
/-!
Readers that keep to their slice. What a reader leaves is part of the slice that it was given, and where
it fails is a place in that slice, with no more octets left than the slice has from there on. Elements
cut off a slice are part of it, so what is read inside them fails inside them.

Main statements: `Reader.Local.bind`, `Framing.Confined.local_readAll`, `Pcep.Scan.confined_elements` and
`Pcep.Scan.element_error`.
-/
namespace RouteWire
variable {ε ε' η α β : Type}

/-! ## Places -/

def Slice.stop (slice : Slice) : Nat := slice.offset + slice.octets.length

def Slice.Within (part whole : Slice) : Prop := whole.offset ≤ part.offset ∧ part.stop ≤ whole.stop

/-- The failure arose from `start` on, and the octets that were left then end at `stop` or before. -/
def Failure.In (failure : Failure ε) (start stop : Nat) : Prop :=
  start ≤ failure.offset ∧ failure.offset + failure.left ≤ stop

def Failure.Within (failure : Failure ε) (slice : Slice) : Prop := failure.In slice.offset slice.stop

namespace Slice
variable {slice part head rest : Slice} {count : Nat}

theorem Within.refl (slice : Slice) : slice.Within slice := ⟨Nat.le_refl _, Nat.le_refl _⟩

theorem Within.trans (inner : rest.Within part) (outer : part.Within slice) : rest.Within slice :=
  ⟨Nat.le_trans outer.1 inner.1, Nat.le_trans inner.2 outer.2⟩

theorem finish_within (slice : Slice) : slice.finish.Within slice :=
  ⟨Nat.le_add_right .., Nat.le_refl _⟩

theorem skip_within (slice : Slice) (count : Nat) : (slice.skip count).Within slice := by
  have size := congrArg List.length (List.take_append_drop count slice.octets)
  rw [List.length_append] at size
  constructor
  · exact Nat.le_add_right ..
  · simp only [stop, skip]
    omega

theorem within_of_split? (cut : slice.split? count = some (head, rest)) :
    head.Within slice ∧ rest.Within slice := by
  obtain ⟨whole, length, first, second⟩ := octets_of_split? cut
  have size := congrArg List.length whole
  rw [List.length_append] at size
  simp only [Within, stop]
  omega

theorem within_behind {offset : Nat} (header : List UInt8) {octets : List UInt8} {count : Nat}
    (cut : split? ⟨offset + header.length, octets⟩ count = some (head, rest)) :
    head.Within ⟨offset, header ++ octets⟩ ∧ rest.Within ⟨offset, header ++ octets⟩ := by
  have behind : Within ⟨offset + header.length, octets⟩ ⟨offset, header ++ octets⟩ := by
    simp only [Within, stop, List.length_append]
    omega
  exact ⟨(within_of_split? cut).1.trans behind, (within_of_split? cut).2.trans behind⟩

theorem failure_within (slice : Slice) (error : ε) : (slice.failure error).Within slice :=
  ⟨Nat.le_refl _, Nat.le_refl _⟩

end Slice

theorem Failure.Within.trans {failure : Failure ε} {part slice : Slice} (inner : failure.Within part)
    (outer : part.Within slice) : failure.Within slice :=
  ⟨Nat.le_trans outer.1 inner.1, Nat.le_trans inner.2 outer.2⟩

theorem Failure.Within.in_whole {failure : Failure ε} {octets : List UInt8}
    (within : failure.Within (.whole octets)) : failure.In 0 octets.length := by
  rwa [Failure.Within, Slice.stop, Slice.whole, Nat.zero_add] at within

theorem Failure.Within.in_contents {failure : Failure ε} {octets : List UInt8} {contents : Slice}
    {start stop : Nat} (within : failure.Within contents)
    (first : contents.offset = (Slice.whole octets).offset + start)
    (last : contents.stop = (Slice.whole octets).offset + stop) : failure.In start stop := by
  rwa [Failure.Within, first, last, Slice.whole, Nat.zero_add, Nat.zero_add] at within

/-! ## Readers -/

namespace Reader

def Keeps (slice : Slice) : Except (Failure ε) (α × Slice) → Prop
  | .error failure => failure.Within slice
  | .ok (_, rest) => rest.Within slice

theorem Keeps.trans {part slice : Slice} {answer : Except (Failure ε) (α × Slice)}
    (inner : Keeps part answer) (outer : part.Within slice) : Keeps slice answer := by
  rcases answer with failure | ⟨value, rest⟩
  · exact Failure.Within.trans inner outer
  · exact Slice.Within.trans inner outer

/-- A reader for which there is nothing but its slice: where that stands does not matter, and neither
what is left nor a failure is outside of it. -/
class Local (reader : Reader ε α) : Prop extends reader.Uniform where
  keeps : ∀ slice, Keeps slice (reader slice)

theorem keeps (reader : Reader ε α) [kept : reader.Local] (slice : Slice) : Keeps slice (reader slice) :=
  kept.keeps slice

variable {reader : Reader ε α}

theorem within_of_failed [reader.Local] {slice : Slice} {failure : Failure ε}
    (failed : reader slice = .error failure) : failure.Within slice := by
  have kept := reader.keeps slice
  rwa [failed] at kept

theorem within_of_inside [reader.Local] {contents : Slice} {failure : Failure ε}
    (failed : reader.inside contents = .error failure) : failure.Within contents := by
  rw [inside] at failed
  split at failed
  · next found =>
    cases failed
    exact within_of_failed found
  · cases failed

instance (value : α) : (pure value : Reader ε α).Local := ⟨Slice.Within.refl⟩

theorem Local.bind {next : α → Reader ε β} (first : reader.Local)
    (later : ∀ value, (next value).Local) : (reader >>= next).Local := by
  refine { toUniform := inferInstance, keeps := fun slice => ?_ }
  have kept := reader.keeps slice
  rw [bind_apply]
  rcases found : reader slice with failure | ⟨value, rest⟩
  · rw [found] at kept
    exact kept
  · rw [found] at kept
    exact ((later value).keeps rest).trans kept

instance {next : α → Reader ε β} [first : reader.Local] [later : ∀ value, (next value).Local] :
    (reader >>= next).Local := first.bind later

instance {condition : Prop} [Decidable condition] {other : Reader ε α} [first : reader.Local]
    [second : other.Local] : (if condition then reader else other).Local := by
  split
  · exact first
  · exact second

instance (error : ε) : (fail error : Reader ε α).Local := ⟨fun slice => slice.failure_within error⟩

instance (condition : Bool) (error : ε) : (require condition error).Local := by
  unfold require
  infer_instance

instance : (left : Reader ε Nat).Local := ⟨Slice.Within.refl⟩

instance (length : Nat) (error : Nat → ε) : (exactly length error).Local := by
  unfold exactly
  infer_instance

instance (length : Nat) (error : Nat → ε) : (atLeast length error).Local := by
  unfold atLeast
  infer_instance

instance (unit : Nat) (error : Nat → ε) : (multipleOf unit error).Local := by
  unfold multipleOf
  infer_instance

instance {wrap : ε → ε'} [reader.Local] : (reader.mapError wrap).Local := by
  refine ⟨fun slice => ?_⟩
  have kept := reader.keeps slice
  rw [mapError]
  rcases found : reader slice with failure | ⟨value, rest⟩ <;> (rw [found] at kept; exact kept)

instance {conversion : α → Except ε β} [reader.Local] : (reader.convert conversion).Local := by
  refine ⟨fun slice => ?_⟩
  have kept := reader.keeps slice
  rw [convert]
  rcases found : reader slice with failure | ⟨value, rest⟩
  · rw [found] at kept
    exact kept
  · rw [found] at kept
    dsimp only
    cases conversion value with
    | error error => exact slice.failure_within error
    | ok converted => exact kept

instance [reader.Local] : reader.peek.Local := by
  refine ⟨fun slice => ?_⟩
  have kept := reader.keeps slice
  rw [peek]
  rcases found : reader slice with failure | ⟨value, rest⟩
  · rw [found] at kept
    exact kept
  · exact .refl slice

instance : (remaining : Reader ε (List UInt8)).Local := ⟨Slice.finish_within⟩

instance (width : Nat) (value : List UInt8 → α) : (many width value : Reader ε (List α)).Local :=
  ⟨fun slice => slice.skip_within _⟩

section Primitives
variable [EndOfInput ε]

instance (count : Nat) : (take count : Reader ε (List UInt8)).Local := by
  refine ⟨fun slice => ?_⟩
  rw [take]
  cases cut : slice.split? count with
  | none => exact slice.failure_within _
  | some parts => exact (Slice.within_of_split? cut).2

instance : (octet : Reader ε UInt8).Local := by
  refine ⟨fun ⟨offset, octets⟩ => ?_⟩
  cases octets with
  | nil => exact Slice.failure_within _ _
  | cons first others => exact Slice.skip_within ⟨offset, first :: others⟩ 1

instance (width : Nat) : (number width : Reader ε Nat).Local := by
  unfold number
  infer_instance

instance : (word16 : Reader ε UInt16).Local := by
  unfold word16
  infer_instance

instance : (word32 : Reader ε UInt32).Local := by
  unfold word32
  infer_instance

instance : (word64 : Reader ε UInt64).Local := by
  unfold word64
  infer_instance

instance : (Ipv4.read : Reader ε Ipv4).Local := by
  unfold Ipv4.read
  infer_instance

instance : (Ipv6.read : Reader ε Ipv6).Local := by
  unfold Ipv6.read
  infer_instance

instance : (Pcep.SidStructure.read : Reader ε Pcep.SidStructure).Local := by
  unfold Pcep.SidStructure.read
  infer_instance

end Primitives
end Reader

/-! ## Elements -/

def Frame.Within (frame : Frame η) (slice : Slice) : Prop :=
  frame.start.Within slice ∧ frame.value.Within slice

namespace Framing
variable {framing : Framing η ε}

def Confined (framing : Framing η ε) : Prop :=
  ∀ slice, match framing.cut slice with
    | .error failure => failure.Within slice
    | .ok (frame, rest) => frame.Within slice ∧ rest.Within slice

theorem Confined.cutAll (confined : framing.Confined) (slice : Slice) :
    (∀ frame ∈ (framing.cutAll slice).1, frame.Within slice) ∧
      ∀ failure, (framing.cutAll slice).2 = some failure → failure.Within slice := by
  rw [cutAll_eq]
  split
  · exact ⟨List.forall_mem_nil _, nofun⟩
  · have here := confined slice
    rcases found : framing.cut slice with failure | ⟨frame, rest⟩
    · rw [found] at here
      refine ⟨List.forall_mem_nil _, ?_⟩
      rintro _ ⟨⟩
      exact here
    · rw [found] at here
      have := framing.shrinks found
      obtain ⟨frames, stopped⟩ := confined.cutAll rest
      exact ⟨List.forall_mem_cons.mpr ⟨here.1, fun other member =>
        ⟨(frames other member).1.trans here.2, (frames other member).2.trans here.2⟩⟩,
        fun failure found => (stopped failure found).trans here.2⟩
termination_by slice.octets.length

theorem confined_ofWidth [EndOfInput ε] (width : Nat) (positive : 0 < width) :
    (ofWidth width positive : Framing Unit ε).Confined := by
  intro slice
  dsimp only [ofWidth]
  cases cut : slice.split? width with
  | none => exact slice.failure_within _
  | some parts =>
    obtain ⟨here, after⟩ := Slice.within_of_split? cut
    exact ⟨⟨.refl slice, here⟩, after⟩

def ConfinedRead (read : Frame η → Except (Failure ε) α) : Prop :=
  ∀ slice frame failure, frame.Within slice → read frame = .error failure → failure.Within slice

theorem confinedRead_of_value {read : Frame η → Except (Failure ε) α}
    (inside : ∀ frame failure, read frame = .error failure → failure.Within frame.value) :
    ConfinedRead read :=
  fun _ frame failure within failed => (inside frame failure failed).trans within.2

theorem ConfinedRead.collect {read : Frame η → Except (Failure ε) α} (reads : ConfinedRead read)
    {slice : Slice} {stopped : Option (Failure ε)} {failure : Failure ε} {frames : List (Frame η)}
    (within : ∀ frame ∈ frames, frame.Within slice)
    (last : ∀ failure, stopped = some failure → failure.Within slice)
    (failed : collect read stopped frames = .error failure) : failure.Within slice := by
  induction frames with
  | nil =>
    cases stopped with
    | none => cases failed
    | some other =>
      cases failed
      exact last _ rfl
  | cons frame frames ih =>
    obtain ⟨first, others⟩ := List.forall_mem_cons.mp within
    rw [Framing.collect] at failed
    cases found : read frame with
    | error other =>
      rw [found] at failed
      cases failed
      exact reads slice frame _ first found
    | ok value =>
      rw [found] at failed
      dsimp only at failed
      cases later : Framing.collect read stopped frames with
      | error other =>
        rw [later] at failed
        cases failed
        exact ih others later
      | ok values =>
        rw [later] at failed
        cases failed

theorem Confined.local_readAll {read : Frame η → Except (Failure ε) α} (confined : framing.Confined)
    (uniform : framing.Uniform) (reads : ConfinedRead read) (same : UniformRead read) :
    (framing.readAll read).Local := by
  refine { toUniform := uniform.readAll same, keeps := fun slice => ?_ }
  have all := confined.cutAll slice
  rw [Framing.readAll]
  rcases found : framing.cutAll slice with ⟨frames, stopped⟩
  rw [found] at all
  dsimp only
  cases collected : Framing.collect read stopped frames with
  | error failure => exact reads.collect all.1 all.2 collected
  | ok values => exact slice.finish_within

end Framing

/-! ## Scans -/

namespace Pcep.Scan
open Reader

class Confined (scan : Scan ε α) : Prop where
  keeps : ∀ registry slice, Keeps slice (scan registry slice).2

theorem keeps (scan : Scan ε α) [confined : scan.Confined] (registry : Registry) (slice : Slice) :
    Keeps slice (scan registry slice).2 :=
  confined.keeps registry slice

theorem within_of_failed (scan : Scan ε α) [scan.Confined] {registry : Registry} {slice : Slice}
    {failure : Failure ε} (failed : (scan registry slice).2 = .error failure) :
    failure.Within slice := by
  have kept := scan.keeps registry slice
  rwa [failed] at kept

variable {scan : Scan ε α}

instance (value : α) : (pure value : Scan ε α).Confined := ⟨fun _ => Slice.Within.refl⟩

instance {reader : Registry → Reader ε α} [∀ registry, (reader registry).Local] :
    (ofReader reader).Confined := ⟨fun registry => (reader registry).keeps⟩

instance {next : α → Scan ε β} [scan.Logs] [∀ value, (next value).Logs] [scan.Confined]
    [later : ∀ value, (next value).Confined] : (scan >>= next).Confined := by
  refine ⟨fun registry slice => ?_⟩
  have kept := scan.keeps registry slice
  rw [(records_bind scan next).apply]
  rcases found : scan registry slice with ⟨ignored, failure | ⟨value, rest⟩⟩
  · rw [found] at kept
    exact kept
  · rw [found] at kept
    exact ((later value).keeps registry rest).trans kept

instance {wrap : ε → ε'} [scan.Logs] [scan.Confined] : (scan.mapError wrap).Confined := by
  refine ⟨fun registry slice => ?_⟩
  have kept := scan.keeps registry slice
  rw [(records_mapError wrap scan).apply]
  rcases found : scan registry slice with ⟨ignored, failure | ⟨value, rest⟩⟩ <;>
    (rw [found] at kept; exact kept)

variable {framing : Framing η ε} {slice : Slice} {failure : Failure ε}

theorem within_of_collected {read : Frame η → Ignored × Except (Failure ε) (Option α)}
    (reads : Framing.ConfinedRead fun frame => (read frame).2) {stopped : Option (Failure ε)}
    {frames : List (Frame η)} (within : ∀ frame ∈ frames, frame.Within slice)
    (last : ∀ failure, stopped = some failure → failure.Within slice)
    (failed : (collected read stopped frames).2 = .error failure) : failure.Within slice := by
  induction frames with
  | nil =>
    cases stopped with
    | none => cases failed
    | some other =>
      cases failed
      exact last _ rfl
  | cons frame frames ih =>
    obtain ⟨first, others⟩ := List.forall_mem_cons.mp within
    rw [collected] at failed
    rcases found : read frame with ⟨ignored, other | value?⟩
    · rw [found] at failed
      cases failed
      exact reads slice frame _ first (congrArg Prod.snd found)
    · rw [found] at failed
      dsimp only at failed
      rcases later : collected read stopped frames with ⟨ignored', other | values⟩
      · rw [later] at failed
        cases failed
        exact ih others (congrArg Prod.snd later)
      · rw [later] at failed
        cases failed

variable {registry : Registry}

theorem confined_elements {read : FrameReader η ε (Option α)} [read.Logs] (confined : framing.Confined)
    (reads : ∀ registry, Framing.ConfinedRead fun frame => (read registry frame).2) :
    (elements framing read).Confined := by
  refine ⟨fun registry slice => ?_⟩
  have all := confined.cutAll slice
  rw [(records_elements framing read).apply]
  rcases found : framing.cutAll slice with ⟨frames, stopped⟩
  rw [found] at all
  dsimp only
  rcases collected : collected (read registry) stopped frames with ⟨ignored, failure | values⟩
  · exact within_of_collected (reads registry) all.1 all.2 (congrArg Prod.snd collected)
  · exact slice.finish_within

theorem element_error {read : FrameReader η ε α} [read.Logs] :
    (element framing read registry slice).2 = .error failure ↔
      framing.cut slice = .error failure ∨
        ∃ frame rest, framing.cut slice = .ok (frame, rest) ∧
          (read registry frame).2 = .error failure := by
  rw [(records_element framing read).apply]
  rcases framing.cut slice with other | ⟨frame, rest⟩
  · simp
  · rcases outcome : read registry frame with ⟨ignored, other | value⟩
    · simp [outcome]
    · simp [outcome]

theorem within_of_element {read : FrameReader η ε α} [read.Logs] (confined : framing.Confined)
    (reads : Framing.ConfinedRead fun frame => (read registry frame).2)
    (failed : (element framing read registry slice).2 = .error failure) : failure.Within slice := by
  have here := confined slice
  rcases element_error.mp failed with cut | ⟨frame, rest, cut, inside⟩
  · rw [cut] at here
    exact here
  · rw [cut] at here
    exact reads slice frame failure here.1 inside

end Pcep.Scan
end RouteWire
