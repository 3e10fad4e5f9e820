import RouteWire.Proofs.Framing
/-!
Octets at another place. What is read where some octets stand is read alike wherever they stand: values
and records are the same, and the rests and the failures move along. Readers, framings and scans that
behave so are called uniform, and what is put together from uniform ones is uniform.

Main statements: `Reader.Uniform.bind`, `Framing.Uniform.readAll`, `Pcep.Scan.uniform_elements`.
-/
namespace RouteWire
variable {ε ε' η α β : Type}

namespace Slice

def moved (distance : Nat) (slice : Slice) : Slice := ⟨slice.offset + distance, slice.octets⟩

@[simp] theorem octets_moved (distance : Nat) (slice : Slice) :
    (slice.moved distance).octets = slice.octets := rfl

theorem moved_whole (offset : Nat) (octets : List UInt8) :
    (whole octets).moved offset = ⟨offset, octets⟩ := by
  rw [moved, whole, Nat.zero_add]

theorem finish_moved (distance : Nat) (slice : Slice) :
    (slice.moved distance).finish = slice.finish.moved distance := by
  rw [finish, finish, moved, moved, Nat.add_right_comm]

theorem skip_moved (distance count : Nat) (slice : Slice) :
    (slice.moved distance).skip count = (slice.skip count).moved distance := by
  rw [skip, skip, moved, moved, Nat.add_right_comm]

theorem split?_moved (distance count : Nat) (slice : Slice) :
    (slice.moved distance).split? count =
      (slice.split? count).map fun parts => (parts.1.moved distance, parts.2.moved distance) := by
  rw [split?, split?, octets_moved]
  split
  · rw [Option.map_some, moved, moved, moved, Nat.add_right_comm]
  · rfl

end Slice

def Failure.moved (distance : Nat) (failure : Failure ε) : Failure ε :=
  { failure with offset := failure.offset + distance }

@[simp] theorem Slice.failure_moved (distance : Nat) (slice : Slice) (error : ε) :
    (slice.moved distance).failure error = (slice.failure error).moved distance := rfl

def Frame.moved (distance : Nat) (frame : Frame η) : Frame η where
  start := frame.start.moved distance
  header := frame.header
  value := frame.value.moved distance

namespace Reader

def movedAnswer (distance : Nat) : Except (Failure ε) (α × Slice) → Except (Failure ε) (α × Slice)
  | .error failure => .error (failure.moved distance)
  | .ok (value, rest) => .ok (value, rest.moved distance)

/-- Where octets stand does not matter for what a reader makes of them. -/
class Uniform (reader : Reader ε α) : Prop where
  moved : ∀ distance slice, reader (slice.moved distance) = movedAnswer distance (reader slice)

theorem apply_moved (reader : Reader ε α) [uniform : reader.Uniform] (distance : Nat) (slice : Slice) :
    reader (slice.moved distance) = movedAnswer distance (reader slice) :=
  uniform.moved distance slice

variable {reader : Reader ε α}

theorem inside_moved (reader : Reader ε α) [reader.Uniform] (distance : Nat) (contents : Slice) :
    reader.inside (contents.moved distance) =
      (reader.inside contents).mapError (Failure.moved distance) := by
  rw [inside, inside, apply_moved reader]
  cases reader contents <;> rfl

instance (value : α) : (pure value : Reader ε α).Uniform := ⟨fun _ _ => rfl⟩

theorem Uniform.bind {next : α → Reader ε β} (first : reader.Uniform)
    (later : ∀ value, (next value).Uniform) : (reader >>= next).Uniform := by
  refine ⟨fun distance slice => ?_⟩
  rw [bind_apply, bind_apply, apply_moved reader]
  rcases reader slice with failure | ⟨value, rest⟩
  · rfl
  · exact (later value).moved distance rest

instance {next : α → Reader ε β} [first : reader.Uniform] [later : ∀ value, (next value).Uniform] :
    (reader >>= next).Uniform := first.bind later

instance (error : ε) : (fail error : Reader ε α).Uniform := ⟨fun _ _ => rfl⟩

instance : (left : Reader ε Nat).Uniform := ⟨fun _ _ => rfl⟩

instance {wrap : ε → ε'} [reader.Uniform] : (reader.mapError wrap).Uniform := by
  refine ⟨fun distance slice => ?_⟩
  rw [mapError, mapError, apply_moved reader]
  rcases reader slice with failure | ⟨value, rest⟩ <;> rfl

instance {conversion : α → Except ε β} [reader.Uniform] : (reader.convert conversion).Uniform := by
  refine ⟨fun distance slice => ?_⟩
  rw [convert, convert, apply_moved reader]
  rcases reader slice with failure | ⟨value, rest⟩
  · rfl
  · dsimp only [movedAnswer]
    cases conversion value <;> rfl

instance [reader.Uniform] : reader.peek.Uniform := by
  refine ⟨fun distance slice => ?_⟩
  rw [peek, peek, apply_moved reader]
  rcases reader slice with failure | ⟨value, rest⟩ <;> rfl

instance : (remaining : Reader ε (List UInt8)).Uniform := by
  refine ⟨fun distance slice => ?_⟩
  rw [remaining, remaining, Slice.finish_moved]
  rfl

instance (width : Nat) (value : List UInt8 → α) : (many width value : Reader ε (List α)).Uniform := by
  refine ⟨fun distance slice => ?_⟩
  rw [many, many]
  dsimp only [Slice.octets_moved]
  rw [Slice.skip_moved]
  rfl

section Primitives
variable [EndOfInput ε]

instance (count : Nat) : (take count : Reader ε (List UInt8)).Uniform := by
  refine ⟨fun distance slice => ?_⟩
  rw [take, take, Slice.split?_moved]
  rcases slice.split? count with _ | ⟨head, rest⟩ <;> rfl

instance : (octet : Reader ε UInt8).Uniform := by
  refine ⟨fun distance ⟨offset, octets⟩ => ?_⟩
  cases octets with
  | nil => rfl
  | cons first others => rw [Slice.moved, octet, octet, movedAnswer, Slice.moved, Nat.add_right_comm]

instance (width : Nat) : (number width : Reader ε Nat).Uniform := by
  unfold number
  infer_instance

end Primitives
end Reader

namespace Framing
variable {framing : Framing η ε}

def Uniform (framing : Framing η ε) : Prop :=
  ∀ distance slice, framing.cut (slice.moved distance) =
    match framing.cut slice with
    | .error failure => .error (failure.moved distance)
    | .ok (frame, rest) => .ok (frame.moved distance, rest.moved distance)

theorem Uniform.cutAll (uniform : framing.Uniform) (distance : Nat) (slice : Slice) :
    framing.cutAll (slice.moved distance) =
      ((framing.cutAll slice).1.map (Frame.moved distance),
        (framing.cutAll slice).2.map (Failure.moved distance)) := by
  rw [cutAll_eq, cutAll_eq framing slice, Slice.octets_moved, uniform]
  split
  · rfl
  · rcases found : framing.cut slice with failure | ⟨frame, rest⟩
    · rfl
    · have := framing.shrinks found
      dsimp only
      rw [uniform.cutAll distance rest]
      rfl
termination_by slice.octets.length

theorem uniform_ofWidth [EndOfInput ε] (width : Nat) (positive : 0 < width) :
    (ofWidth width positive : Framing Unit ε).Uniform := by
  intro distance slice
  dsimp only [ofWidth]
  rw [Slice.split?_moved]
  rcases slice.split? width with _ | ⟨value, rest⟩ <;> rfl

def UniformRead (read : Frame η → Except (Failure ε) α) : Prop :=
  ∀ distance frame, read (frame.moved distance) = (read frame).mapError (Failure.moved distance)

theorem UniformRead.collect {read : Frame η → Except (Failure ε) α} (uniform : UniformRead read)
    (distance : Nat) (stopped : Option (Failure ε)) (frames : List (Frame η)) :
    collect read (stopped.map (Failure.moved distance)) (frames.map (Frame.moved distance)) =
      (collect read stopped frames).mapError (Failure.moved distance) := by
  induction frames with
  | nil => cases stopped <;> rfl
  | cons frame frames ih =>
    rw [List.map_cons, Framing.collect, Framing.collect, uniform, ih]
    rcases read frame with failure | value
    · rfl
    · dsimp only [Except.mapError]
      cases Framing.collect read stopped frames <;> rfl

theorem Uniform.readAll {read : Frame η → Except (Failure ε) α} (uniform : framing.Uniform)
    (reads : UniformRead read) : (framing.readAll read).Uniform := by
  refine ⟨fun distance slice => ?_⟩
  rw [Framing.readAll, Framing.readAll, uniform.cutAll]
  dsimp only
  rw [reads.collect, Slice.finish_moved]
  cases Framing.collect read (framing.cutAll slice).2 (framing.cutAll slice).1 <;> rfl

end Framing

namespace Pcep.Scan

class Uniform (scan : Scan ε α) : Prop where
  moved : ∀ registry distance slice, scan registry (slice.moved distance) =
    ((scan registry slice).1, Reader.movedAnswer distance (scan registry slice).2)

theorem apply_moved (scan : Scan ε α) [uniform : scan.Uniform] (registry : Registry) (distance : Nat)
    (slice : Slice) : scan registry (slice.moved distance) =
      ((scan registry slice).1, Reader.movedAnswer distance (scan registry slice).2) :=
  uniform.moved registry distance slice

variable {scan : Scan ε α}

instance (value : α) : (pure value : Scan ε α).Uniform := ⟨fun _ _ _ => rfl⟩

instance {reader : Registry → Reader ε α} [∀ registry, (reader registry).Uniform] :
    (ofReader reader).Uniform := by
  refine ⟨fun registry distance slice => ?_⟩
  rw [(records_ofReader reader).apply, (records_ofReader reader).apply,
    Reader.apply_moved (reader registry)]

instance {next : α → Scan ε β} [scan.Logs] [∀ value, (next value).Logs] [scan.Uniform]
    [later : ∀ value, (next value).Uniform] : (scan >>= next).Uniform := by
  refine ⟨fun registry distance slice => ?_⟩
  rw [(records_bind scan next).apply, (records_bind scan next).apply, apply_moved scan]
  rcases scan registry slice with ⟨ignored, failure | ⟨value, rest⟩⟩
  · rfl
  · dsimp only [Reader.movedAnswer]
    rw [(later value).moved registry distance rest]
    rfl

instance {wrap : ε → ε'} [scan.Logs] [scan.Uniform] : (scan.mapError wrap).Uniform := by
  refine ⟨fun registry distance slice => ?_⟩
  rw [(records_mapError wrap scan).apply, (records_mapError wrap scan).apply, apply_moved scan]
  rcases scan registry slice with ⟨ignored, failure | ⟨value, rest⟩⟩ <;> rfl

def UniformRead (read : Frame η → Ignored × Except (Failure ε) α) : Prop :=
  ∀ distance frame, read (frame.moved distance) =
    ((read frame).1, (read frame).2.mapError (Failure.moved distance))

theorem UniformRead.collected {read : Frame η → Ignored × Except (Failure ε) (Option α)}
    (uniform : UniformRead read) (distance : Nat) (stopped : Option (Failure ε))
    (frames : List (Frame η)) :
    collected read (stopped.map (Failure.moved distance)) (frames.map (Frame.moved distance)) =
      ((collected read stopped frames).1,
        (collected read stopped frames).2.mapError (Failure.moved distance)) := by
  induction frames with
  | nil => cases stopped <;> rfl
  | cons frame frames ih =>
    rw [List.map_cons, Scan.collected, Scan.collected, uniform, ih]
    rcases read frame with ⟨ignored, failure | value?⟩
    · rfl
    · dsimp only [Except.mapError]
      rcases Scan.collected read stopped frames with ⟨later, failure | values⟩ <;> rfl

theorem uniform_elements {framing : Framing η ε} {read : FrameReader η ε (Option α)} [read.Logs]
    (uniform : framing.Uniform) (reads : ∀ registry, UniformRead (read registry)) :
    (elements framing read).Uniform := by
  refine ⟨fun registry distance slice => ?_⟩
  rw [(records_elements framing read).apply, (records_elements framing read).apply, uniform.cutAll]
  dsimp only
  rw [(reads registry).collected, Slice.finish_moved]
  rcases collected (read registry) (framing.cutAll slice).2 (framing.cutAll slice).1 with
    ⟨later, failure | values⟩ <;> rfl

end Pcep.Scan
end RouteWire
