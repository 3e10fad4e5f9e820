import RouteWire.Reader
/-!
Elements laid end to end. A framing cuts the first element off a slice: its header and the slice of
its contents. Cutting again and again splits a slice into frames, until nothing is left or what is
left does not start with an element.

Splitting looks at headers only, so it says what a sequence of elements *is* before any of the
contents is read. The contents are then read in order, and the first failure wins: one inside an
element comes before the failure of a header behind it.

Main statements: `cutAll_eq` unfolds one cut, and `pieces_flatten` says that cutting into pieces of
one width loses nothing but a last piece that is too short.
-/
namespace RouteWire

structure Frame (η : Type) where
  start : Slice
  header : η
  value : Slice

/-- A way to cut the first element off a slice; every cut leaves less. -/
structure Framing (η ε : Type) where
  cut : Reader ε (Frame η)
  shrinks : ∀ {slice rest : Slice} {frame : Frame η},
    cut slice = .ok (frame, rest) → rest.octets.length < slice.octets.length

namespace Framing
variable {η ε α : Type}

/-- The frames of a slice, and the failure at the first header that is none. -/
def cutAll (framing : Framing η ε) (slice : Slice) : List (Frame η) × Option (Failure ε) :=
  if slice.octets.isEmpty then
    ([], none)
  else
    match found : framing.cut slice with
    | .error failure => ([], some failure)
    | .ok (frame, rest) =>
      have := framing.shrinks found
      let (frames, stopped) := framing.cutAll rest
      (frame :: frames, stopped)
termination_by slice.octets.length

/-- Reads the contents of frames in order; `stopped` is the failure behind the last of them. -/
def collect (read : Frame η → Except (Failure ε) α) (stopped : Option (Failure ε)) :
    List (Frame η) → Except (Failure ε) (List α)
  | [] =>
    match stopped with
    | none => .ok []
    | some failure => .error failure
  | frame :: frames =>
    match read frame with
    | .error failure => .error failure
    | .ok value =>
      match collect read stopped frames with
      | .error failure => .error failure
      | .ok values => .ok (value :: values)

def readAll (framing : Framing η ε) (read : Frame η → Except (Failure ε) α) :
    Reader ε (List α) := fun slice =>
  let (frames, stopped) := framing.cutAll slice
  match collect read stopped frames with
  | .error failure => .error failure
  | .ok values => .ok (values, slice.finish)

def ofWidth [EndOfInput ε] (width : Nat) (positive : 0 < width) : Framing Unit ε where
  cut := fun slice =>
    match slice.split? width with
    | some (value, rest) => .ok (⟨slice, (), value⟩, rest)
    | none => .error (slice.failure EndOfInput.endOfInput)
  shrinks := by
    intro slice rest frame found
    split at found
    · next value rest' cut =>
      cases found
      obtain ⟨whole, length, _, _⟩ := Slice.octets_of_split? cut
      rw [whole, List.length_append]
      omega
    · cases found

theorem cutAll_eq (framing : Framing η ε) (slice : Slice) :
    framing.cutAll slice =
      if slice.octets.isEmpty then ([], none) else
        match framing.cut slice with
        | .error failure => ([], some failure)
        | .ok (frame, rest) => (frame :: (framing.cutAll rest).1, (framing.cutAll rest).2) := by
  rw [cutAll]
  split
  · rfl
  · split <;> simp_all

end Framing

def pieces (width : Nat) (octets : List UInt8) : List (List UInt8) :=
  if enough : 0 < width ∧ (octets.take width).length = width then
    have : (octets.drop width).length < octets.length := by
      rw [List.length_take] at enough
      rw [List.length_drop]
      omega
    octets.take width :: pieces width (octets.drop width)
  else
    []
termination_by octets.length

theorem pieces_flatten (width : Nat) (octets : List UInt8) :
    (pieces width octets).flatten ++ octets.drop ((pieces width octets).length * width) =
      octets := by
  fun_induction pieces width octets with
  | case1 octets enough _ ih =>
    rw [List.flatten_cons, List.length_cons, Nat.succ_mul, Nat.add_comm, ← List.drop_drop,
      List.append_assoc, ih, List.take_append_drop]
  | case2 octets short => simp

namespace Reader
variable {ε α : Type}

/-- As many values of one width as there are whole ones; what is left over is shorter. -/
def many (width : Nat) (value : List UInt8 → α) : Reader ε (List α) := fun slice =>
  let found := pieces width slice.octets
  .ok (found.map value, slice.skip (found.length * width))

end Reader
end RouteWire
