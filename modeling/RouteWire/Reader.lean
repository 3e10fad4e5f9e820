import RouteWire.Octets
/-!
Reading octets. A reader takes a slice of the parsed octets and either gives a value together with
the slice that is left, or fails at a place.

A slice knows where it starts in the whole input, so a failure tells the offset at which it arose and
how many octets its slice had from there on. Cutting a slice in two (`Slice.split?`) is how an
element confines its contents: what is read inside cannot see past the end of the element.

Main statements: `split?_append` and `octets_of_split?` describe the cut.
-/
namespace RouteWire

structure Slice where
  offset : Nat
  octets : List UInt8
  deriving DecidableEq, Repr

/-- Something that went wrong, where, and how many octets the slice had from there on. -/
structure Failure (ε : Type) where
  error : ε
  offset : Nat
  left : Nat
  deriving DecidableEq, Repr

namespace Slice

def whole (octets : List UInt8) : Slice := ⟨0, octets⟩

def finish (slice : Slice) : Slice := ⟨slice.offset + slice.octets.length, []⟩

def failure {ε : Type} (slice : Slice) (error : ε) : Failure ε :=
  ⟨error, slice.offset, slice.octets.length⟩

def split? (slice : Slice) (count : Nat) : Option (Slice × Slice) :=
  let head := slice.octets.take count
  if head.length = count then
    some (⟨slice.offset, head⟩, ⟨slice.offset + count, slice.octets.drop count⟩)
  else
    none

def skip (slice : Slice) (count : Nat) : Slice :=
  ⟨slice.offset + (slice.octets.take count).length, slice.octets.drop count⟩

theorem split?_append (offset : Nat) (head rest : List UInt8) :
    split? ⟨offset, head ++ rest⟩ head.length =
      some (⟨offset, head⟩, ⟨offset + head.length, rest⟩) := by
  simp [split?]

theorem octets_of_split? {slice head rest : Slice} {count : Nat}
    (cut : slice.split? count = some (head, rest)) :
    slice.octets = head.octets ++ rest.octets ∧ head.octets.length = count ∧
      head.offset = slice.offset ∧ rest.offset = slice.offset + count := by
  simp only [split?] at cut
  split at cut
  · next enough =>
    cases cut
    exact ⟨(List.take_append_drop ..).symm, enough, rfl, rfl⟩
  · cases cut

theorem split?_eq_none_iff {slice : Slice} {count : Nat} :
    slice.split? count = none ↔ slice.octets.length < count := by
  simp only [split?, List.length_take]
  split
  · next enough =>
    constructor
    · intro absent
      cases absent
    · omega
  · next short =>
    constructor
    · intro _
      omega
    · intro _
      rfl

end Slice

class EndOfInput (ε : Type) where
  endOfInput : ε

def Reader (ε α : Type) : Type := Slice → Except (Failure ε) (α × Slice)

namespace Reader
variable {ε ε' α β : Type}

instance : Monad (Reader ε) where
  pure value := fun slice => .ok (value, slice)
  bind reader next := fun slice =>
    match reader slice with
    | .error failure => .error failure
    | .ok (value, rest) => next value rest

def fail (error : ε) : Reader ε α := fun slice => .error (slice.failure error)

def require (condition : Bool) (error : ε) : Reader ε Unit :=
  if condition then pure () else fail error

def left : Reader ε Nat := fun slice => .ok (slice.octets.length, slice)

def exactly (length : Nat) (error : Nat → ε) : Reader ε Unit := do
  let actual ← left
  require (actual = length) (error actual)

def atLeast (length : Nat) (error : Nat → ε) : Reader ε Unit := do
  let actual ← left
  require (length ≤ actual) (error actual)

def multipleOf (unit : Nat) (error : Nat → ε) : Reader ε Unit := do
  let actual ← left
  require (actual % unit = 0) (error actual)

def mapError (wrap : ε → ε') (reader : Reader ε α) : Reader ε' α := fun slice =>
  match reader slice with
  | .error failure => .error ⟨wrap failure.error, failure.offset, failure.left⟩
  | .ok result => .ok result

/-- Reads a value and converts it. A value that has no conversion fails where it starts. -/
def convert (reader : Reader ε α) (conversion : α → Except ε β) : Reader ε β := fun slice =>
  match reader slice with
  | .error failure => .error failure
  | .ok (value, rest) =>
    match conversion value with
    | .ok converted => .ok (converted, rest)
    | .error error => .error (slice.failure error)

def peek (reader : Reader ε α) : Reader ε α := fun slice =>
  match reader slice with
  | .error failure => .error failure
  | .ok (value, _) => .ok (value, slice)

/-- What a reader makes of the contents of an element, whatever it leaves of them. -/
def inside (reader : Reader ε α) (contents : Slice) : Except (Failure ε) α :=
  match reader contents with
  | .error failure => .error failure
  | .ok (value, _) => .ok value

def remaining : Reader ε (List UInt8) := fun slice => .ok (slice.octets, slice.finish)

def run (reader : Reader ε α) (octets : List UInt8) : Except (Failure ε) (α × Slice) :=
  reader (.whole octets)

variable [EndOfInput ε]

def take (count : Nat) : Reader ε (List UInt8) := fun slice =>
  match slice.split? count with
  | some (head, rest) => .ok (head.octets, rest)
  | none => .error (slice.failure EndOfInput.endOfInput)

def number (width : Nat) : Reader ε Nat := do
  let octets ← take width
  pure (beValue octets)

def octet : Reader ε UInt8 := fun slice =>
  match slice.octets with
  | [] => .error (slice.failure EndOfInput.endOfInput)
  | first :: rest => .ok (first, ⟨slice.offset + 1, rest⟩)

def word16 : Reader ε UInt16 := do
  let value ← number 2
  pure (UInt16.ofNat value)

def word32 : Reader ε UInt32 := do
  let value ← number 4
  pure (UInt32.ofNat value)

def word64 : Reader ε UInt64 := do
  let value ← number 8
  pure (UInt64.ofNat value)

end Reader
end RouteWire
