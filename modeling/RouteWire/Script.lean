/-!
Writing octets. A script lists the writes that put a value on the wire, one after another, and the
error that ends them early, if one does. It is data: the same script can be run into a sink without
limit or into one that has room for only so many octets.

Each write carries the error that reports it when the sink is full, so the layer that was writing
names itself. A full sink keeps what fits of the write that did not fit.

Main statements: `octets_append`, `failure_append`, and `runInto_octets`, by which a sink of limited
room receives exactly a first part of what an unlimited one does.
-/
namespace RouteWire

class SinkFull (ε : Type) where
  sinkFull : ε

def sinkFullMessage : String := "failed to write whole buffer"

/-- One write: its octets, and the error if the sink is full before they are all in it. -/
structure Write (ε : Type) where
  octets : List UInt8
  full : ε

/-- Writes in their order, and the error that follows them, if any. -/
structure Script (ε : Type) where
  writes : List (Write ε)
  failure : Option ε

namespace Script
variable {ε ε' : Type}

def done : Script ε := ⟨[], none⟩

def fail (error : ε) : Script ε := ⟨[], some error⟩

def emit [SinkFull ε] (octets : List UInt8) : Script ε := ⟨[⟨octets, SinkFull.sinkFull⟩], none⟩

def check (error : Option ε) : Script ε := ⟨[], error⟩

def append (first second : Script ε) : Script ε :=
  match first.failure with
  | some _ => first
  | none => ⟨first.writes ++ second.writes, second.failure⟩

instance : Append (Script ε) := ⟨append⟩

def concat (scripts : List (Script ε)) : Script ε := scripts.foldr (· ++ ·) done

def mapError (wrap : ε → ε') (script : Script ε) : Script ε' where
  writes := script.writes.map fun write => ⟨write.octets, wrap write.full⟩
  failure := script.failure.map wrap

def octets (script : Script ε) : List UInt8 := script.writes.flatMap Write.octets

/-- Runs writes into a sink with room for `room` octets: what reaches it, and the error. -/
def runWrites (failure : Option ε) : (room : Nat) → List (Write ε) → List UInt8 × Option ε
  | _, [] => ([], failure)
  | room, write :: writes =>
    let stored := write.octets.take (room + 1)
    if stored.length ≤ room then
      let (later, error) := runWrites failure (room - stored.length) writes
      (write.octets ++ later, error)
    else
      (write.octets.take room, some write.full)

def run (script : Script ε) : (room : Option Nat) → List UInt8 × Option ε
  | none => (script.octets, script.failure)
  | some room => runWrites script.failure room script.writes

def toExcept (script : Script ε) : Except ε (List UInt8) :=
  match script.failure with
  | none => .ok script.octets
  | some error => .error error

theorem append_def (first second : Script ε) : first ++ second = first.append second := rfl

theorem failure_append (first second : Script ε) :
    (first ++ second).failure = (first.failure <|> second.failure) := by
  rw [append_def, append]
  cases h : first.failure <;> simp [h]

theorem octets_append (first second : Script ε) :
    (first ++ second).octets =
      first.octets ++ if first.failure.isSome then [] else second.octets := by
  rw [append_def, append]
  cases h : first.failure <;> simp [octets]

@[simp] theorem octets_done : (done : Script ε).octets = [] := rfl

@[simp] theorem failure_done : (done : Script ε).failure = none := rfl

@[simp] theorem octets_fail (error : ε) : (fail error).octets = [] := rfl

@[simp] theorem failure_fail (error : ε) : (fail error).failure = some error := rfl

@[simp] theorem octets_emit [SinkFull ε] (octets : List UInt8) :
    (emit octets : Script ε).octets = octets := by
  simp [emit, Script.octets]

@[simp] theorem failure_emit [SinkFull ε] (octets : List UInt8) :
    (emit octets : Script ε).failure = none := rfl

@[simp] theorem octets_mapError (wrap : ε → ε') (script : Script ε) :
    (script.mapError wrap).octets = script.octets := by
  simp [mapError, octets, List.flatMap_map]

@[simp] theorem failure_mapError (wrap : ε → ε') (script : Script ε) :
    (script.mapError wrap).failure = script.failure.map wrap := rfl

theorem runWrites_fst (failure : Option ε) (writes : List (Write ε)) (room : Nat) :
    (runWrites failure room writes).1 = (writes.flatMap Write.octets).take room := by
  induction writes generalizing room with
  | nil => simp [runWrites]
  | cons write writes ih =>
    simp only [runWrites, List.flatMap_cons]
    split
    · next fits =>
      have whole : write.octets.take (room + 1) = write.octets :=
        List.take_of_length_le (by rw [List.length_take] at fits; omega)
      rw [whole] at fits ⊢
      rw [List.take_append, List.take_of_length_le fits, ih]
    · next full =>
      rw [List.length_take] at full
      rw [List.take_append_of_le_length (by omega)]

theorem runInto_octets (script : Script ε) (room : Nat) :
    (script.run (some room)).1 = script.octets.take room :=
  runWrites_fst script.failure script.writes room

end Script
end RouteWire
