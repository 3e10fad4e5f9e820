import RouteWire.Pcep.ObjectKind
/-!
What reading passed over: TLVs and subobjects of unknown kinds, TLVs that the object at hand does not
carry, and unknown objects that may be dropped.

Main statements: `Ignored.push_eq_append`, `Ignored.append_assoc`.
-/
namespace RouteWire.Pcep

inductive Skipped where
  | unknownTlv (code : UInt16)
  | rejectedTlv (code : UInt16)
  | unknownRroSubobject (code : UInt8)
  | object (codes : ObjectCodes)

structure Ignored where
  unknownTlvs : Array UInt16 := #[]
  rejectedTlvs : Array UInt16 := #[]
  unknownRroSubobjects : Array UInt8 := #[]
  droppedObjects : Array ObjectCodes := #[]
  deriving DecidableEq, Repr

namespace Ignored

def empty : Ignored := {}

instance : EmptyCollection Ignored := ⟨empty⟩

def push (ignored : Ignored) : Skipped → Ignored
  | .unknownTlv code => { ignored with unknownTlvs := ignored.unknownTlvs.push code }
  | .rejectedTlv code => { ignored with rejectedTlvs := ignored.rejectedTlvs.push code }
  | .unknownRroSubobject code =>
    { ignored with unknownRroSubobjects := ignored.unknownRroSubobjects.push code }
  | .object codes => { ignored with droppedObjects := ignored.droppedObjects.push codes }

def of (skipped : Skipped) : Ignored := empty.push skipped

def append (first second : Ignored) : Ignored where
  unknownTlvs := first.unknownTlvs ++ second.unknownTlvs
  rejectedTlvs := first.rejectedTlvs ++ second.rejectedTlvs
  unknownRroSubobjects := first.unknownRroSubobjects ++ second.unknownRroSubobjects
  droppedObjects := first.droppedObjects ++ second.droppedObjects

instance : Append Ignored := ⟨append⟩

def isEmpty (ignored : Ignored) : Bool :=
  ignored.unknownTlvs.isEmpty && ignored.rejectedTlvs.isEmpty &&
    ignored.unknownRroSubobjects.isEmpty && ignored.droppedObjects.isEmpty

theorem append_def (first second : Ignored) : first ++ second = first.append second := rfl

@[simp] theorem empty_append (ignored : Ignored) : (∅ : Ignored) ++ ignored = ignored := by
  simp [append_def, append, EmptyCollection.emptyCollection, empty]

@[simp] theorem append_empty (ignored : Ignored) : ignored ++ (∅ : Ignored) = ignored := by
  simp [append_def, append, EmptyCollection.emptyCollection, empty]

theorem append_assoc (a b c : Ignored) : a ++ b ++ c = a ++ (b ++ c) := by
  simp [append_def, append, Array.append_assoc]

theorem push_eq_append (ignored : Ignored) (skipped : Skipped) :
    ignored.push skipped = ignored ++ of skipped := by
  cases skipped <;> simp [push, of, empty, append_def, append]

theorem append_eq_empty_iff {first second : Ignored} :
    first ++ second = ∅ ↔ first = ∅ ∧ second = ∅ := by
  obtain ⟨a, b, c, d⟩ := first
  obtain ⟨a', b', c', d'⟩ := second
  simp only [append_def, append, EmptyCollection.emptyCollection, empty, mk.injEq,
    Array.append_eq_empty_iff]
  exact ⟨fun ⟨⟨a, a'⟩, ⟨b, b'⟩, ⟨c, c'⟩, d, d'⟩ => ⟨⟨a, b, c, d⟩, a', b', c', d'⟩,
    fun ⟨⟨a, b, c, d⟩, a', b', c', d'⟩ => ⟨⟨a, a'⟩, ⟨b, b'⟩, ⟨c, c'⟩, d, d'⟩⟩

end Ignored

end RouteWire.Pcep
