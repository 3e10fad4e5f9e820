import RouteWire.Bgp.Encode
import RouteWire.Pcep.Message
import RouteWire.Proofs.Writing
/-!
Sinks of limited room. Such a sink takes the octets of a script in their order for as long as it has
room, and the first write that it cannot take as a whole ends the script with an error that says so.
The error may come from any layer, in which case the layers around it have wrapped it.

Main statements: `Script.fills`, which holds of every script whose writes tell a full sink from other
errors, and `limited_sink_keeps_front`.
-/
namespace RouteWire

/-- The errors of a layer of writing that say that the sink is full: one of its own, and those that wrap
such an error of a layer inside. -/
class SinkErrors (ε : Type) [SinkFull ε] where
  SaysFull : ε → Prop
  sinkFull : SaysFull SinkFull.sinkFull

export SinkErrors (SaysFull)

namespace Script
variable {ε ε' : Type}

theorem runWrites_of_fits {failure : Option ε} {writes : List (Write ε)} {room : Nat}
    (fits : (writes.flatMap Write.octets).length ≤ room) :
    (runWrites failure room writes).2 = failure := by
  induction writes generalizing room with
  | nil => rfl
  | cons write writes ih =>
    rw [List.flatMap_cons, List.length_append] at fits
    have whole : write.octets.take (room + 1) = write.octets := List.take_of_length_le (by omega)
    rw [runWrites, whole, if_pos (by omega)]
    exact ih (by omega)

theorem runWrites_of_full {failure : Option ε} {writes : List (Write ε)} {room : Nat}
    (full : room < (writes.flatMap Write.octets).length) :
    ∃ write ∈ writes, (runWrites failure room writes).2 = some write.full := by
  induction writes generalizing room with
  | nil => exact absurd full (Nat.not_lt_zero room)
  | cons write writes ih =>
    rw [List.flatMap_cons, List.length_append] at full
    by_cases fits : write.octets.length ≤ room
    · -- This write is taken, so it is one of the others that is not.
      have whole : write.octets.take (room + 1) = write.octets := List.take_of_length_le (by omega)
      have later : room - write.octets.length < (writes.flatMap Write.octets).length := by omega
      obtain ⟨other, member, answer⟩ := ih later
      refine ⟨other, List.mem_cons_of_mem _ member, ?_⟩
      rw [runWrites, whole, if_pos fits]
      exact answer
    · refine ⟨write, List.mem_cons_self, ?_⟩
      rw [runWrites, if_neg (by rw [List.length_take]; omega)]

section TellsFull
variable [SinkFull ε] [SinkErrors ε] [SinkFull ε'] [SinkErrors ε'] {script : Script ε}

/-- What a sink with room for so many octets receives, and how the script ends there, compared with a
sink without limit. -/
structure Fills (script : Script ε) (room : Nat) : Prop where
  front : (script.run (some room)).1 = (script.run none).1.take room
  same : (script.run none).1.length ≤ room → (script.run (some room)).2 = (script.run none).2
  full : room < (script.run none).1.length →
    ∃ error, (script.run (some room)).2 = some error ∧ SaysFull error

class TellsFull (script : Script ε) : Prop where
  full : ∀ write ∈ script.writes, SaysFull write.full

theorem fills (script : Script ε) [tells : script.TellsFull] (room : Nat) : script.Fills room where
  front := runInto_octets script room
  same := runWrites_of_fits
  full long := by
    obtain ⟨write, member, answer⟩ := runWrites_of_full long
    exact ⟨write.full, answer, tells.full write member⟩

instance : (done : Script ε).TellsFull := ⟨List.forall_mem_nil _⟩

instance (error : ε) : (fail error).TellsFull := ⟨List.forall_mem_nil _⟩

instance (error : Option ε) : (check error).TellsFull := ⟨List.forall_mem_nil _⟩

instance (octets : List UInt8) : (emit octets : Script ε).TellsFull :=
  ⟨List.forall_mem_singleton.mpr SinkErrors.sinkFull⟩

instance {second : Script ε} [first : script.TellsFull] [later : second.TellsFull] :
    (script ++ second).TellsFull := by
  rw [append_def, append]
  cases script.failure with
  | some error => exact first
  | none => exact ⟨List.forall_mem_append.mpr ⟨first.full, later.full⟩⟩

instance {condition : Prop} [Decidable condition] {other : Script ε} [first : script.TellsFull]
    [second : other.TellsFull] : (if condition then script else other).TellsFull := by
  split
  · exact first
  · exact second

instance {α : Type} {write : α → Script ε} [each : ∀ element, (write element).TellsFull]
    (elements : List α) : (concat (elements.map write)).TellsFull := by
  induction elements with
  | nil => exact inferInstanceAs (done : Script ε).TellsFull
  | cons element elements ih =>
    rw [List.map_cons, concat_cons]
    infer_instance

theorem tellsFull_mapError {wrap : ε → ε'} [tells : script.TellsFull]
    (carried : ∀ {error}, SaysFull error → SaysFull (wrap error)) :
    (script.mapError wrap).TellsFull := by
  refine ⟨fun write member => ?_⟩
  obtain ⟨inner, inside, rfl⟩ := List.mem_map.mp member
  exact carried (tells.full inner inside)

end TellsFull
end Script

namespace Pcep
open Script
variable {registry : Registry}

/-! ## TLVs -/

instance : SinkErrors TlvWriteError := ⟨(· = .sinkFull), rfl⟩

instance (information : VendorInformation) : information.script.TellsFull := by
  unfold VendorInformation.script
  split <;> infer_instance

instance (tlv : Tlv) : tlv.valueScript.TellsFull := by
  cases tlv <;> (unfold Tlv.valueScript; infer_instance)

instance (tlv : Tlv) : (tlv.script registry).TellsFull := by
  unfold Tlv.script
  infer_instance

instance (tlvs : List Tlv) : (Tlv.scriptAll registry tlvs).TellsFull := by
  unfold Tlv.scriptAll
  infer_instance

instance {σ : Type} [TlvSet σ] (set : σ) : (TlvSet.script registry set).TellsFull := by
  unfold TlvSet.script
  infer_instance

/-! ## Subobjects -/

instance : SinkErrors SubobjectWriteError := ⟨(· = .sinkFull), rfl⟩

instance (segment : Segment) : segment.script.TellsFull := by
  unfold Segment.script
  infer_instance

instance (segment : Srv6Segment) : segment.script.TellsFull := by
  unfold Srv6Segment.script
  infer_instance

instance (value : EroValue) : value.script.TellsFull := by
  cases value <;> (unfold EroValue.script; infer_instance)

instance (subobject : EroSubobject) : (subobject.script registry).TellsFull := by
  unfold EroSubobject.script
  infer_instance

instance (subobject : XroSubobject) : (subobject.script registry).TellsFull := by
  unfold XroSubobject.script
  infer_instance

instance (subobject : RroSubobject) : subobject.valueScript.TellsFull := by
  cases subobject <;> (unfold RroSubobject.valueScript; infer_instance)

instance (subobject : RroSubobject) : (subobject.script registry).TellsFull := by
  unfold RroSubobject.script
  infer_instance

namespace Subobject

instance {α : Type} {script : α → Script SubobjectWriteError} [∀ subobject, (script subobject).TellsFull]
    (route : List α) : (routeScript script route).TellsFull := by
  unfold routeScript
  infer_instance

instance (route : List EroSubobject) : (eroScript registry route).TellsFull := by
  unfold eroScript
  infer_instance

instance (route : List XroSubobject) : (xroScript registry route).TellsFull := by
  unfold xroScript
  infer_instance

instance (route : List RroSubobject) : (rroScript registry route).TellsFull := by
  unfold rroScript
  infer_instance

end Subobject

/-! ## Objects and messages -/

instance : SinkErrors ObjectWriteError where
  SaysFull
    | .sinkFull => True
    | .tlv error => SaysFull error
    | .subobject error => SaysFull error
    | _ => False
  sinkFull := trivial

instance {script : Script TlvWriteError} [script.TellsFull] :
    (script.mapError ObjectWriteError.tlv).TellsFull :=
  tellsFull_mapError id

instance {script : Script SubobjectWriteError} [script.TellsFull] :
    (script.mapError ObjectWriteError.subobject).TellsFull :=
  tellsFull_mapError id

instance (tail : ObjectBody.Tail) : (tail.script registry).TellsFull := by
  cases tail <;> (unfold ObjectBody.Tail.script; infer_instance)

instance (value : ObjectValue) : (value.script registry).TellsFull := by
  cases value <;> (unfold ObjectValue.script; infer_instance)

instance (object : Object) : (object.script registry).TellsFull := by
  unfold Object.script
  infer_instance

instance : SinkErrors MessageWriteError where
  SaysFull
    | .sinkFull => True
    | .object error => SaysFull error
    | .lengthOverflow _ => False
  sinkFull := trivial

instance {script : Script ObjectWriteError} [script.TellsFull] :
    (script.mapError MessageWriteError.object).TellsFull :=
  tellsFull_mapError id

instance (message : Message) : (message.script registry).TellsFull := by
  unfold Message.script
  infer_instance

end Pcep

/-! ## Capabilities -/

namespace Bgp
open Script
variable {registry : FamilyRegistry}

instance : SinkErrors CapabilityWriteError := ⟨(· = .sinkFull), rfl⟩

namespace Capability

instance (type : AddressType) (octets : FamilyCodes → List UInt8) :
    (withCodes registry type octets).TellsFull := by
  unfold withCodes
  split <;> infer_instance

instance (type : AddressType) (flags : List Bool) : (familyEntry registry type flags).TellsFull := by
  unfold familyEntry
  infer_instance

instance (capability : Capability) : (capability.valueScript registry).TellsFull := by
  cases capability <;> (unfold valueScript; infer_instance)

instance (capability : Capability) : (capability.script registry).TellsFull := by
  unfold script
  infer_instance

end Capability
end Bgp

/-! ## The statement -/

open Pcep Bgp

/-- A sink with room for so many octets receives as many of the octets of whatever is written, from the
first on. If they all fit, then the answer is that of a sink without limit, and otherwise it is that the
sink is full. -/
theorem limited_sink_keeps_front (registry : Registry) (families : FamilyRegistry) (room : Nat) :
    (∀ message : Message, (message.script registry).Fills room) ∧
    (∀ object : Object, (object.script registry).Fills room) ∧
    (∀ tlv : Tlv, (tlv.script registry).Fills room) ∧
    (∀ (σ : Type) [TlvSet σ] (set : σ), (TlvSet.script registry set).Fills room) ∧
    (∀ subobject : EroSubobject, (subobject.script registry).Fills room) ∧
    (∀ subobject : XroSubobject, (subobject.script registry).Fills room) ∧
    (∀ subobject : RroSubobject, (subobject.script registry).Fills room) ∧
    (∀ route : List EroSubobject, (Subobject.eroScript registry route).Fills room) ∧
    (∀ route : List XroSubobject, (Subobject.xroScript registry route).Fills room) ∧
    (∀ route : List RroSubobject, (Subobject.rroScript registry route).Fills room) ∧
    (∀ capability : Capability, (capability.script families).Fills room) :=
  ⟨fun _ => Script.fills _ room, fun _ => Script.fills _ room, fun _ => Script.fills _ room,
    fun _ _ _ => Script.fills _ room, fun _ => Script.fills _ room, fun _ => Script.fills _ room,
    fun _ => Script.fills _ room, fun _ => Script.fills _ room, fun _ => Script.fills _ room,
    fun _ => Script.fills _ room, fun _ => Script.fills _ room⟩

/-- A message whose last octets are those of a TLV, and a sink that is full within them. -/
example :
    (Message.script .full ⟨.close, [⟨⟨true, false⟩, .known (.close
      ⟨3, ⟨[⟨9, .unstructured [1, 2, 3, 4]⟩]⟩⟩)⟩]⟩).run (some 18) =
      ([32, 7, 0, 24, 15, 18, 0, 20, 0, 0, 0, 3, 0, 7, 0, 8, 0, 0],
        some (.object (.tlv .sinkFull))) := by
  decide +kernel

end RouteWire
