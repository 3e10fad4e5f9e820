import RouteWire.Pcep.Message
import RouteWire.Proofs.Logging
/-!
All readers of the protocol log: those of TLVs, of sets of TLVs, of reported routes, of every kind of
object, and of messages.
-/
namespace RouteWire.Pcep
open SessionReader Session

/-! ## TLVs and subobjects -/

theorem Tlv.records_ofFrame :
    Tlv.ofFrame.Records fun registry frame =>
      match registry.tlv? frame.header with
      | none => (.of (.unknownTlv frame.header), .ok none)
      | some kind =>
        match (Tlv.readValue registry kind).inside frame.value with
        | .error failure => (∅, .error failure)
        | .ok tlv => (∅, .ok (some tlv)) := by
  intro frame session
  simp only [Tlv.ofFrame]
  cases session.registry.tlv? frame.header with
  | none => exact congrArg (Prod.mk _) (session.skip_eq_note _)
  | some kind =>
    dsimp only
    cases (Tlv.readValue session.registry kind).inside frame.value <;>
      exact congrArg (Prod.mk _) session.note_empty.symm

instance : Tlv.ofFrame.Logs := Tlv.records_ofFrame.logs

instance : Tlv.scan.Logs := inferInstanceAs (Scan.element Tlv.framing Tlv.ofFrame).Logs

instance : Tlv.scanAll.Logs := inferInstanceAs (Scan.elements Tlv.framing Tlv.ofFrame).Logs

theorem Subobject.records_rroOfFrame :
    Subobject.rroOfFrame.Records fun registry frame =>
      match registry.rro? frame.header with
      | none => (.of (.unknownRroSubobject frame.header), .ok none)
      | some kind =>
        match (Subobject.readRroValue kind).inside frame.value with
        | .error failure => (∅, .error failure)
        | .ok subobject => (∅, .ok (some subobject)) := by
  intro frame session
  simp only [Subobject.rroOfFrame]
  cases session.registry.rro? frame.header with
  | none => exact congrArg (Prod.mk _) (session.skip_eq_note _)
  | some kind =>
    dsimp only
    cases (Subobject.readRroValue kind).inside frame.value <;>
      exact congrArg (Prod.mk _) session.note_empty.symm

instance : Subobject.rroOfFrame.Logs := Subobject.records_rroOfFrame.logs

instance : Subobject.scanRro.Logs :=
  inferInstanceAs (Scan.elements Subobject.framing Subobject.rroOfFrame).Logs

/-! ## Sets of TLVs -/

namespace TlvSet
section
variable {τ : Type} (insert : τ → Tlv → Option Tlv × τ)

def offered (set : τ) (tlv : Tlv) : Ignored × τ :=
  ((insert set tlv).1.elim ∅ fun rejected => .of (.rejectedTlv rejected.code), (insert set tlv).2)

def filled (registry : Registry) (stopped : Option (Failure TlvReadError)) :
    τ → List (Frame UInt16) → Ignored × Except (Failure TlvReadError) τ
  | set, [] => (∅, stopped.elim (.ok set) .error)
  | set, frame :: frames =>
    match Tlv.ofFrame registry frame with
    | (ignored, .error failure) => (ignored, .error failure)
    | (ignored, .ok none) =>
      let (later, result) := filled registry stopped set frames
      (ignored ++ later, result)
    | (ignored, .ok (some tlv)) =>
      let (rejected, larger) := offered insert set tlv
      let (later, result) := filled registry stopped larger frames
      (ignored ++ (rejected ++ later), result)

theorem fill_eq (stopped : Option (Failure TlvReadError)) (set : τ) (frames : List (Frame UInt16))
    (session : Session) :
    fill insert stopped set frames session =
      ((filled insert session.registry stopped set frames).2,
        session.note (filled insert session.registry stopped set frames).1) := by
  induction frames generalizing set session with
  | nil => cases stopped <;> exact congrArg (Prod.mk _) session.note_empty.symm
  | cons frame frames ih =>
    rw [fill, filled, Tlv.ofFrame.run_eq]
    rcases Tlv.ofFrame session.registry frame with ⟨ignored, failure | _ | tlv⟩
    · rfl
    · dsimp only
      rw [ih, note_registry, note_note]
    · dsimp only [offered]
      rcases insert set tlv with ⟨_ | rejected, larger⟩
      · dsimp only [Option.elim]
        rw [ih, note_registry, note_note, Ignored.empty_append]
      · dsimp only [Option.elim]
        rw [ih, skip_eq_note, note_registry, note_registry, note_note, note_note]

theorem records_scanInto (start : τ) :
    (scanInto insert start).Records fun registry slice =>
      match filled insert registry (Tlv.framing.cutAll slice).2 start (Tlv.framing.cutAll slice).1 with
      | (ignored, .error failure) => (ignored, .error failure)
      | (ignored, .ok set) => (ignored, .ok (set, slice.finish)) := by
  intro slice session
  simp only [scanInto]
  rw [fill_eq]
  rcases filled insert session.registry (Tlv.framing.cutAll slice).2 start (Tlv.framing.cutAll slice).1
    with ⟨ignored, failure | set⟩ <;> rfl

instance (start : τ) : (scanInto insert start).Logs := (records_scanInto insert start).logs

end

instance {σ : Type} [TlvSet σ] : (scan : Scan TlvReadError σ).Logs := by
  unfold scan
  infer_instance

end TlvSet

/-! ## Objects and messages -/

namespace ObjectBody

instance (body : List RroSubobject → ObjectBody) : (scanRoute body).Logs := by
  unfold scanRoute
  infer_instance

instance {σ : Type} [TlvSet σ] (fixedPart : Reader ObjectReadError (σ → ObjectBody)) :
    (withTlvs fixedPart).Logs := by
  unfold withTlvs
  infer_instance

instance (kind : ObjectKind) : (scan kind).Logs := by
  cases kind <;> (unfold scan; infer_instance)

end ObjectBody

theorem ObjectValue.records_scan (kind : ObjectKind) :
    (ObjectValue.scan kind).Records fun registry slice =>
      let available := slice.octets.length
      if available < kind.leastLength then
        (∅, .error (slice.failure (.bodyTooShort kind.codes.objectClass kind.leastLength available)))
      else
        match refusal? kind slice.octets with
        | some (error, taken) =>
          (∅, .ok (.unknown ⟨kind.codes, error, slice.octets⟩, slice.skip taken))
        | none =>
          match ObjectBody.scan kind registry slice with
          | (ignored, .error failure) => (ignored, .error failure)
          | (ignored, .ok (body, rest)) => (ignored, .ok (.known body, rest)) := by
  intro slice session
  simp only [ObjectValue.scan]
  split
  · exact congrArg (Prod.mk _) session.note_empty.symm
  · rcases refusal? kind slice.octets with _ | ⟨error, taken⟩
    · dsimp only
      rw [(ObjectBody.scan kind).run_eq]
      rcases ObjectBody.scan kind session.registry slice with ⟨ignored, failure | ⟨body, rest⟩⟩ <;> rfl
    · exact congrArg (Prod.mk _) session.note_empty.symm

instance (kind : ObjectKind) : (ObjectValue.scan kind).Logs := (ObjectValue.records_scan kind).logs

theorem Object.records_ofFrame :
    Object.ofFrame.Records fun registry frame =>
      match registry.object? frame.header.codes with
      | some kind =>
        match ObjectValue.scan kind registry frame.value with
        | (ignored, .error failure) => (ignored, .error failure)
        | (ignored, .ok (value, _)) => (ignored, .ok (some ⟨frame.header.flags, value⟩))
      | none =>
        if frame.header.flags.processingRule then
          (∅, .ok (some ⟨frame.header.flags,
            .ofUnregistered registry frame.header.codes frame.value.octets⟩))
        else
          (.of (.object frame.header.codes), .ok none) := by
  intro frame session
  simp only [Object.ofFrame]
  cases session.registry.object? frame.header.codes with
  | some kind =>
    dsimp only
    rw [(ObjectValue.scan kind).run_eq]
    rcases ObjectValue.scan kind session.registry frame.value with ⟨ignored, failure | ⟨value, rest⟩⟩ <;>
      rfl
  | none =>
    dsimp only
    split
    · exact congrArg (Prod.mk _) session.note_empty.symm
    · exact congrArg (Prod.mk _) (session.skip_eq_note _)

instance : Object.ofFrame.Logs := Object.records_ofFrame.logs

instance : Object.scan.Logs := inferInstanceAs (Scan.element Object.framing Object.ofFrame).Logs

instance : Object.scanAll.Logs := inferInstanceAs (Scan.elements Object.framing Object.ofFrame).Logs

theorem Message.records_ofFrame :
    Message.ofFrame.Records fun registry frame =>
      match Object.scanAll.mapError MessageReadError.object registry frame.value with
      | (ignored, .error failure) => (ignored, .error failure)
      | (ignored, .ok (objects, _)) => (ignored, .ok ⟨frame.header, objects⟩) := by
  intro frame session
  simp only [Message.ofFrame]
  rw [(Object.scanAll.mapError MessageReadError.object).run_eq]
  rcases Object.scanAll.mapError MessageReadError.object session.registry frame.value with
    ⟨ignored, failure | ⟨objects, rest⟩⟩ <;> rfl

instance : Message.ofFrame.Logs := Message.records_ofFrame.logs

instance : Message.scan.Logs := inferInstanceAs (Scan.element Message.framing Message.ofFrame).Logs

end RouteWire.Pcep
