import RouteWire.Pcep.Scan
/-!
Readers that log. A reader of sessions can look at the record of its session and change it, and so change
what is read behind it. A reader that logs does not: it makes of its input what it makes of it in a new
session, and the session that it leaves has, behind what was on record, what a new session has on record
then. Readers hand the session from part to part, so this is shown for each way to put readers together,
and for lists by induction over the frames.

Main statements: the instances of `SessionReader.Logs`, and `Session.read_ok`.
-/
namespace RouteWire.Pcep
variable {ι ε ε' η α β : Type} {registry : Registry}

namespace Session

def note (session : Session) (passed : Ignored) : Session :=
  { session with ignored := session.ignored ++ passed }

@[simp] theorem note_registry (session : Session) (passed : Ignored) :
    (session.note passed).registry = session.registry := rfl

theorem note_empty (session : Session) : session.note ∅ = session := by
  rw [note, Ignored.append_empty]

theorem note_note (session : Session) (first second : Ignored) :
    (session.note first).note second = session.note (first ++ second) := by
  rw [note, note, note, Ignored.append_assoc]

theorem start_note (registry : Registry) (passed : Ignored) :
    (start registry).note passed = ⟨registry, passed⟩ := by
  rw [note, start, Ignored.empty_append]

theorem skip_eq_note (session : Session) (skipped : Skipped) :
    session.skip skipped = session.note (.of skipped) := by
  rw [skip, note, Ignored.push_eq_append]

end Session

namespace SessionReader

/-- In whatever session the reader runs, it makes of an input what is said of the input and the registry,
and puts on record, behind what is there, what is said too. -/
def Records (reader : SessionReader ι ε α)
    (said : Registry → ι → Ignored × Except (Failure ε) α) : Prop :=
  ∀ input session, reader.run input session =
    ((said session.registry input).2, session.note (said session.registry input).1)

/-- What is on record in a session acts on nothing that the reader does in it. -/
class Logs (reader : SessionReader ι ε α) : Prop where
  records : reader.Records reader.alone

/-- A reader that looks whether something is on record does not log. -/
example : ¬@Logs Unit Unit Bool ⟨fun _ session => (.ok session.ignored.isEmpty, session)⟩ := by
  intro ⟨records⟩
  cases congrArg Prod.fst (records () ⟨.empty, { unknownTlvs := #[9999] }⟩)

variable {reader : SessionReader ι ε α} {said : Registry → ι → Ignored × Except (Failure ε) α}

theorem run_eq (reader : SessionReader ι ε α) [logs : reader.Logs] (input : ι) (session : Session) :
    reader.run input session =
      ((reader session.registry input).2, session.note (reader session.registry input).1) :=
  logs.records input session

theorem Records.apply (records : reader.Records said) (registry : Registry) (input : ι) :
    reader registry input = said registry input := by
  rw [alone, records input (.start registry), Session.start_note]
  rfl

theorem Records.logs (records : reader.Records said) : reader.Logs := by
  refine ⟨fun input session => ?_⟩
  rw [records.apply]
  exact records input session

end SessionReader

open SessionReader Session

/-! ## Scans -/

namespace Scan

theorem records_pure (value : α) :
    Records (pure value : Scan ε α) fun _ slice => (∅, .ok (value, slice)) :=
  fun _ session => congrArg (Prod.mk _) session.note_empty.symm

instance (value : α) : (pure value : Scan ε α).Logs := (records_pure value).logs

theorem records_ofReader (reader : Registry → Reader ε α) :
    Records (ofReader reader) fun registry slice => (∅, reader registry slice) :=
  fun _ session => congrArg (Prod.mk _) session.note_empty.symm

instance (reader : Registry → Reader ε α) : (ofReader reader).Logs := (records_ofReader reader).logs

theorem records_bind (scan : Scan ε α) [scan.Logs] (next : α → Scan ε β) [∀ value, (next value).Logs] :
    (scan >>= next).Records fun registry slice =>
      match scan registry slice with
      | (ignored, .error failure) => (ignored, .error failure)
      | (ignored, .ok (value, rest)) =>
        (ignored ++ (next value registry rest).1, (next value registry rest).2) := by
  intro slice session
  simp only [bind]
  rw [scan.run_eq]
  rcases scan session.registry slice with ⟨ignored, failure | ⟨value, rest⟩⟩
  · rfl
  · dsimp only
    rw [(next value).run_eq, note_note]
    rfl

instance (scan : Scan ε α) [scan.Logs] (next : α → Scan ε β) [∀ value, (next value).Logs] :
    (scan >>= next).Logs := (records_bind scan next).logs

theorem records_mapError (wrap : ε → ε') (scan : Scan ε α) [scan.Logs] :
    (scan.mapError wrap).Records fun registry slice =>
      match scan registry slice with
      | (ignored, .error failure) => (ignored, .error ⟨wrap failure.error, failure.offset, failure.left⟩)
      | (ignored, .ok result) => (ignored, .ok result) := by
  intro slice session
  simp only [mapError]
  rw [scan.run_eq]
  rcases scan session.registry slice with ⟨ignored, failure | result⟩ <;> rfl

instance (wrap : ε → ε') (scan : Scan ε α) [scan.Logs] : (scan.mapError wrap).Logs :=
  (records_mapError wrap scan).logs

theorem records_element (framing : Framing η ε) (read : FrameReader η ε α) [read.Logs] :
    (element framing read).Records fun registry slice =>
      match framing.cut slice with
      | .error failure => (∅, .error failure)
      | .ok (frame, rest) =>
        match read registry frame with
        | (ignored, .error failure) => (ignored, .error failure)
        | (ignored, .ok value) => (ignored, .ok (value, rest)) := by
  intro slice session
  simp only [element]
  rcases framing.cut slice with failure | ⟨frame, rest⟩
  · exact congrArg (Prod.mk _) session.note_empty.symm
  · dsimp only
    rw [read.run_eq]
    rcases read session.registry frame with ⟨ignored, failure | value⟩ <;> rfl

instance (framing : Framing η ε) (read : FrameReader η ε α) [read.Logs] : (element framing read).Logs :=
  (records_element framing read).logs

def collected (read : Frame η → Ignored × Except (Failure ε) (Option α))
    (stopped : Option (Failure ε)) : List (Frame η) → Ignored × Except (Failure ε) (List α)
  | [] => (∅, stopped.elim (.ok []) .error)
  | frame :: frames =>
    match read frame with
    | (ignored, .error failure) => (ignored, .error failure)
    | (ignored, .ok value?) =>
      match collected read stopped frames with
      | (later, .error failure) => (ignored ++ later, .error failure)
      | (later, .ok values) => (ignored ++ later, .ok (value?.toList ++ values))

theorem collect_eq (read : FrameReader η ε (Option α)) [read.Logs] (stopped : Option (Failure ε))
    (frames : List (Frame η)) (session : Session) :
    collect read stopped frames session =
      ((collected (read session.registry) stopped frames).2,
        session.note (collected (read session.registry) stopped frames).1) := by
  induction frames generalizing session with
  | nil => cases stopped <;> exact congrArg (Prod.mk _) session.note_empty.symm
  | cons frame frames ih =>
    rw [collect, collected, read.run_eq]
    rcases read session.registry frame with ⟨ignored, failure | value?⟩
    · rfl
    · dsimp only
      rw [ih, note_registry, note_note]
      rcases collected (read session.registry) stopped frames with ⟨later, failure | values⟩ <;> rfl

theorem records_elements (framing : Framing η ε) (read : FrameReader η ε (Option α)) [read.Logs] :
    (elements framing read).Records fun registry slice =>
      match collected (read registry) (framing.cutAll slice).2 (framing.cutAll slice).1 with
      | (ignored, .error failure) => (ignored, .error failure)
      | (ignored, .ok values) => (ignored, .ok (values, slice.finish)) := by
  intro slice session
  simp only [elements]
  rw [collect_eq]
  rcases collected (read session.registry) (framing.cutAll slice).2 (framing.cutAll slice).1 with
    ⟨ignored, failure | values⟩ <;> rfl

instance (framing : Framing η ε) (read : FrameReader η ε (Option α)) [read.Logs] :
    (elements framing read).Logs := (records_elements framing read).logs

end Scan

/-! ## Reading in a session -/

namespace Session
variable {session later : Session} {scan : Scan ε α} {octets : List UInt8}

theorem read_eq (session : Session) (scan : Scan ε α) [scan.Logs] (octets : List UInt8) :
    session.read scan octets =
      ((scan session.registry (.whole octets)).2,
        session.note (scan session.registry (.whole octets)).1) :=
  scan.run_eq (.whole octets) session

theorem read_result (session : Session) (scan : Scan ε α) [scan.Logs] (octets : List UInt8) :
    (session.read scan octets).1 = (scan session.registry (.whole octets)).2 := by
  rw [read_eq]

theorem read_of_scan [scan.Logs] {answer : Except (Failure ε) (α × Slice)}
    (found : scan session.registry (.whole octets) = (∅, answer)) :
    session.read scan octets = (answer, session) := by
  rw [read_eq, found, note_empty]

theorem read_ok [scan.Logs] {value : α} {rest : Slice} :
    session.read scan octets = (.ok (value, rest), later) ↔
      ∃ ignored, scan session.registry (.whole octets) = (ignored, .ok (value, rest)) ∧
        later = { session with ignored := session.ignored ++ ignored } := by
  rw [read_eq]
  rcases scan session.registry (.whole octets) with ⟨ignored, answer⟩
  constructor
  · rintro ⟨⟩
    exact ⟨ignored, rfl, rfl⟩
  · rintro ⟨_, ⟨⟩, rfl⟩
    rfl

end Session
end RouteWire.Pcep
