import RouteWire.Proofs.Pcep.Logging
import RouteWire.Proofs.Wire
/-!
What a session records. Whatever is read in a session, and however that ends, the answer is the one that
a new session gives, and the record grows at its end by what a new session records. Taking the record out
starts it anew. So the record that is taken out is made of what was recorded since it was last taken out,
one reading behind the other.

Main statements: `Session.step_read` for one step, `Session.after_readings` for a run, and
`record_only_grows`.
-/
namespace RouteWire.Pcep

/-! ## Readings -/

/-- What can be read in a session: messages and all that they are made of, what is read by a kind that is
registered, and TLVs for whatever takes them. -/
inductive Subject : Type 1 where
  | message
  | object
  | tlv
  | tlvs
  | tlvSet (σ : Type) [TlvSet σ]
  | tlvsInto {τ : Type} (insert : τ → Tlv → Option Tlv × τ) (start : τ)
  | explicitRoute
  | excludedRoute
  | reportedRoute
  | objectValue (kind : ObjectKind)
  | tlvValue (kind : TlvKind)
  | vendorSubTlvs
  | eroValue (kind : EroKind)
  | xroValue (kind : XroKind)
  | rroValue (kind : RroKind)

namespace Subject

def Error : Subject → Type
  | message => MessageReadError
  | object | objectValue _ => ObjectReadError
  | tlv | tlvs | tlvSet _ | tlvsInto _ _ | tlvValue _ | vendorSubTlvs => TlvReadError
  | explicitRoute | excludedRoute | reportedRoute | eroValue _ | xroValue _ | rroValue _ =>
    SubobjectReadError

def Value : Subject → Type
  | message => Message
  | object => Option Object
  | tlv => Option Tlv
  | tlvs => List Tlv
  | tlvSet σ => σ
  | @tlvsInto τ _ _ => τ
  | explicitRoute => List EroSubobject
  | excludedRoute => List XroSubobject
  | reportedRoute => List RroSubobject
  | objectValue _ => ObjectValue
  | tlvValue _ => Tlv
  | vendorSubTlvs => List VendorSubTlv
  | eroValue _ => EroValue
  | xroValue _ => XroValue
  | rroValue _ => RroSubobject

def scan : (subject : Subject) → Scan subject.Error subject.Value
  | message => Message.scan
  | object => Object.scan
  | tlv => Tlv.scan
  | tlvs => Tlv.scanAll
  | @tlvSet σ _ => (TlvSet.scan : Scan TlvReadError σ)
  | tlvsInto insert start => TlvSet.scanInto insert start
  | explicitRoute => .ofReader Subobject.readEro
  | excludedRoute => .ofReader Subobject.readXro
  | reportedRoute => Subobject.scanRro
  | objectValue kind => ObjectValue.scan kind
  | tlvValue kind => .ofReader fun registry => Tlv.readValue registry kind
  | vendorSubTlvs => .ofReader fun _ => Tlv.readVendorSubTlvs
  | eroValue kind => .ofReader fun _ => Subobject.readEroValue kind
  | xroValue kind => .ofReader fun _ => Subobject.readXroValue kind
  | rroValue kind => .ofReader fun _ => Subobject.readRroValue kind

instance : (subject : Subject) → subject.scan.Logs
  | message => inferInstanceAs Message.scan.Logs
  | object => inferInstanceAs Object.scan.Logs
  | tlv => inferInstanceAs Tlv.scan.Logs
  | tlvs => inferInstanceAs Tlv.scanAll.Logs
  | @tlvSet σ _ => inferInstanceAs (TlvSet.scan : Scan TlvReadError σ).Logs
  | tlvsInto insert start => inferInstanceAs (TlvSet.scanInto insert start).Logs
  | explicitRoute => inferInstanceAs (Scan.ofReader Subobject.readEro).Logs
  | excludedRoute => inferInstanceAs (Scan.ofReader Subobject.readXro).Logs
  | reportedRoute => inferInstanceAs Subobject.scanRro.Logs
  | objectValue kind => inferInstanceAs (ObjectValue.scan kind).Logs
  | tlvValue kind => inferInstanceAs (Scan.ofReader fun registry => Tlv.readValue registry kind).Logs
  | vendorSubTlvs => inferInstanceAs (Scan.ofReader fun _ => Tlv.readVendorSubTlvs).Logs
  | eroValue kind => inferInstanceAs (Scan.ofReader fun _ => Subobject.readEroValue kind).Logs
  | xroValue kind => inferInstanceAs (Scan.ofReader fun _ => Subobject.readXroValue kind).Logs
  | rroValue kind => inferInstanceAs (Scan.ofReader fun _ => Subobject.readRroValue kind).Logs

end Subject

structure Reading : Type 1 where
  subject : Subject
  input : Slice

/-- What is done with a session: something is read, or the record is taken out. -/
inductive Step : Type 1 where
  | read (reading : Reading)
  | takeIgnored

def Step.Answer : Step → Type
  | read reading => Except (Failure reading.subject.Error) (reading.subject.Value × Slice)
  | takeIgnored => Ignored

/-- Each list of a record is longer by another's, behind what it was. -/
structure Ignored.GrowsBy (before more after : Ignored) : Prop where
  unknownTlvs : after.unknownTlvs = before.unknownTlvs ++ more.unknownTlvs
  rejectedTlvs : after.rejectedTlvs = before.rejectedTlvs ++ more.rejectedTlvs
  unknownRroSubobjects :
    after.unknownRroSubobjects = before.unknownRroSubobjects ++ more.unknownRroSubobjects
  droppedObjects : after.droppedObjects = before.droppedObjects ++ more.droppedObjects

theorem Ignored.growsBy_append (before more : Ignored) : before.GrowsBy more (before ++ more) :=
  ⟨rfl, rfl, rfl, rfl⟩

namespace Session

def step (session : Session) : (step : Step) → step.Answer × Session
  | .read reading => reading.subject.scan.run reading.input session
  | .takeIgnored => session.takeIgnored

def after (session : Session) (steps : List Step) : Session :=
  steps.foldl (fun session step => (session.step step).2) session

def recordOf (registry : Registry) (reading : Reading) : Ignored :=
  ((start registry).step (.read reading)).2.ignored

theorem step_read (session : Session) (reading : Reading) :
    session.step (.read reading) =
      (((start session.registry).step (.read reading)).1,
        session.note (recordOf session.registry reading)) :=
  reading.subject.scan.run_eq reading.input session

theorem step_registry (session : Session) (step : Step) :
    (session.step step).2.registry = session.registry := by
  cases step with
  | read reading => rw [step_read, note_registry]
  | takeIgnored => rfl

theorem after_append (session : Session) (earlier later : List Step) :
    session.after (earlier ++ later) = (session.after earlier).after later :=
  List.foldl_append

theorem after_registry (session : Session) (steps : List Step) :
    (session.after steps).registry = session.registry := by
  induction steps generalizing session with
  | nil => rfl
  | cons step steps ih => exact (ih _).trans (session.step_registry step)

theorem after_readings (session : Session) (readings : List Reading) :
    session.after (readings.map Step.read) =
      session.note (.concat (readings.map (recordOf session.registry))) := by
  induction readings generalizing session with
  | nil => exact session.note_empty.symm
  | cons reading readings ih =>
    have first : session.after ((reading :: readings).map Step.read) =
        (session.step (.read reading)).2.after (readings.map Step.read) := rfl
    rw [first, ih, step_read, note_registry, note_note]
    rfl

theorem after_takeIgnored (session : Session) (steps : List Step) :
    session.after (.takeIgnored :: steps) = (start session.registry).after steps := rfl

end Session

open Session

/-- Whatever was done with a session, a reading is answered as in a new session, and each list of the
record grows at its end by what a new session records, also when the reading fails. Whenever the record
is taken out, it is what was recorded since it was last taken out, or since the session began, and the
session is as new. -/
theorem record_only_grows (session : Session) (earlier : List Step) :
    (∀ reading,
      ((session.after earlier).step (.read reading)).1 =
        ((start session.registry).step (.read reading)).1 ∧
      (session.after earlier).ignored.GrowsBy
        ((start session.registry).step (.read reading)).2.ignored
        ((session.after earlier).step (.read reading)).2.ignored) ∧
    (∀ readings : List Reading,
      (session.after (earlier ++ .takeIgnored :: readings.map Step.read)).step .takeIgnored =
        (.concat (readings.map fun reading => ((start session.registry).step (.read reading)).2.ignored),
          start session.registry)) ∧
    ∀ readings : List Reading,
      (session.after (readings.map Step.read)).step .takeIgnored =
        (session.ignored ++
          .concat (readings.map fun reading => ((start session.registry).step (.read reading)).2.ignored),
          start session.registry) := by
  have registry := session.after_registry earlier
  refine ⟨fun reading => ?_, fun readings => ?_, fun readings => ?_⟩
  · rw [step_read, registry]
    exact ⟨rfl, Ignored.growsBy_append ..⟩
  · rw [after_append, after_takeIgnored, registry, after_readings, start_note]
    rfl
  · rw [after_readings]
    rfl

/-- A TLV of unknown code is recorded although what stands behind it cannot be read, and a route that is
read next adds to the record. -/
example :
    let session := (Session.start .full).after
      [.read ⟨.tlvs, .whole [39, 15, 0, 2, 7, 8, 0, 0, 0, 6]⟩,
        .read ⟨.reportedRoute, .whole [99, 4, 0, 0]⟩]
    session.ignored = { unknownTlvs := #[9999], unknownRroSubobjects := #[99] } := by
  decide +kernel

end RouteWire.Pcep
