import RouteWire.Proofs.Pcep.Message
/-!
Streams, whatever the pieces in which octets arrive. The reference cuts all octets into frames by the
lengths that they declare, and reads each frame alone; a stream that is fed the same octets in any
pieces, with calls to read and to write in between, hands out the same messages and records.

Main statements: `outcome_append`, by which a frame is read whatever comes behind it, `Refines.step` for
one event and `run_refines` for all of them.
-/
namespace RouteWire.Pcep
open Framing

namespace MessageReadError

/-- The error without the number of octets that were there, which depends on what has arrived. -/
def settled : MessageReadError → MessageReadError
  | invalidLength mismatch => .invalidLength { mismatch with available := 0 }
  | error => error

end MessageReadError

namespace Message
variable {registry : Registry} {octets frame others : List UInt8}

def outcome (registry : Registry) (octets : List UInt8) :
    Except MessageReadError (Message × Ignored) :=
  match scan registry (.whole octets) with
  | (_, .error failure) => .error failure.error
  | (ignored, .ok (message, _)) => .ok (message, ignored)

def contents (registry : Registry) (type : MessageType) (octets : List UInt8) :
    Except MessageReadError (Message × Ignored) :=
  match Object.scanAll registry ⟨4, octets⟩ with
  | (_, .error failure) => .error (.object failure.error)
  | (ignored, .ok (objects, _)) => .ok (⟨type, objects⟩, ignored)

theorem outcome_cons (first second high low : UInt8) (others : List UInt8) :
    outcome registry (first :: second :: high :: low :: others) = (do
      checkVersion first
      let type ← typeOfCode second
      if beValue [high, low] < 4 ∨ others.length < beValue [high, low] - 4 then
        .error (.invalidLength ⟨beValue [high, low], others.length + 4⟩)
      else
        contents registry type (others.take (beValue [high, low] - 4))) := by
  have length : (Reader.number 2 ⟨0 + 1 + 1, high :: low :: others⟩ :
      Except (Failure MessageReadError) _) = .ok (beValue [high, low], ⟨4, others⟩) :=
    Reader.number_octets (rfl : [high, low].length = 2)
  rw [outcome, scan, (Scan.records_element framing ofFrame).apply]
  simp only [framing, readHeader, Slice.whole, Reader.bind_apply,
    Reader.convert, Reader.octet_cons]
  cases checkVersion first with
  | error error => rfl
  | ok _ =>
    simp only [Reader.octet_cons]
    cases typeOfCode second with
    | error error => rfl
    | ok type =>
      simp only [length, Reader.pure_apply]
      by_cases short : beValue [high, low] < 4
      · simp only [short, if_true, true_or]
        rfl
      · by_cases missing : others.length < beValue [high, low] - 4
        · have cut : Slice.split? ⟨4, others⟩ (beValue [high, low] - 4) = none :=
            Slice.split?_eq_none_iff.mpr missing
          simp only [short, missing, cut, if_false, if_true, or_true]
          rfl
        · have cut : Slice.split? ⟨4, others⟩ (beValue [high, low] - 4) =
              some (⟨4, others.take (beValue [high, low] - 4)⟩,
                ⟨4 + (beValue [high, low] - 4), others.drop (beValue [high, low] - 4)⟩) :=
            Slice.split?_eq_some_iff.mpr ⟨(List.take_append_drop ..).symm,
              List.length_take_of_le (Nat.le_of_not_lt missing), rfl, rfl⟩
          simp only [short, missing, cut, if_false, or_self, records_ofFrame.apply,
            (Scan.records_mapError MessageReadError.object Object.scanAll).apply, contents]
          rcases Object.scanAll registry ⟨4, others.take (beValue [high, low] - 4)⟩ with
            ⟨ignored, failure | ⟨objects, rest⟩⟩ <;> rfl

end Message

namespace Stream
variable {registry : Registry} {octets frame others later : List UInt8} {length : Nat}

theorem declaredLength?_eq_some_iff :
    declaredLength? octets = some length ↔
      ∃ first second high low others,
        octets = first :: second :: high :: low :: others ∧ beValue [high, low] = length := by
  match octets with
  | [] | [_] | [_, _] | [_, _, _] => simp [declaredLength?]
  | first :: second :: high :: low :: others =>
    simp only [declaredLength?, Option.some.injEq, List.cons.injEq]
    constructor
    · rintro rfl
      exact ⟨_, _, _, _, _, ⟨rfl, rfl, rfl, rfl, rfl⟩, rfl⟩
    · rintro ⟨_, _, _, _, _, ⟨rfl, rfl, rfl, rfl, rfl⟩, same⟩
      exact same

theorem declaredLength?_append (declared : declaredLength? octets = some length)
    (later : List UInt8) : declaredLength? (octets ++ later) = some length := by
  obtain ⟨_, _, _, _, _, rfl, value⟩ := declaredLength?_eq_some_iff.mp declared
  exact congrArg some value

theorem arrived_of_not_incomplete (complete : ¬incomplete octets = true) :
    ∃ length, declaredLength? octets = some length ∧ arrived length octets = true := by
  rw [incomplete] at complete
  cases declared : declaredLength? octets with
  | none => rw [declared] at complete; exact absurd rfl complete
  | some length =>
    rw [declared] at complete
    exact ⟨length, rfl, by simpa using complete⟩

/-- The octets of the first message, as far as its header is right about its length. -/
def frameLength (length : Nat) : Nat := max 4 length

/-- What reading a frame gives does not depend on what comes behind it, but for the number of octets
that an error tells. -/
theorem outcome_append (declared : declaredLength? frame = some length)
    (whole : frame.length = frameLength length) (others : List UInt8) :
    (Message.outcome registry (frame ++ others)).mapError MessageReadError.settled =
      (Message.outcome registry frame).mapError MessageReadError.settled := by
  obtain ⟨first, second, high, low, contents, rfl, value⟩ := declaredLength?_eq_some_iff.mp declared
  simp only [List.length_cons, frameLength] at whole
  simp only [List.cons_append, Message.outcome_cons]
  cases Message.checkVersion first with
  | error error => rfl
  | ok _ =>
    cases Message.typeOfCode second with
    | error error => rfl
    | ok type =>
      change Except.mapError _ (if _ then _ else _) = Except.mapError _ (if _ then _ else _)
      rw [value, List.length_append]
      by_cases short : length < 4
      · rw [if_pos (.inl short), if_pos (.inl short)]
        rfl
      · have size : contents.length = length - 4 := by omega
        have enough : ¬(length < 4 ∨ contents.length < length - 4) := by omega
        have more : ¬(length < 4 ∨ contents.length + others.length < length - 4) := by omega
        rw [if_neg enough, if_neg more, ← size, List.take_left, List.take_length]

theorem declaredLength?_take {count : Nat} (declared : declaredLength? octets = some length)
    (header : 4 ≤ count) : declaredLength? (octets.take count) = some length := by
  obtain ⟨_, _, _, _, _, rfl, value⟩ := declaredLength?_eq_some_iff.mp declared
  obtain ⟨more, rfl⟩ := Nat.exists_eq_add_of_le' header
  exact congrArg some value

theorem four_le_of_declared (declared : declaredLength? octets = some length) : 4 ≤ octets.length := by
  obtain ⟨_, _, _, _, _, rfl, -⟩ := declaredLength?_eq_some_iff.mp declared
  exact Nat.le_add_left ..

theorem frameLength_le (declared : declaredLength? octets = some length)
    (whole : arrived length octets = true) : frameLength length ≤ octets.length := by
  have header := four_le_of_declared declared
  have enough := of_decide_eq_true whole
  rw [frameLength]
  omega

theorem outcome_take (declared : declaredLength? octets = some length)
    (enough : frameLength length ≤ octets.length) :
    (Message.outcome registry (octets.take (frameLength length))).mapError MessageReadError.settled =
      (Message.outcome registry octets).mapError MessageReadError.settled := by
  have front : declaredLength? (octets.take (frameLength length)) = some length :=
    declaredLength?_take declared (Nat.le_max_left ..)
  have size := List.length_take_of_le enough
  rw [← outcome_append front size (octets.drop (frameLength length)), List.take_append_drop]

theorem le_of_outcome_ok {message : Message} {ignored : Ignored}
    (declared : declaredLength? octets = some length)
    (found : Message.outcome registry octets = .ok (message, ignored)) :
    4 ≤ length ∧ length ≤ octets.length := by
  obtain ⟨first, second, high, low, contents, rfl, value⟩ := declaredLength?_eq_some_iff.mp declared
  rw [Message.outcome_cons, value] at found
  rw [List.length_cons, List.length_cons, List.length_cons, List.length_cons]
  revert found
  cases Message.checkVersion first with
  | error error => intro found; cases found
  | ok _ =>
    cases Message.typeOfCode second with
    | error error => intro found; cases found
    | ok type =>
      intro found
      change (if _ then _ else _) = _ at found
      split at found
      · cases found
      · next whole => omega

theorem decode_of_arrived {stream : Stream} (declared : declaredLength? stream.received = some length)
    (whole : arrived length stream.received = true) :
    stream.decode =
      match Message.scan stream.session.registry (.whole stream.received) with
      | (_, .error failure) =>
        (.error failure.error, { stream with session := .start stream.session.registry })
      | (ignored, .ok (message, _)) =>
        (.ok (some (message, stream.session.ignored ++ ignored)),
          { stream with
            session := .start stream.session.registry
            received := stream.received.drop length }) := by
  rw [decode, declared]
  dsimp only
  rw [if_pos whole, Session.read_eq]
  rcases Message.scan stream.session.registry (.whole stream.received) with ⟨ignored, _ | ⟨_, _⟩⟩ <;>
    rfl

theorem decode_of_fresh {stream : Stream} (fresh : stream.session = .start registry)
    (declared : declaredLength? stream.received = some length)
    (whole : arrived length stream.received = true) :
    stream.decode =
      match Message.outcome registry stream.received with
      | .error error => (.error error, stream)
      | .ok (message, ignored) =>
        (.ok (some (message, ignored)), { stream with received := stream.received.drop length }) := by
  obtain ⟨session, received, sent⟩ := stream
  subst fresh
  rw [decode_of_arrived declared whole, Message.outcome]
  dsimp only [Session.start]
  rcases Message.scan registry (.whole received) with ⟨ignored, failure | ⟨message, rest⟩⟩
  · rfl
  · dsimp only
    rw [Ignored.empty_append]

/-! ## Message by message -/

/-- A message that was handed out: where it started, its record, and how many octets were taken. -/
structure Delivery where
  offset : Nat
  message : Message
  ignored : Ignored
  length : Nat

/-- What reading octets message by message gives, where it stops, and the error it stops with, unless
it waits for more octets there. -/
structure Transcript where
  delivered : List Delivery
  offset : Nat
  error : Option MessageReadError

/-- Cuts octets into frames by the lengths that they declare and reads each frame alone, up to the first
that is incomplete or fails. -/
def transcript (registry : Registry) (offset : Nat) (octets : List UInt8) : Transcript :=
  match declared : declaredLength? octets with
  | none => ⟨[], offset, none⟩
  | some length =>
    if arrived length octets then
      match found : Message.outcome registry (octets.take (frameLength length)) with
      | .error error => ⟨[], offset, some error⟩
      | .ok (message, ignored) =>
        have : octets.length - length < octets.length := by
          have frame := declaredLength?_take declared (Nat.le_max_left 4 length)
          -- A message with a smaller length than that of its header is not accepted.
          have header := (le_of_outcome_ok frame found).1
          have something := four_le_of_declared declared
          omega
        let later := transcript registry (offset + length) (octets.drop length)
        { later with delivered := ⟨offset, message, ignored, length⟩ :: later.delivered }
    else
      ⟨[], offset, none⟩
termination_by octets.length

theorem transcript_of_incomplete (short : incomplete octets = true) (offset : Nat) :
    transcript registry offset octets = ⟨[], offset, none⟩ := by
  rw [transcript]
  split
  · rfl
  · next length declared =>
    rw [incomplete, declared] at short
    rw [if_neg]
    simpa using short

theorem transcript_of_error {error : MessageReadError}
    (declared : declaredLength? octets = some length) (whole : arrived length octets = true)
    (found : Message.outcome registry (octets.take (frameLength length)) = .error error)
    (offset : Nat) : transcript registry offset octets = ⟨[], offset, some error⟩ := by
  rw [transcript]
  split
  · next absent => cases absent.symm.trans declared
  · next other present =>
    cases present.symm.trans declared
    rw [if_pos whole]
    split
    · next failure same => cases same.symm.trans found; rfl
    · next message ignored same => cases same.symm.trans found

def Transcript.after (later : Transcript) (delivered : List Delivery) : Transcript :=
  { later with delivered := delivered ++ later.delivered }

theorem transcript_of_ok {message : Message} {ignored : Ignored}
    (declared : declaredLength? octets = some length) (whole : arrived length octets = true)
    (found : Message.outcome registry (octets.take (frameLength length)) = .ok (message, ignored))
    (offset : Nat) :
    transcript registry offset octets =
      (transcript registry (offset + length) (octets.drop length)).after
        [⟨offset, message, ignored, length⟩] := by
  rw [transcript]
  split
  · next absent => cases absent.symm.trans declared
  · next other present =>
    cases present.symm.trans declared
    rw [if_pos whole]
    split
    · next failure same => cases same.symm.trans found
    · next message ignored same => cases same.symm.trans found; rfl

theorem arrived_append (whole : arrived length octets = true) (later : List UInt8) :
    arrived length (octets ++ later) = true := by
  have enough := of_decide_eq_true whole
  refine decide_eq_true ?_
  rw [List.length_append]
  omega

theorem transcript_append_of_error {error : MessageReadError}
    (declared : declaredLength? octets = some length) (whole : arrived length octets = true)
    (found : Message.outcome registry octets = .error error) (offset : Nat) (later : List UInt8) :
    ∃ reported, transcript registry offset (octets ++ later) = ⟨[], offset, some reported⟩ ∧
      error.settled = reported.settled := by
  have enough := frameLength_le declared whole
  have front : (octets ++ later).take (frameLength length) = octets.take (frameLength length) :=
    List.take_append_of_le_length enough
  have same : (Message.outcome registry (octets.take (frameLength length))).mapError _ = _ :=
    outcome_take declared enough
  rw [found, ← front] at same
  cases frame : Message.outcome registry ((octets ++ later).take (frameLength length)) with
  | ok pair => rw [frame] at same; cases same
  | error reported =>
    rw [frame] at same
    exact ⟨reported, transcript_of_error (declaredLength?_append declared later)
      (arrived_append whole later) frame offset, (Except.error.inj same).symm⟩

theorem transcript_append_of_ok {message : Message} {ignored : Ignored}
    (declared : declaredLength? octets = some length) (whole : arrived length octets = true)
    (found : Message.outcome registry octets = .ok (message, ignored)) (offset : Nat)
    (later : List UInt8) :
    transcript registry offset (octets ++ later) =
      (transcript registry (offset + length) (octets.drop length ++ later)).after
        [⟨offset, message, ignored, length⟩] := by
  have enough := frameLength_le declared whole
  have front : (octets ++ later).take (frameLength length) = octets.take (frameLength length) :=
    List.take_append_of_le_length enough
  have same : (Message.outcome registry (octets.take (frameLength length))).mapError _ = _ :=
    outcome_take declared enough
  rw [found, ← front] at same
  cases frame : Message.outcome registry ((octets ++ later).take (frameLength length)) with
  | error reported => rw [frame] at same; cases same
  | ok pair =>
    rw [frame] at same
    cases same
    have inside := (le_of_outcome_ok declared found).2
    rw [transcript_of_ok (declaredLength?_append declared later) (arrived_append whole later) frame,
      List.drop_append_of_le_length inside]

/-! ## Piece by piece -/

inductive Event where
  | feed (octets : List UInt8)
  | decode
  | encode (message : Message)

/-- A call to read: how many octets were taken before it, its answer, and how many it took. -/
structure Call where
  offset : Nat
  answer : Except MessageReadError (Option (Message × Ignored))
  taken : Nat
  deriving DecidableEq

def Call.delivery? (call : Call) : Option Delivery :=
  match call.answer with
  | .ok (some (message, ignored)) => some ⟨call.offset, message, ignored, call.taken⟩
  | _ => none

structure History where
  stream : Stream
  offset : Nat
  calls : List Call

def History.step (history : History) : Event → History
  | .feed octets => { history with stream := history.stream.feed octets }
  | .encode message => { history with stream := (history.stream.encode message).2 }
  | .decode =>
    let (answer, stream) := history.stream.decode
    let taken := history.stream.received.length - stream.received.length
    ⟨stream, history.offset + taken, history.calls ++ [⟨history.offset, answer, taken⟩]⟩

def run (registry : Registry) (events : List Event) : History :=
  events.foldl History.step ⟨.start (.start registry), 0, []⟩

def Event.input : Event → List UInt8
  | .feed octets => octets
  | .decode | .encode _ => []

def fed (events : List Event) : List UInt8 := events.flatMap Event.input

/-- What a history has to do with the octets that were fed: the calls have handed out the first part of
the transcript, whatever comes later, and a call has failed only if the transcript ends here. -/
structure Refines (registry : Registry) (octets : List UInt8) (history : History) : Prop where
  fresh : history.stream.session = .start registry
  within : history.offset ≤ octets.length
  received_eq : history.stream.received = octets.drop history.offset
  delivered : ∀ later, transcript registry 0 (octets ++ later) =
    (transcript registry history.offset (history.stream.received ++ later)).after
      (history.calls.filterMap Call.delivery?)
  failed : ∀ call ∈ history.calls, ∀ error, call.answer = .error error →
    call.offset = history.offset ∧ ∀ later, ∃ reported,
      transcript registry history.offset (history.stream.received ++ later) =
        ⟨[], history.offset, some reported⟩ ∧ error.settled = reported.settled

theorem Refines.start (registry : Registry) : Refines registry [] (run registry []) where
  fresh := rfl
  within := Nat.le_refl 0
  received_eq := rfl
  delivered _ := rfl
  failed _ member := nomatch member

variable {history : History}

theorem Refines.feed (refines : Refines registry octets history) (more : List UInt8) :
    Refines registry (octets ++ more) (history.step (.feed more)) where
  fresh := refines.fresh
  within := Nat.le_trans refines.within (by rw [List.length_append]; exact Nat.le_add_right ..)
  received_eq := by
    rw [History.step, Stream.feed, refines.received_eq]
    exact (List.drop_append_of_le_length refines.within).symm
  delivered later := by
    rw [History.step, Stream.feed, List.append_assoc, List.append_assoc]
    exact refines.delivered (more ++ later)
  failed call member error answer := by
    obtain ⟨offset, stops⟩ := refines.failed call member error answer
    refine ⟨offset, fun later => ?_⟩
    rw [History.step, Stream.feed, List.append_assoc]
    exact stops (more ++ later)

theorem Refines.encode (refines : Refines registry octets history) (message : Message) :
    Refines registry octets (history.step (.encode message)) :=
  ⟨refines.fresh, refines.within, refines.received_eq, refines.delivered, refines.failed⟩

theorem Refines.ask (refines : Refines registry octets history) {call : Call} {stream : Stream}
    (same : stream = history.stream) (offset : call.offset = history.offset)
    (undelivered : call.delivery? = none)
    (stops : ∀ error, call.answer = .error error → ∀ later, ∃ reported,
      transcript registry history.offset (history.stream.received ++ later) =
        ⟨[], history.offset, some reported⟩ ∧ error.settled = reported.settled) :
    Refines registry octets ⟨stream, history.offset, history.calls ++ [call]⟩ := by
  subst same
  refine ⟨refines.fresh, refines.within, refines.received_eq, fun later => ?_, ?_⟩
  · rw [List.filterMap_append, List.filterMap_cons, undelivered, List.filterMap_nil, List.append_nil]
    exact refines.delivered later
  · intro other member error answer
    rcases List.mem_append.mp member with earlier | new
    · exact refines.failed other earlier error answer
    · cases List.mem_singleton.mp new
      exact ⟨offset, stops error answer⟩

theorem History.step_decode {answer : Except MessageReadError (Option (Message × Ignored))}
    {stream : Stream} (found : history.stream.decode = (answer, stream)) :
    history.step .decode =
      ⟨stream, history.offset + (history.stream.received.length - stream.received.length),
        history.calls ++ [⟨history.offset, answer,
          history.stream.received.length - stream.received.length⟩]⟩ := by
  rw [step, found]

theorem Refines.take (refines : Refines registry octets history) {message : Message}
    {ignored : Ignored} (declared : declaredLength? history.stream.received = some length)
    (whole : arrived length history.stream.received = true)
    (found : Message.outcome registry history.stream.received = .ok (message, ignored)) :
    Refines registry octets
      ⟨{ history.stream with received := history.stream.received.drop length },
        history.offset + length,
        history.calls ++ [⟨history.offset, .ok (some (message, ignored)), length⟩]⟩ := by
  have next := transcript_append_of_ok declared whole found history.offset
  have inside := (le_of_outcome_ok declared found).2
  have received := refines.received_eq
  refine ⟨refines.fresh, ?_, ?_, fun later => ?_, fun call member error answer => ?_⟩
  · rw [received, List.length_drop] at inside
    have within := refines.within
    dsimp only
    omega
  · dsimp only
    rw [received, List.drop_drop]
  · rw [refines.delivered later, next later, List.filterMap_append]
    exact congrArg (Transcript.mk · _ _) (List.append_assoc ..).symm
  · -- An earlier call cannot have failed, since then nothing could be handed out here.
    exfalso
    rcases List.mem_append.mp member with earlier | new
    · obtain ⟨-, stops⟩ := refines.failed call earlier error answer
      obtain ⟨reported, stuck, -⟩ := stops []
      rw [next []] at stuck
      cases congrArg Transcript.delivered stuck
    · cases List.mem_singleton.mp new
      cases answer

theorem Refines.decode (refines : Refines registry octets history) :
    Refines registry octets (history.step .decode) := by
  by_cases short : incomplete history.stream.received = true
  · rw [History.step_decode (decode_of_incomplete short), Nat.sub_self]
    exact refines.ask rfl rfl rfl fun error answer => nomatch answer
  · obtain ⟨length, declared, whole⟩ := arrived_of_not_incomplete short
    have found := decode_of_fresh refines.fresh declared whole
    cases outcome : Message.outcome registry history.stream.received with
    | error error =>
      rw [outcome] at found
      rw [History.step_decode found, Nat.sub_self]
      refine refines.ask rfl rfl rfl fun _ answer => ?_
      cases answer
      exact transcript_append_of_error declared whole outcome history.offset
    | ok pair =>
      obtain ⟨message, ignored⟩ := pair
      rw [outcome] at found
      have inside := (le_of_outcome_ok declared outcome).2
      have taken : history.stream.received.length -
          (history.stream.received.drop length).length = length := by
        rw [List.length_drop]
        omega
      rw [History.step_decode found, taken]
      exact refines.take declared whole outcome

theorem Refines.step (refines : Refines registry octets history) (event : Event) :
    Refines registry (octets ++ event.input) (history.step event) := by
  cases event with
  | feed more => exact refines.feed more
  | decode => rw [Event.input, List.append_nil]; exact refines.decode
  | encode message => rw [Event.input, List.append_nil]; exact refines.encode message

theorem Refines.foldl (refines : Refines registry octets history) (events : List Event) :
    Refines registry (octets ++ fed events) (events.foldl History.step history) := by
  induction events generalizing octets history with
  | nil => rw [fed, List.flatMap_nil, List.append_nil]; exact refines
  | cons event events ih =>
    rw [fed, List.flatMap_cons, ← List.append_assoc]
    exact ih (refines.step event)

theorem refines_run (registry : Registry) (events : List Event) :
    Refines registry (fed events) (run registry events) :=
  (Refines.start registry).foldl events

def Transcript.answer (transcript : Transcript) : Except MessageReadError (Option (Message × Ignored)) :=
  match transcript.error with
  | none => .ok none
  | some error => .error error

theorem Refines.stop (refines : Refines registry octets history)
    {answer : Except MessageReadError (Option (Message × Ignored))} {stream : Stream}
    (found : history.stream.decode = (answer, stream))
    (stopped : ∀ pair, answer ≠ .ok (some pair)) :
    stream = history.stream ∧ ∃ expected : Transcript,
      transcript registry history.offset history.stream.received = expected ∧
        expected.delivered = [] ∧ expected.offset = history.offset ∧
          answer.mapError MessageReadError.settled = expected.answer.mapError MessageReadError.settled := by
  by_cases short : incomplete history.stream.received = true
  · cases (decode_of_incomplete short).symm.trans found
    exact ⟨rfl, _, transcript_of_incomplete short _, rfl, rfl, rfl⟩
  · obtain ⟨length, declared, whole⟩ := arrived_of_not_incomplete short
    have same := (decode_of_fresh refines.fresh declared whole).symm.trans found
    cases outcome : Message.outcome registry history.stream.received with
    | ok pair =>
      rw [outcome] at same
      cases same
      exact absurd rfl (stopped _)
    | error error =>
      rw [outcome] at same
      cases same
      obtain ⟨reported, stops, settled⟩ :=
        transcript_append_of_error declared whole outcome history.offset []
      rw [List.append_nil] at stops
      exact ⟨rfl, _, stops, rfl, rfl, congrArg Except.error settled⟩

theorem run_refines (registry : Registry) (events : List Event) {last : Call}
    (asked : (run registry (events ++ [.decode])).calls.getLast? = some last)
    (stopped : last.delivery? = none) :
    let history := run registry (events ++ [.decode])
    let expected := transcript registry 0 (fed events)
    history.calls.filterMap Call.delivery? = expected.delivered ∧
      history.stream.received = (fed events).drop expected.offset ∧
      last.offset = expected.offset ∧ last.taken = 0 ∧
      last.answer.mapError MessageReadError.settled =
        expected.answer.mapError MessageReadError.settled ∧
      ∀ call ∈ history.calls, ∀ error, call.answer = .error error →
        call.offset = expected.offset ∧
          expected.error.map MessageReadError.settled = some error.settled := by
  intro history expected
  have final : history = (run registry events).step .decode := List.foldl_append
  have before := refines_run registry events
  have after : Refines registry (fed events) history := final ▸ before.decode
  rcases found : (run registry events).stream.decode with ⟨answer, stream⟩
  rw [History.step_decode found] at final
  have last_eq : last = ⟨(run registry events).offset, answer,
      (run registry events).stream.received.length - stream.received.length⟩ := by
    change history.calls.getLast? = some last at asked
    rw [final, List.getLast?_concat] at asked
    exact (Option.some.inj asked).symm
  have undelivered : ∀ pair, answer ≠ .ok (some pair) := by
    rintro pair rfl
    rw [last_eq] at stopped
    cases stopped
  -- The last call takes nothing, so it stands where the transcript stops.
  obtain ⟨same, there, stops, nothing, offset, agree⟩ := before.stop found undelivered
  have history_offset : history.offset = (run registry events).offset := by
    rw [final, same, Nat.sub_self, Nat.add_zero]
  have history_stream : history.stream = (run registry events).stream := by rw [final, same]
  have split : expected = there.after (history.calls.filterMap Call.delivery?) := by
    have whole := after.delivered []
    rwa [List.append_nil, List.append_nil, history_offset, history_stream, stops] at whole
  have expected_offset : expected.offset = (run registry events).offset := by
    rw [split]
    exact offset
  refine ⟨?_, ?_, ?_, ?_, ?_, fun call member error failure => ?_⟩
  · rw [split, Transcript.after, nothing, List.append_nil]
  · rw [after.received_eq, history_offset, expected_offset]
  · rw [last_eq, expected_offset]
  · rw [last_eq, same, Nat.sub_self]
  · rw [last_eq, split]
    exact agree
  · obtain ⟨place, reports⟩ := after.failed call member error failure
    obtain ⟨reported, stuck, settled⟩ := reports []
    rw [List.append_nil, history_offset, history_stream, stops] at stuck
    refine ⟨by rw [place, history_offset, expected_offset], ?_⟩
    have error_eq : expected.error = some reported := by
      rw [split, stuck]
      rfl
    rw [error_eq, settled]
    rfl

/-- A message in two pieces and the header of one that is too short in two more, with calls to read and
to write in between. -/
def pieces : List Event :=
  [.feed (Message.cluttered.take 10), .decode, .encode ⟨.keepalive, []⟩,
    .feed (Message.cluttered.drop 10 |>.dropLast), .feed [32, 1], .decode, .decode, .feed [0, 3, 9, 9]]

theorem run_refines_pieces :
    (run (Registry.empty.enable .base) (pieces ++ [.decode])).calls.filterMap Call.delivery? =
        (transcript (Registry.empty.enable .base) 0 (fed pieces)).delivered ∧
      (transcript (Registry.empty.enable .base) 0 (fed pieces)).offset = 56 ∧
      (transcript (Registry.empty.enable .base) 0 (fed pieces)).error.map MessageReadError.settled =
        some (.invalidLength ⟨3, 0⟩) := by
  have asked : (run (Registry.empty.enable .base) (pieces ++ [.decode])).calls.getLast? =
      some ⟨56, .error (.invalidLength ⟨3, 6⟩), 0⟩ := by decide +kernel
  obtain ⟨delivered, -, offset, -, -, failed⟩ := run_refines _ pieces asked rfl
  exact ⟨delivered, offset.symm, (failed _ (List.mem_of_getLast? asked) _ rfl).2⟩

end Stream
end RouteWire.Pcep
