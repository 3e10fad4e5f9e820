import RouteWire.Proofs.Pcep.Stream.Reading
/-!
Calls to read that hand out no message. A call waits just when the header, or the rest of a message whose
header is there, has not arrived yet, and then nothing is changed. A call that fails takes nothing, loses
what it passed over, and fails again. There is no record between the calls of a run.

Main statement: `decode_undelivered`.
-/
namespace RouteWire.Pcep.Stream
variable {stream : Stream} {error : MessageReadError}
  {answer : Except MessageReadError (Option (Message × Ignored)) × Stream}

inductive Answers (stream : Stream) :
    Except MessageReadError (Option (Message × Ignored)) × Stream → Prop
  | waits (short : incomplete stream.received = true) : Answers stream (.ok none, stream)
  | fails {passed : Ignored} {failure : Failure MessageReadError}
      (complete : ¬incomplete stream.received = true)
      (found : Message.scan stream.session.registry (.whole stream.received) = (passed, .error failure)) :
      Answers stream (.error failure.error, { stream with session := .start stream.session.registry })
  | delivers {length : Nat} {passed : Ignored} {message : Message} {rest : Slice}
      (declared : declaredLength? stream.received = some length)
      (whole : arrived length stream.received = true)
      (found : Message.scan stream.session.registry (.whole stream.received) =
        (passed, .ok (message, rest))) :
      Answers stream (.ok (some (message, stream.session.ignored ++ passed)),
        { stream with
          session := .start stream.session.registry
          received := stream.received.drop length })

theorem answers_iff : Answers stream answer ↔ stream.decode = answer := by
  constructor
  · intro answers
    cases answers with
    | waits short => exact decode_of_incomplete short
    | fails complete found =>
      obtain ⟨length, declared, whole⟩ := arrived_of_not_incomplete complete
      rw [decode_of_arrived declared whole, found]
    | delivers declared whole found => rw [decode_of_arrived declared whole, found]
  · rintro rfl
    by_cases short : incomplete stream.received = true
    · rw [decode_of_incomplete short]
      exact .waits short
    · obtain ⟨length, declared, whole⟩ := arrived_of_not_incomplete short
      rw [decode_of_arrived declared whole]
      rcases found : Message.scan stream.session.registry (.whole stream.received) with
        ⟨passed, failure | ⟨message, rest⟩⟩
      · exact .fails short found
      · exact .delivers declared whole found

theorem decode_waits_iff : stream.decode.1 = .ok none ↔ incomplete stream.received = true := by
  constructor
  · intro waiting
    have answers := answers_iff.mpr (rfl : stream.decode = stream.decode)
    generalize stream.decode = answer at answers waiting
    cases answers with
    | waits short => exact short
    | fails | delivers => cases waiting
  · intro short
    rw [decode_of_incomplete short]

theorem decode_failed (failed : stream.decode.1 = .error error) :
    stream.decode.2 = { stream with session := .start stream.session.registry } ∧
      stream.decode.2.decode = (.error error, stream.decode.2) := by
  have answers := answers_iff.mpr (rfl : stream.decode = stream.decode)
  generalize stream.decode = answer at answers failed ⊢
  cases answers with
  | waits | delivers => cases failed
  | fails complete found =>
    cases failed
    exact ⟨rfl, answers_iff.mp (.fails complete found)⟩

/-- A call that hands out no message keeps the stream as it is, but for the record of a failed call; and
in a run there is a record only while a call is made. -/
theorem decode_undelivered :
    (∀ stream : Stream,
      (stream.decode.1 = .ok none ↔ stream.received.length < 4 ∨
        ∃ length, declaredLength? stream.received = some length ∧ 4 ≤ length ∧
          stream.received.length < length) ∧
      (stream.decode.1 = .ok none → stream.decode.2 = stream) ∧
      ∀ error, stream.decode.1 = .error error →
        stream.decode.2 = { stream with session := .start stream.session.registry } ∧
        stream.decode.2.decode = (.error error, stream.decode.2)) ∧
    ∀ registry events, (run registry events).stream.session = .start registry := by
  refine ⟨fun stream => ⟨decode_waits_iff.trans incomplete_iff, fun waiting => ?_, fun error => ?_⟩, ?_⟩
  · rw [decode_of_incomplete (decode_waits_iff.mp waiting)]
  · exact decode_failed
  · exact fun registry events => (refines_run registry events).fresh

/-- An object that is dropped, and one that is too short. -/
def droppedThenShort : List UInt8 := [32, 2, 0, 12, 200, 16, 0, 4, 1, 16, 0, 5]

theorem decode_undelivered_dropped :
    let session : Session := ⟨.full, .of (.unknownTlv 9)⟩
    let failing : Stream := ⟨session, droppedThenShort, []⟩
    let waiting : Stream := ⟨session, droppedThenShort.dropLast, []⟩
    waiting.decode.2 = waiting ∧
      (session.read Message.scan droppedThenShort).2.ignored.droppedObjects = #[⟨200, 1⟩] ∧
      failing.decode.2 = ⟨.start .full, droppedThenShort, []⟩ ∧
      failing.decode.2.decode = (.error (.object (.invalidLength 5)), failing.decode.2) ∧
      (run .full [.feed droppedThenShort, .decode]).stream.session.ignored = ∅ := by
  intro session failing waiting
  have header : declaredLength? waiting.received = some 12 := rfl
  have short : waiting.received.length < 12 := by decide
  have answer : waiting.decode.1 = .ok none :=
    (decode_undelivered.1 waiting).1.mpr (.inr ⟨12, header, by decide, short⟩)
  have error : failing.decode.1 = .error (.object (.invalidLength 5)) := by decide +kernel
  obtain ⟨after, again⟩ := (decode_undelivered.1 failing).2.2 _ error
  refine ⟨(decode_undelivered.1 waiting).2.1 answer, by decide +kernel, after, again, ?_⟩
  rw [decode_undelivered.2]
  rfl

end RouteWire.Pcep.Stream
