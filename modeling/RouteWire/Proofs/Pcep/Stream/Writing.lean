import RouteWire.Pcep.Stream
import RouteWire.Proofs.Writing
/-!
What a failed call to write leaves on a stream. A message that is too long is refused before anything is
written; after any other error the header, the objects in front and the first octets of the object at
fault stay behind what is to be sent.

Main statement: `encode_failed`.
-/
namespace RouteWire.Pcep

theorem Message.script_failed {registry : Registry} {message : Message} {error : MessageWriteError}
    (failed : (message.script registry).failure = some error) :
    (65535 < message.length registry ∧ error = .lengthOverflow (message.length registry) ∧
      (message.script registry).octets = []) ∨
    (message.length registry ≤ 65535 ∧ ∃ before object later cause,
      message.objects = before ++ object :: later ∧
        (∀ earlier ∈ before, (earlier.script registry).failure = none) ∧
        (object.script registry).failure = some cause ∧ error = .object cause ∧
        (message.script registry).octets = message.header (message.length registry) ++
          ((before.flatMap fun earlier => (earlier.script registry).octets) ++
            (object.script registry).octets)) := by
  rw [script] at failed ⊢
  split at failed
  · next long =>
    cases failed
    exact .inl ⟨long, rfl, by rw [if_pos long]; rfl⟩
  · next short =>
    rw [Script.failure_append, Script.failure_emit] at failed
    obtain ⟨before, object, later, objects, runs, stopped, written⟩ := Script.concat_map_failed failed
    simp only [Script.failure_mapError, Option.map_eq_none_iff] at runs
    obtain ⟨cause, origin, rfl⟩ := Option.map_eq_some_iff.mp stopped
    refine .inr ⟨Nat.le_of_not_lt short, before, object, later, cause, objects, runs, origin, rfl, ?_⟩
    simp only [Script.octets_mapError] at written
    rw [if_neg short, Script.octets_append, Script.octets_emit, Script.failure_emit, written]
    rfl

namespace Stream
variable {stream after : Stream} {message : Message} {error : MessageWriteError}

theorem encode_failed (failed : stream.encode message = (some error, after)) :
    after.session = stream.session ∧ after.received = stream.received ∧
      (after.sent = stream.sent ↔ 65535 < message.length stream.session.registry) ∧
      ∀ cause, error = .object cause → ∃ before object later,
        message.objects = before ++ object :: later ∧
          (∀ earlier ∈ before, (earlier.script stream.session.registry).failure = none) ∧
          (object.script stream.session.registry).failure = some cause ∧
          after.sent = stream.sent ++ (message.header (message.length stream.session.registry) ++
            ((before.flatMap fun earlier => (earlier.script stream.session.registry).octets) ++
              (object.script stream.session.registry).octets)) := by
  rw [encode, Prod.mk.injEq] at failed
  obtain ⟨failure, rfl⟩ := failed
  refine ⟨rfl, rfl, ?_, ?_⟩
  · rw [List.append_right_eq_self]
    rcases Message.script_failed failure with ⟨long, -, nothing⟩ | ⟨short, _, _, _, _, _, _, _, _, written⟩
    · exact iff_of_true nothing long
    · refine iff_of_false ?_ (Nat.not_lt_of_le short)
      rw [written, Message.header]
      exact List.cons_ne_nil _ _
  · rintro cause rfl
    rcases Message.script_failed failure with ⟨-, wrong, -⟩ |
      ⟨-, before, object, later, cause, objects, runs, stopped, same, written⟩
    · cases wrong
    · cases same
      exact ⟨before, object, later, objects, runs, stopped, by rw [written]⟩

/-- An opening whose flags need more than five bits. -/
def largeOpeningFlags : Message :=
  ⟨.opening, [⟨⟨false, false⟩, .known (.opening ⟨32, 30, 120, 1, {}⟩)⟩]⟩

theorem encode_largeOpeningFlags :
    (start (.start .full)).encode largeOpeningFlags =
      (some (.object (.invalidOpeningFlags 32)),
        { start (.start .full) with sent := [32, 1, 0, 12] }) :=
  Prod.ext (by decide +kernel) (congrArg (Stream.mk _ _) (by decide +kernel))

theorem encode_failed_largeOpeningFlags :
    ((start (.start .full)).encode largeOpeningFlags).2.sent = [32, 1, 0, 12] ∧
      (((start (.start .full)).encode largeOpeningFlags).2.sent = (start (.start .full)).sent ↔
        65535 < largeOpeningFlags.length Registry.full) := by
  rw [encode_largeOpeningFlags]
  exact ⟨rfl, (encode_failed encode_largeOpeningFlags).2.2.1⟩

theorem not_sent_eq_of_encode_failed :
    ¬∀ (stream after : Stream) (message : Message) (error : MessageWriteError),
      stream.encode message = (some error, after) → after.sent = stream.sent := by
  intro unchanged
  have sent : [32, 1, 0, 12] = (start (.start .full)).sent :=
    unchanged _ _ _ _ encode_largeOpeningFlags
  cases sent

end Stream
end RouteWire.Pcep
