import RouteWire.Pcep.Message
/-!
Streams: messages that arrive in pieces of any size, and messages to be sent. A message is read once
all of it is there, with the record of what was passed over in it alone.

Main statements: `decode_of_incomplete` and `incomplete_iff`.
-/
namespace RouteWire.Pcep

/-- A session, what has arrived and is not read yet, and what is to be sent. -/
structure Stream where
  session : Session
  received : List UInt8
  sent : List UInt8

namespace Stream

def start (session : Session) : Stream := ⟨session, [], []⟩

/-- The length that the header at the start of some octets declares; none if it is not all there. -/
def declaredLength? : List UInt8 → Option Nat
  | _ :: _ :: high :: low :: _ => some (beValue [high, low])
  | _ => none

/-- Whether a message of some declared length is there as a whole. A length that covers not even the
header needs no more octets to be found wrong. -/
def arrived (length : Nat) (received : List UInt8) : Bool :=
  decide (length < 4 ∨ length ≤ received.length)

def incomplete (received : List UInt8) : Bool :=
  match declaredLength? received with
  | none => true
  | some length => !arrived length received

def feed (stream : Stream) (octets : List UInt8) : Stream :=
  { stream with received := stream.received ++ octets }

/-- Reads a message if all of it has arrived, takes as many octets as its header declares, and hands
out the record. A message that cannot be read stays where it is, and its record is lost. -/
def decode (stream : Stream) : Except MessageReadError (Option (Message × Ignored)) × Stream :=
  match declaredLength? stream.received with
  | none => (.ok none, stream)
  | some length =>
    if arrived length stream.received then
      match stream.session.read Message.scan stream.received with
      | (.error failure, session) =>
        (.error failure.error, { stream with session := session.takeIgnored.2 })
      | (.ok (message, _), session) =>
        let (ignored, session) := session.takeIgnored
        (.ok (some (message, ignored)),
          { stream with session, received := stream.received.drop length })
    else
      (.ok none, stream)

/-- Writes a message behind what is to be sent. What was written before an error stays. -/
def encode (stream : Stream) (message : Message) : Option MessageWriteError × Stream :=
  let script := message.script stream.session.registry
  (script.failure, { stream with sent := stream.sent ++ script.octets })

def loopBack (stream : Stream) : Stream :=
  { stream with received := stream.received ++ stream.sent, sent := [] }

def clear (stream : Stream) : Stream := { stream with received := [] }

theorem decode_of_incomplete {stream : Stream} (short : incomplete stream.received = true) :
    stream.decode = (.ok none, stream) := by
  rw [incomplete] at short
  rw [decode]
  cases declared : declaredLength? stream.received with
  | none => rfl
  | some length =>
    rw [declared] at short
    dsimp only at short ⊢
    rw [if_neg (by simpa using short)]

theorem incomplete_iff {received : List UInt8} :
    incomplete received = true ↔
      received.length < 4 ∨
        ∃ length, declaredLength? received = some length ∧ 4 ≤ length ∧ received.length < length := by
  match received with
  | [] | [_] | [_, _] | [_, _, _] => simp [incomplete, declaredLength?]
  | _ :: _ :: _ :: _ :: _ =>
    simp only [incomplete, declaredLength?, arrived, Bool.not_eq_true', decide_eq_false_iff_not,
      List.length_cons, Option.some.injEq, exists_eq_left']
    omega

end Stream
end RouteWire.Pcep
