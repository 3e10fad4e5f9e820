import Mathlib.Data.List.Induction
import RouteWire.Proofs.Pcep.Extent
import RouteWire.Proofs.Pcep.Stream.Reading
/-!
Two streams, one behind the other. Messages are encoded on the first, its octets move to the second in
pieces of any size, and messages are decoded on the second, in any order of the three. The octets that
have not been decoded, wherever they are, are those of the messages that are in transit.

Main statements: `InTransit.step` for one move, `inTransit_run` for any number of them, and
`run_lossless`.
-/
namespace RouteWire.Pcep
variable {registry : Registry} {message : Message} {octets : List UInt8}

namespace Message

/-- The message is written, and a new session reads it back as it is and passes over nothing. -/
def Faithful (registry : Registry) (message : Message) : Prop :=
  ∃ octets rest, (message.script registry).run none = (octets, none) ∧
    (Session.start registry).read Message.scan octets =
      (.ok (message, rest), Session.start registry)

theorem Legible.faithful (legible : message.Legible registry) (canonical : registry.Canonical)
    (known : message.enabled registry = message)
    (written : (message.script registry).failure = none) : message.Faithful registry := by
  have runs := Script.toExcept_of_failure written
  have found := scan_script canonical legible.readable runs
  rw [known] at found
  exact ⟨_, _, Script.run_none_iff.mpr runs, Session.read_of_scan found⟩

theorem declaredLength?_script (written : (message.script registry).toExcept = .ok octets) :
    Stream.declaredLength? octets = some octets.length := by
  have length := length_script written
  obtain ⟨fits, -, whole⟩ := script_ok.mp written
  obtain ⟨high, low, split⟩ := List.length_eq_two.mp (length_beOctets 2 (message.length registry))
  have value : beValue [high, low] = message.length registry := by
    rw [← split]
    exact beValue_beOctets_of_lt (Nat.lt_succ_of_le fits)
  rw [length, whole, header, split]
  exact congrArg some value

namespace Faithful

theorem declared (faithful : message.Faithful registry) :
    Stream.declaredLength? (message.script registry).octets =
      some (message.script registry).octets.length := by
  obtain ⟨octets, rest, written, -⟩ := faithful
  have runs := Script.run_none_iff.mp written
  obtain ⟨-, rfl⟩ := Script.toExcept_ok.mp runs
  exact declaredLength?_script runs

theorem outcome (faithful : message.Faithful registry) :
    Message.outcome registry (message.script registry).octets = .ok (message, ∅) := by
  obtain ⟨octets, rest, written, found⟩ := faithful
  obtain ⟨-, rfl⟩ := Script.toExcept_ok.mp (Script.run_none_iff.mp written)
  have answer := congrArg Prod.fst found
  have ignored : (Message.scan registry (.whole (message.script registry).octets)).1 = ∅ :=
    congrArg (fun later => later.2.ignored) found
  have scanned : Message.scan registry (.whole (message.script registry).octets) =
      (∅, .ok (message, rest)) := Prod.ext ignored answer
  rw [Message.outcome, scanned]

end Faithful

end Message

namespace Stream
variable {stream : Stream} {others : List UInt8}

theorem decode_of_faithful (fresh : stream.session = .start registry)
    (faithful : message.Faithful registry)
    (front : stream.received = (message.script registry).octets ++ others) :
    stream.decode = (.ok (some (message, ∅)), { stream with received := others }) := by
  have declared := faithful.declared
  have whole : (message.script registry).octets.length =
      frameLength (message.script registry).octets.length :=
    (Nat.max_eq_right (four_le_of_declared declared)).symm
  -- What comes behind a message changes at most the octets that an error counts, and there is no error.
  have same : (Message.outcome registry stream.received).mapError MessageReadError.settled = _ :=
    front ▸ outcome_append declared whole others
  rw [faithful.outcome] at same
  have there : arrived (message.script registry).octets.length stream.received = true := by
    refine decide_eq_true (Or.inr ?_)
    rw [front, List.length_append]
    exact Nat.le_add_right ..
  have complete : declaredLength? stream.received = _ := front ▸ declaredLength?_append declared others
  rw [decode_of_fresh fresh complete there]
  cases found : Message.outcome registry stream.received with
  | error error => rw [found] at same; cases same
  | ok pair =>
    rw [found] at same
    cases same
    rw [front]
    show (_, { stream with received := List.drop _ (_ ++ others) }) = _
    rw [List.drop_left]

theorem incomplete_of_part {received : List UInt8}
    (declared : declaredLength? octets = some octets.length) (part : received <+: octets)
    (short : received.length < octets.length) : incomplete received = true := by
  apply incomplete_iff.mpr
  by_cases header : received.length < 4
  · exact Or.inl header
  · have front : declaredLength? received = some octets.length := by
      rw [List.prefix_iff_eq_take.mp part]
      exact declaredLength?_take declared (Nat.le_of_not_lt header)
    exact Or.inr ⟨_, front, four_le_of_declared declared, short⟩

end Stream

/-- A stream that messages are encoded on, one that they are decoded on, the messages whose encoding did
not fail, and the answers of the calls to decode. -/
structure Exchange where
  sender : Stream
  receiver : Stream
  encoded : List Message
  answers : List (Except MessageReadError (Option (Message × Ignored)))

inductive Move where
  | encode (message : Message)
  | transfer (count : Nat)
  | decode

def Move.message? : Move → Option Message
  | .encode message => some message
  | .transfer _ | .decode => none

namespace Exchange

def start (registry : Registry) : Exchange :=
  ⟨.start (.start registry), .start (.start registry), [], []⟩

def step (exchange : Exchange) : Move → Exchange
  | .encode message =>
    let (error, sender) := exchange.sender.encode message
    let encoded := match error with
      | none => exchange.encoded ++ [message]
      | some _ => exchange.encoded
    { exchange with sender, encoded }
  | .transfer count =>
    { exchange with
      sender := { exchange.sender with sent := exchange.sender.sent.drop count }
      receiver := exchange.receiver.feed (exchange.sender.sent.take count) }
  | .decode =>
    let (answer, receiver) := exchange.receiver.decode
    { exchange with receiver, answers := exchange.answers ++ [answer] }

def run (registry : Registry) (moves : List Move) : Exchange := moves.foldl step (start registry)

def delivery? : Except MessageReadError (Option (Message × Ignored)) → Option (Message × Ignored)
  | .ok delivery => delivery
  | .error _ => none

def delivered (exchange : Exchange) : List (Message × Ignored) :=
  exchange.answers.filterMap delivery?

/-- Messages that are in transit: the octets in both buffers are theirs, and they are what was encoded and
is not handed out yet. No call has failed, and nothing was ignored. -/
structure InTransit (registry : Registry) (exchange : Exchange) (messages : List Message) : Prop where
  sender_fresh : exchange.sender.session = .start registry
  receiver_fresh : exchange.receiver.session = .start registry
  faithful : ∀ message ∈ messages, message.Faithful registry
  octets : exchange.receiver.received ++ exchange.sender.sent =
    messages.flatMap fun message => (message.script registry).octets
  encoded : exchange.encoded = exchange.delivered.map Prod.fst ++ messages
  answered : ∀ answer ∈ exchange.answers,
    answer = .ok none ∨ ∃ message, answer = .ok (some (message, ∅))

variable {exchange : Exchange} {messages : List Message}

theorem inTransit_start (registry : Registry) : InTransit registry (start registry) [] :=
  ⟨rfl, rfl, List.forall_mem_nil _, rfl, rfl, List.forall_mem_nil _⟩

theorem step_encode (fresh : exchange.sender.session = .start registry)
    (faithful : message.Faithful registry) :
    exchange.step (.encode message) =
      { exchange with
        sender := { exchange.sender with
          sent := exchange.sender.sent ++ (message.script registry).octets }
        encoded := exchange.encoded ++ [message] } := by
  obtain ⟨octets, rest, written, -⟩ := faithful
  have same : exchange.sender.session.registry = registry := congrArg Session.registry fresh
  have runs : (message.script registry).failure = none := congrArg Prod.snd written
  rw [step, Stream.encode, same, runs]

theorem step_decode {answer : Except MessageReadError (Option (Message × Ignored))} {receiver : Stream}
    (found : exchange.receiver.decode = (answer, receiver)) :
    exchange.step .decode = { exchange with receiver, answers := exchange.answers ++ [answer] } := by
  rw [step, found]

theorem InTransit.encode (transit : InTransit registry exchange messages)
    (faithful : message.Faithful registry) :
    InTransit registry (exchange.step (.encode message)) (messages ++ [message]) := by
  rw [step_encode transit.sender_fresh faithful]
  refine { transit with faithful := ?_, octets := ?_, encoded := ?_ }
  · exact List.forall_mem_append.mpr ⟨transit.faithful, List.forall_mem_singleton.mpr faithful⟩
  · rw [← List.append_assoc, transit.octets, List.flatMap_append, List.flatMap_singleton]
  · rw [transit.encoded, List.append_assoc]
    rfl

theorem InTransit.transfer (transit : InTransit registry exchange messages) (count : Nat) :
    InTransit registry (exchange.step (.transfer count)) messages := by
  refine { transit with octets := ?_ }
  show exchange.receiver.received ++ exchange.sender.sent.take count ++ exchange.sender.sent.drop count = _
  rw [List.append_assoc, List.take_append_drop, transit.octets]

theorem InTransit.wait (transit : InTransit registry exchange messages)
    (short : Stream.incomplete exchange.receiver.received = true) :
    InTransit registry (exchange.step .decode) messages := by
  rw [step_decode (Stream.decode_of_incomplete short)]
  refine { transit with encoded := ?_, answered := ?_ }
  · rw [transit.encoded, delivered, delivered, List.filterMap_append]
    exact congrArg (· ++ messages) (congrArg (List.map Prod.fst) (List.append_nil _).symm)
  · exact List.forall_mem_append.mpr
      ⟨transit.answered, List.forall_mem_singleton.mpr (Or.inl rfl)⟩

theorem InTransit.deliver (transit : InTransit registry exchange (message :: messages))
    (enough : (message.script registry).octets.length ≤ exchange.receiver.received.length) :
    InTransit registry (exchange.step .decode) messages := by
  obtain ⟨faithful, behind⟩ := List.forall_mem_cons.mp transit.faithful
  have octets := transit.octets
  rw [List.flatMap_cons] at octets
  obtain ⟨others, front⟩ := List.prefix_of_prefix_length_le ⟨_, rfl⟩ ⟨_, octets⟩ enough
  rw [← front, List.append_assoc] at octets
  rw [step_decode (Stream.decode_of_faithful transit.receiver_fresh faithful front.symm)]
  refine { transit with faithful := behind, octets := ?_, encoded := ?_, answered := ?_ }
  · exact List.append_cancel_left octets
  · rw [transit.encoded, delivered, delivered, List.filterMap_append, List.map_append,
      List.append_assoc]
    rfl
  · exact List.forall_mem_append.mpr
      ⟨transit.answered, List.forall_mem_singleton.mpr (Or.inr ⟨message, rfl⟩)⟩

theorem InTransit.short (transit : InTransit registry exchange (message :: messages))
    (missing : exchange.receiver.received.length < (message.script registry).octets.length) :
    Stream.incomplete exchange.receiver.received = true := by
  have octets := transit.octets
  rw [List.flatMap_cons] at octets
  have faithful := (List.forall_mem_cons.mp transit.faithful).1
  have part := List.prefix_of_prefix_length_le ⟨_, octets⟩ ⟨_, rfl⟩ (Nat.le_of_lt missing)
  exact Stream.incomplete_of_part faithful.declared part missing

theorem InTransit.received_of_nil (transit : InTransit registry exchange []) :
    exchange.receiver.received = [] :=
  (List.append_eq_nil_iff.mp transit.octets).1

theorem InTransit.incomplete_of_nil (transit : InTransit registry exchange []) :
    Stream.incomplete exchange.receiver.received = true := by
  rw [transit.received_of_nil]
  rfl

theorem InTransit.decode (transit : InTransit registry exchange messages) :
    ∃ later, InTransit registry (exchange.step .decode) later := by
  cases messages with
  | nil => exact ⟨[], transit.wait transit.incomplete_of_nil⟩
  | cons message messages =>
    by_cases enough : (message.script registry).octets.length ≤ exchange.receiver.received.length
    · exact ⟨messages, transit.deliver enough⟩
    · exact ⟨_, transit.wait (transit.short (Nat.lt_of_not_le enough))⟩

theorem InTransit.step (transit : InTransit registry exchange messages) (move : Move)
    (faithful : ∀ message, move = .encode message → message.Faithful registry) :
    (∃ later, InTransit registry (exchange.step move) later) ∧
      (exchange.step move).encoded = exchange.encoded ++ move.message?.toList := by
  cases move with
  | encode message =>
    have faithful := faithful message rfl
    exact ⟨⟨_, transit.encode faithful⟩, by rw [step_encode transit.sender_fresh faithful]; rfl⟩
  | transfer count => exact ⟨⟨_, transit.transfer count⟩, (List.append_nil _).symm⟩
  | decode => exact ⟨transit.decode, (List.append_nil _).symm⟩

theorem inTransit_run {moves : List Move}
    (faithful : ∀ message, .encode message ∈ moves → message.Faithful registry) :
    (∃ messages, InTransit registry (run registry moves) messages) ∧
      (run registry moves).encoded = moves.filterMap Move.message? := by
  induction moves using List.reverseRecOn with
  | nil => exact ⟨⟨[], inTransit_start registry⟩, rfl⟩
  | append_singleton moves move ih =>
    have before message member := faithful message (List.mem_append_left [move] member)
    have last message (same : move = .encode message) :=
      faithful message (List.mem_append_right moves (List.mem_singleton.mpr same.symm))
    obtain ⟨⟨messages, transit⟩, encoded⟩ := ih before
    obtain ⟨next, more⟩ := transit.step move last
    rw [run, List.foldl_append]
    refine ⟨next, ?_⟩
    rw [List.filterMap_append, ← encoded]
    cases move <;> exact more

theorem InTransit.next (transit : InTransit registry exchange messages)
    (sent : exchange.sender.sent = []) :
    exchange.receiver.decode.1 = .ok (messages.head?.map fun message => (message, ∅)) := by
  cases messages with
  | nil =>
    rw [Stream.decode_of_incomplete transit.incomplete_of_nil]
    rfl
  | cons message messages =>
    have faithful := (List.forall_mem_cons.mp transit.faithful).1
    have octets := transit.octets
    rw [sent, List.append_nil] at octets
    rw [Stream.decode_of_faithful transit.receiver_fresh faithful octets]
    rfl

theorem run_lossless {moves : List Move}
    (faithful : ∀ message, .encode message ∈ moves → message.Faithful registry) :
    let exchange := run registry moves
    exchange.encoded = moves.filterMap Move.message? ∧
      exchange.delivered.map Prod.fst <+: exchange.encoded ∧
      (∀ delivery ∈ exchange.delivered, delivery.2 = ∅) ∧
      (∀ answer ∈ exchange.answers, ∀ error, answer ≠ .error error) ∧
      (exchange.sender.sent = [] →
        (exchange.receiver.decode.1 = .ok none ↔
          exchange.delivered.map Prod.fst = exchange.encoded) ∧
        (exchange.receiver.decode.1 = .ok none → exchange.receiver.received = [])) := by
  intro exchange
  obtain ⟨⟨messages, transit⟩, encoded⟩ := inTransit_run faithful
  refine ⟨encoded, ⟨messages, transit.encoded.symm⟩, ?_, ?_, ?_⟩
  · intro delivery member
    obtain ⟨answer, asked, handed⟩ := List.mem_filterMap.mp member
    obtain rfl | ⟨message, rfl⟩ := transit.answered answer asked
    · cases handed
    · cases handed
      rfl
  · rintro answer asked error rfl
    obtain wrong | ⟨message, wrong⟩ := transit.answered _ asked <;> cases wrong
  · intro sent
    have empty : exchange.receiver.decode.1 = .ok none ↔ messages = [] := by
      rw [transit.next sent, Except.ok.injEq, Option.map_eq_none_iff, List.head?_eq_none_iff]
    constructor
    · rw [empty, transit.encoded]
      exact List.self_eq_append_right.symm
    · intro waits
      obtain rfl := empty.mp waits
      exact transit.received_of_nil

/-- Two messages in pieces that end inside a header and inside a message, with calls to decode in
between. -/
def twoInPieces : List Move :=
  [.encode ⟨.keepalive, []⟩, .transfer 2, .decode, .encode Message.withinBase, .transfer 3, .decode,
    .decode, .transfer 100, .decode]

theorem run_lossless_twoInPieces :
    (run (Registry.empty.enable .base) twoInPieces).delivered.map Prod.fst =
        [⟨.keepalive, []⟩, Message.withinBase] ∧
      (run (Registry.empty.enable .base) twoInPieces).receiver.received = [] := by
  have canonical := (Registry.Assembled.base .empty).canonical
  have keepalive : Message.Faithful (Registry.empty.enable .base) ⟨.keepalive, []⟩ :=
    Message.Legible.faithful (List.forall_mem_nil _) canonical rfl rfl
  have legible : Message.withinBase.Legible (Registry.empty.enable .base) := by
    intro object member
    obtain rfl | rfl := List.mem_pair.mp member
    · exact ⟨_, rfl, trivial, List.forall_mem_singleton.mpr trivial⟩
    · exact ⟨_, rfl, trivial, List.forall_mem_singleton.mpr trivial⟩
  have report : Message.withinBase.Faithful (Registry.empty.enable .base) :=
    legible.faithful canonical (by decide +kernel) (by decide +kernel)
  have faithful : ∀ message, .encode message ∈ twoInPieces →
      message.Faithful (Registry.empty.enable .base) := by
    intro message member
    have encoded : message ∈ twoInPieces.filterMap Move.message? :=
      List.mem_filterMap.mpr ⟨_, member, rfl⟩
    obtain rfl | rfl := List.mem_pair.mp encoded
    · exact keepalive
    · exact report
  obtain ⟨encoded, -, -, -, settled⟩ := run_lossless faithful
  have waits : (run (Registry.empty.enable .base) twoInPieces).receiver.decode.1 = .ok none := by
    decide +kernel
  obtain ⟨all, nothing⟩ := settled (by decide +kernel)
  exact ⟨(all.mp waits).trans encoded, nothing waits⟩

end Exchange
end RouteWire.Pcep
