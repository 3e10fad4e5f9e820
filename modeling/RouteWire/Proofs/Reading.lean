import Mathlib.Algebra.Group.Nat.Defs
import RouteWire.Address.Network
import RouteWire.Pcep.SidStructure
/-!
What readers make of octets, in both directions. A primitive that finds the octets of a value reads
that value and leaves the rest; and if it read a value, then it found its octets.

Main statements: `bind_ok` takes a sequence of readers apart, and `word32_ok` and its companions
describe the primitives.
-/
namespace RouteWire

theorem numeralCount_eq (width : Nat) : numeralCount width = 256 ^ width := by
  induction width with
  | zero => rfl
  | succ width ih => rw [numeralCount, ih, Nat.pow_succ, Nat.mul_comm]

theorem beValue_lt_pow {octets : List UInt8} {width : Nat} (length : octets.length = width) :
    beValue octets < 256 ^ width := by
  rw [← length, ← numeralCount_eq]
  exact beValue_lt octets

theorem beValue_word16 (word : UInt16) : beValue (word16 word) = word.toNat :=
  beValue_beOctets_of_lt word.toNat_lt

theorem beValue_word32 (word : UInt32) : beValue (word32 word) = word.toNat :=
  beValue_beOctets_of_lt word.toNat_lt

theorem ofNat_beValue_word16 (word : UInt16) : UInt16.ofNat (beValue (word16 word)) = word := by
  rw [beValue_word16, UInt16.ofNat_toNat]

theorem ofNat_beValue_word32 (word : UInt32) : UInt32.ofNat (beValue (word32 word)) = word := by
  rw [beValue_word32, UInt32.ofNat_toNat]

theorem word32_beValue {octets : List UInt8} (length : octets.length = 4) :
    word32 (UInt32.ofNat (beValue octets)) = octets := by
  have bound : beValue octets < 2 ^ 32 := beValue_lt_pow length
  rw [word32, UInt32.toNat_ofNat_of_lt' bound, beOctets_beValue length]

theorem Ipv4.octets_ofOctets {octets : List UInt8} (length : octets.length = 4) :
    (Ipv4.ofOctets octets).octets = octets :=
  word32_beValue length

theorem Ipv6.octets_ofOctets {octets : List UInt8} (length : octets.length = 16) :
    (Ipv6.ofOctets octets).octets = octets := by
  have bound : beValue octets < 2 ^ 128 := beValue_lt_pow length
  rw [Ipv6.octets, Ipv6.ofOctets, BitVec.toNat_ofNat, Nat.mod_eq_of_lt bound,
    beOctets_beValue length]

theorem bitsValue_lt (flags : List Bool) : bitsValue flags < 2 ^ flags.length := by
  induction flags with
  | nil => exact Nat.one_pos
  | cons flag flags ih =>
    have := Bool.toNat_lt flag
    rw [bitsValue, List.length_cons, Nat.pow_succ]
    omega

theorem toNat_bitsOctet {flags : List Bool} (short : flags.length ≤ 8) :
    (UInt8.ofNat (bitsValue flags)).toNat = bitsValue flags :=
  UInt8.toNat_ofNat_of_lt' (Nat.lt_of_lt_of_le (bitsValue_lt flags)
    (Nat.pow_le_pow_right (by decide) short))

theorem testBit_bitsOctet {flags : List Bool} (short : flags.length ≤ 8) (i : Nat) :
    (UInt8.ofNat (bitsValue flags)).toNat.testBit i = flags.getD i false := by
  rw [toNat_bitsOctet short, testBit_bitsValue]

theorem word32_ofNat {value : Nat} (fits : value < 2 ^ 32) :
    word32 (UInt32.ofNat value) = beOctets 4 value := by
  rw [word32, UInt32.toNat_ofNat_of_lt' fits]

theorem length_flatMap_of_width {β : Type} {encode : β → List UInt8} {width : Nat}
    (each : ∀ element, (encode element).length = width) (elements : List β) :
    (elements.flatMap encode).length = width * elements.length := by
  induction elements with
  | nil => rfl
  | cons element elements ih =>
    rw [List.flatMap_cons, List.length_append, each, ih, List.length_cons, Nat.mul_succ, Nat.add_comm]

theorem pieces_flatMap {β : Type} {encode : β → List UInt8} {width : Nat} {elements : List β}
    (positive : 0 < width) (each : ∀ element ∈ elements, (encode element).length = width) :
    pieces width (elements.flatMap encode) = elements.map encode := by
  induction elements with
  | nil =>
    rw [pieces, dif_neg]
    · rfl
    · rintro ⟨-, length⟩
      rw [List.flatMap_nil, List.take_nil, List.length_nil] at length
      exact Nat.ne_of_gt positive length.symm
  | cons element elements ih =>
    obtain ⟨first, others⟩ := List.forall_mem_cons.mp each
    have front : (encode element ++ elements.flatMap encode).take width = encode element :=
      List.take_left' first
    have back : (encode element ++ elements.flatMap encode).drop width = elements.flatMap encode :=
      List.drop_left' first
    rw [List.flatMap_cons, pieces, dif_pos ⟨positive, by rw [front, first]⟩]
    dsimp only
    rw [front, back, ih others, List.map_cons]

theorem length_pieces (width : Nat) (octets : List UInt8) :
    (pieces width octets).length = octets.length / width := by
  fun_induction pieces width octets with
  | case1 octets enough _ ih =>
    rw [List.length_take] at enough
    rw [List.length_cons, ih, List.length_drop]
    exact (Nat.div_eq_sub_div enough.1 (by omega)).symm
  | case2 octets short =>
    rw [List.length_take] at short
    rcases Nat.eq_zero_or_pos width with rfl | positive
    · exact (Nat.div_zero _).symm
    · exact (Nat.div_eq_of_lt (by omega)).symm

theorem testBit_flagOctet (flag : Bool) :
    (if flag then 128 else 0 : UInt8).toNat.testBit 7 = flag := by
  cases flag <;> decide

namespace Slice

theorem split?_eq_some_iff {slice head rest : Slice} {count : Nat} :
    slice.split? count = some (head, rest) ↔
      slice.octets = head.octets ++ rest.octets ∧ head.octets.length = count ∧
        head.offset = slice.offset ∧ rest.offset = slice.offset + count := by
  refine ⟨octets_of_split?, ?_⟩
  rintro ⟨whole, length, start, behind⟩
  obtain ⟨offset, octets⟩ := slice
  obtain ⟨headOffset, headOctets⟩ := head
  obtain ⟨restOffset, restOctets⟩ := rest
  simp only at whole length start behind
  subst whole length start behind
  exact split?_append ..

theorem finish_whole (octets : List UInt8) : (whole octets).finish = ⟨octets.length, []⟩ := by
  rw [finish, whole, Nat.zero_add]

end Slice

namespace Reader
variable {ε ε' α β : Type} {slice rest : Slice}

theorem bind_apply (reader : Reader ε α) (next : α → Reader ε β) (slice : Slice) :
    (reader >>= next) slice =
      match reader slice with
      | .error failure => .error failure
      | .ok (value, rest) => next value rest := rfl

@[simp] theorem pure_apply (value : α) (slice : Slice) :
    (pure value : Reader ε α) slice = .ok (value, slice) := rfl

theorem bind_ok {reader : Reader ε α} {next : α → Reader ε β} {value : β} :
    (reader >>= next) slice = .ok (value, rest) ↔
      ∃ found behind, reader slice = .ok (found, behind) ∧ next found behind = .ok (value, rest) := by
  rw [bind_apply]
  cases action : reader slice with
  | error failure => simp
  | ok result =>
    obtain ⟨found, behind⟩ := result
    simp only [Except.ok.injEq, Prod.mk.injEq]
    constructor
    · intro later
      exact ⟨found, behind, ⟨rfl, rfl⟩, later⟩
    · rintro ⟨_, _, ⟨rfl, rfl⟩, later⟩
      exact later

theorem bind_error {reader : Reader ε α} {next : α → Reader ε β} {failure : Failure ε} :
    (reader >>= next) slice = .error failure ↔
      reader slice = .error failure ∨
        ∃ found behind, reader slice = .ok (found, behind) ∧ next found behind = .error failure := by
  rw [bind_apply]
  rcases reader slice with other | ⟨found, behind⟩
  · simp
  · simp only [reduceCtorEq, false_or, Except.ok.injEq, Prod.mk.injEq]
    constructor
    · intro later
      exact ⟨found, behind, ⟨rfl, rfl⟩, later⟩
    · rintro ⟨_, _, ⟨rfl, rfl⟩, later⟩
      exact later

theorem pure_ok {value result : α} :
    (pure value : Reader ε α) slice = .ok (result, rest) ↔ result = value ∧ rest = slice := by
  rw [pure_apply, Except.ok.injEq, Prod.mk.injEq, eq_comm, @eq_comm _ slice]

theorem mapError_ok {wrap : ε → ε'} {reader : Reader ε α} {value : α} :
    reader.mapError wrap slice = .ok (value, rest) ↔ reader slice = .ok (value, rest) := by
  rw [mapError]
  cases reader slice <;> simp

theorem convert_ok {reader : Reader ε α} {conversion : α → Except ε β} {value : β} :
    reader.convert conversion slice = .ok (value, rest) ↔
      ∃ found, reader slice = .ok (found, rest) ∧ conversion found = .ok value := by
  rw [convert]
  cases reader slice with
  | error failure => simp
  | ok result =>
    obtain ⟨found, behind⟩ := result
    cases converted : conversion found with
    | error error => simp [converted]
    | ok other =>
      simp only [converted, Except.ok.injEq, Prod.mk.injEq]
      constructor
      · rintro ⟨rfl, rfl⟩
        exact ⟨found, ⟨rfl, rfl⟩, converted⟩
      · rintro ⟨_, ⟨rfl, rfl⟩, same⟩
        exact ⟨Except.ok.inj (converted.symm.trans same), rfl⟩

theorem convert_error {reader : Reader ε α} {conversion : α → Except ε β} {failure : Failure ε} :
    reader.convert conversion slice = .error failure ↔
      reader slice = .error failure ∨
        ∃ found error, (∃ rest, reader slice = .ok (found, rest)) ∧ conversion found = .error error ∧
          failure = slice.failure error := by
  rw [convert]
  rcases reader slice with other | ⟨found, behind⟩
  · simp
  · cases converted : conversion found <;> simp [converted, eq_comm]

theorem peek_ok {reader : Reader ε α} {value : α} :
    reader.peek slice = .ok (value, rest) ↔
      (∃ behind, reader slice = .ok (value, behind)) ∧ rest = slice := by
  rw [peek]
  cases reader slice with
  | error failure => simp
  | ok result =>
    obtain ⟨found, behind⟩ := result
    simp only [Except.ok.injEq, Prod.mk.injEq]
    constructor
    · rintro ⟨rfl, rfl⟩
      exact ⟨⟨behind, rfl, rfl⟩, rfl⟩
    · rintro ⟨⟨_, rfl, _⟩, rfl⟩
      exact ⟨rfl, rfl⟩

theorem inside_ok {reader : Reader ε α} {contents : Slice} {value : α} :
    reader.inside contents = .ok value ↔ ∃ rest, reader contents = .ok (value, rest) := by
  rw [inside]
  cases reader contents <;> simp [Prod.ext_iff]

theorem inside_bind_pure (reader : Reader ε α) (result : α → β) (contents : Slice) :
    (reader >>= fun value => pure (result value)).inside contents =
      (reader.inside contents).map result := by
  rw [inside, inside, bind_apply]
  cases reader contents <;> rfl

theorem require_ok {condition : Bool} {error : ε} {value : Unit} :
    require condition error slice = .ok (value, rest) ↔ condition = true ∧ rest = slice := by
  cases condition
  · simp [require, fail]
  · simp only [require, if_pos, pure_ok, true_and]

theorem left_ok {length : Nat} :
    (left : Reader ε Nat) slice = .ok (length, rest) ↔ length = slice.octets.length ∧ rest = slice := by
  rw [left, Except.ok.injEq, Prod.mk.injEq, eq_comm, @eq_comm _ slice]

theorem exactly_ok {length : Nat} {error : Nat → ε} {value : Unit} :
    exactly length error slice = .ok (value, rest) ↔ slice.octets.length = length ∧ rest = slice := by
  simp only [exactly, bind_ok, left_ok, require_ok, decide_eq_true_eq]
  constructor
  · rintro ⟨_, _, ⟨rfl, rfl⟩, met⟩
    exact met
  · intro met
    exact ⟨_, _, ⟨rfl, rfl⟩, met⟩

theorem atLeast_ok {length : Nat} {error : Nat → ε} {value : Unit} :
    atLeast length error slice = .ok (value, rest) ↔ length ≤ slice.octets.length ∧ rest = slice := by
  simp only [atLeast, bind_ok, left_ok, require_ok, decide_eq_true_eq]
  constructor
  · rintro ⟨_, _, ⟨rfl, rfl⟩, met⟩
    exact met
  · intro met
    exact ⟨_, _, ⟨rfl, rfl⟩, met⟩

theorem multipleOf_ok {unit : Nat} {error : Nat → ε} {value : Unit} :
    multipleOf unit error slice = .ok (value, rest) ↔
      slice.octets.length % unit = 0 ∧ rest = slice := by
  simp only [multipleOf, bind_ok, left_ok, require_ok, decide_eq_true_eq]
  constructor
  · rintro ⟨_, _, ⟨rfl, rfl⟩, met⟩
    exact met
  · intro met
    exact ⟨_, _, ⟨rfl, rfl⟩, met⟩

theorem remaining_ok {octets : List UInt8} :
    (remaining : Reader ε (List UInt8)) slice = .ok (octets, rest) ↔
      octets = slice.octets ∧ rest = slice.finish := by
  rw [remaining, Except.ok.injEq, Prod.mk.injEq, eq_comm, @eq_comm _ slice.finish]

theorem many_flatMap {encode : α → List UInt8} {value : List UInt8 → α} {width : Nat}
    {elements : List α} (positive : 0 < width) (length : ∀ element, (encode element).length = width)
    (inverse : ∀ element, value (encode element) = element)
    (whole : slice.octets = elements.flatMap encode) :
    ∃ rest, (many width value : Reader ε (List α)) slice = .ok (elements, rest) := by
  refine ⟨slice.skip ((pieces width slice.octets).length * width), ?_⟩
  rw [many, whole, pieces_flatMap positive fun element _ => length element, List.map_map]
  have same : value ∘ encode = id := funext inverse
  rw [same, List.map_id]

theorem length_of_many {value : List UInt8 → α} {width : Nat} {values : List α}
    (found : (many width value : Reader ε (List α)) slice = .ok (values, rest)) :
    values.length = slice.octets.length / width := by
  rw [many, Except.ok.injEq, Prod.mk.injEq] at found
  rw [← found.1, List.length_map, length_pieces]

theorem length_of_many_le {value : List UInt8 → α} {width : Nat} {values : List α}
    (found : (many width value : Reader ε (List α)) slice = .ok (values, rest)) :
    width * values.length ≤ slice.octets.length := by
  rw [length_of_many found]
  exact Nat.mul_div_le ..

/-- Where a slice ends after some octets of it are read. -/
def Behind (slice : Slice) (octets : List UInt8) (rest : Slice) : Prop :=
  slice.octets = octets ++ rest.octets ∧ rest.offset = slice.offset + octets.length

variable [EndOfInput ε]

theorem take_ok {count : Nat} {octets : List UInt8} :
    (take count : Reader ε (List UInt8)) slice = .ok (octets, rest) ↔
      octets.length = count ∧ Behind slice octets rest := by
  rw [take]
  cases cut : slice.split? count with
  | none =>
    simp only [reduceCtorEq, Behind, false_iff]
    rintro ⟨length, whole, -⟩
    rw [Slice.split?_eq_none_iff, whole, List.length_append] at cut
    omega
  | some parts =>
    obtain ⟨head, behind⟩ := parts
    obtain ⟨whole, length, -, offset⟩ := Slice.octets_of_split? cut
    simp only [Except.ok.injEq, Prod.mk.injEq, Behind]
    constructor
    · rintro ⟨rfl, rfl⟩
      exact ⟨length, whole, length ▸ offset⟩
    · rintro ⟨same, other, start⟩
      obtain ⟨front, back⟩ := List.append_inj (whole.symm.trans other) (length.trans same.symm)
      refine ⟨front, ?_⟩
      cases rest
      cases behind
      simp only [Slice.mk.injEq] at offset back start ⊢
      exact ⟨by omega, back⟩

theorem number_ok {width value : Nat} :
    (number width : Reader ε Nat) slice = .ok (value, rest) ↔
      value < 256 ^ width ∧ Behind slice (beOctets width value) rest := by
  simp only [number, bind_ok, take_ok, pure_ok]
  constructor
  · rintro ⟨octets, _, ⟨length, behind⟩, rfl, rfl⟩
    exact ⟨beValue_lt_pow length, by rwa [beOctets_beValue length]⟩
  · rintro ⟨bound, behind⟩
    rw [← numeralCount_eq] at bound
    exact ⟨_, _, ⟨length_beOctets .., behind⟩, (beValue_beOctets_of_lt bound).symm, rfl⟩

theorem octet_ok {octet : UInt8} :
    (Reader.octet : Reader ε UInt8) slice = .ok (octet, rest) ↔ Behind slice [octet] rest := by
  obtain ⟨offset, octets⟩ := slice
  obtain ⟨restOffset, restOctets⟩ := rest
  cases octets with
  | nil => simp [Reader.octet, Behind]
  | cons first others =>
    simp only [Reader.octet, Behind, Except.ok.injEq, Prod.mk.injEq, Slice.mk.injEq,
      List.cons_append, List.nil_append, List.cons.injEq, List.length_singleton]
    constructor
    · rintro ⟨rfl, rfl, rfl⟩
      exact ⟨⟨rfl, rfl⟩, rfl⟩
    · rintro ⟨⟨rfl, rfl⟩, rfl⟩
      exact ⟨rfl, rfl, rfl⟩

theorem number_error {width : Nat} {failure : Failure ε} :
    (number width : Reader ε Nat) slice = .error failure ↔
      slice.octets.length < width ∧ failure = slice.failure EndOfInput.endOfInput := by
  simp only [number, bind_error, pure_apply, reduceCtorEq, and_false, exists_false, or_false, take]
  cases cut : slice.split? width with
  | none => simp [Slice.split?_eq_none_iff.mp cut, eq_comm]
  | some parts =>
    have enough : ¬slice.octets.length < width := fun short => by
      rw [Slice.split?_eq_none_iff.mpr short] at cut
      cases cut
    simp [enough]

theorem octet_error {failure : Failure ε} :
    (Reader.octet : Reader ε UInt8) slice = .error failure ↔
      slice.octets = [] ∧ failure = slice.failure EndOfInput.endOfInput := by
  rw [Reader.octet]
  cases slice.octets <;> simp [eq_comm]

theorem word16_ok {word : UInt16} :
    (word16 : Reader ε UInt16) slice = .ok (word, rest) ↔ Behind slice (RouteWire.word16 word) rest := by
  simp only [word16, bind_ok, number_ok, pure_ok]
  constructor
  · rintro ⟨value, _, ⟨bound, behind⟩, rfl, rfl⟩
    rwa [RouteWire.word16, UInt16.toNat_ofNat_of_lt' bound]
  · intro behind
    exact ⟨_, _, ⟨word.toNat_lt, behind⟩, UInt16.ofNat_toNat.symm, rfl⟩

theorem word32_ok {word : UInt32} :
    (word32 : Reader ε UInt32) slice = .ok (word, rest) ↔ Behind slice (RouteWire.word32 word) rest := by
  simp only [word32, bind_ok, number_ok, pure_ok]
  constructor
  · rintro ⟨value, _, ⟨bound, behind⟩, rfl, rfl⟩
    rwa [RouteWire.word32, UInt32.toNat_ofNat_of_lt' bound]
  · intro behind
    exact ⟨_, _, ⟨word.toNat_lt, behind⟩, UInt32.ofNat_toNat.symm, rfl⟩

theorem word64_ok {word : UInt64} :
    (word64 : Reader ε UInt64) slice = .ok (word, rest) ↔ Behind slice (RouteWire.word64 word) rest := by
  simp only [word64, bind_ok, number_ok, pure_ok]
  constructor
  · rintro ⟨value, _, ⟨bound, behind⟩, rfl, rfl⟩
    rwa [RouteWire.word64, UInt64.toNat_ofNat_of_lt' bound]
  · intro behind
    exact ⟨_, _, ⟨word.toNat_lt, behind⟩, UInt64.ofNat_toNat.symm, rfl⟩

theorem ipv4_ok {address : Ipv4} :
    (Ipv4.read : Reader ε Ipv4) slice = .ok (address, rest) ↔ Behind slice address.octets rest := by
  simp only [Ipv4.read, bind_ok, take_ok, pure_ok]
  constructor
  · rintro ⟨octets, _, ⟨length, behind⟩, rfl, rfl⟩
    rwa [Ipv4.octets_ofOctets length]
  · intro behind
    exact ⟨_, _, ⟨Ipv4.length_octets address, behind⟩, (Ipv4.ofOctets_octets address).symm, rfl⟩

theorem ipv6_ok {address : Ipv6} :
    (Ipv6.read : Reader ε Ipv6) slice = .ok (address, rest) ↔ Behind slice address.octets rest := by
  simp only [Ipv6.read, bind_ok, take_ok, pure_ok]
  constructor
  · rintro ⟨octets, _, ⟨length, behind⟩, rfl, rfl⟩
    rwa [Ipv6.octets_ofOctets length]
  · intro behind
    exact ⟨_, _, ⟨Ipv6.length_octets address, behind⟩, (Ipv6.ofOctets_octets address).symm, rfl⟩

theorem Behind.length {octets : List UInt8} (behind : Behind slice octets rest) :
    slice.octets.length = octets.length + rest.octets.length := by
  rw [behind.1, List.length_append]

theorem behind_append {offset : Nat} {front back : List UInt8} :
    Behind ⟨offset, front ++ back⟩ front ⟨offset + front.length, back⟩ :=
  ⟨rfl, rfl⟩

theorem behind_append_iff {front back : List UInt8} :
    Behind slice (front ++ back) rest ↔ ∃ mid, Behind slice front mid ∧ Behind mid back rest := by
  constructor
  · rintro ⟨whole, offset⟩
    refine ⟨⟨slice.offset + front.length, back ++ rest.octets⟩, ⟨?_, rfl⟩, rfl, ?_⟩
    · rw [whole, List.append_assoc]
    · rw [offset, List.length_append, Nat.add_assoc]
  · rintro ⟨mid, ⟨whole, offset⟩, others, start⟩
    refine ⟨?_, ?_⟩
    · rw [whole, others, List.append_assoc]
    · rw [start, offset, List.length_append, Nat.add_assoc]

theorem behind_cons_iff {first : UInt8} {others : List UInt8} :
    Behind slice (first :: others) rest ↔ ∃ mid, Behind slice [first] mid ∧ Behind mid others rest := by
  rw [← List.singleton_append, behind_append_iff]

theorem behind_nil_iff : Behind slice [] rest ↔ rest = slice := by
  obtain ⟨offset, octets⟩ := slice
  obtain ⟨restOffset, restOctets⟩ := rest
  rw [Behind, List.nil_append, List.length_nil, Nat.add_zero, Slice.mk.injEq, and_comm]
  exact and_congr_right fun _ => eq_comm

theorem behind_whole {offset : Nat} {octets : List UInt8} :
    Behind ⟨offset, octets⟩ octets ⟨offset + octets.length, []⟩ :=
  ⟨(List.append_nil octets).symm, rfl⟩

theorem length_of_behind {octets : List UInt8} (behind : Behind slice octets rest)
    (nothing : rest.octets = []) : slice.octets.length = octets.length := by
  rw [behind.length, nothing, List.length_nil, Nat.add_zero]

omit [EndOfInput ε] in
theorem remaining_iff {octets : List UInt8} :
    (remaining : Reader ε (List UInt8)) slice = .ok (octets, rest) ↔
      Behind slice octets rest ∧ rest.octets = [] := by
  rw [remaining_ok]
  constructor
  · rintro ⟨rfl, rfl⟩
    exact ⟨⟨(List.append_nil _).symm, rfl⟩, rfl⟩
  · rintro ⟨⟨whole, offset⟩, nothing⟩
    rw [nothing, List.append_nil] at whole
    cases rest
    dsimp only at nothing offset
    rw [Slice.finish, whole, nothing, offset]
    exact ⟨rfl, rfl⟩

/-! ## Primitives on octets that were written -/

variable {offset : Nat} {others : List UInt8}

@[simp] theorem octet_cons (first : UInt8) :
    (Reader.octet : Reader ε UInt8) ⟨offset, first :: others⟩ = .ok (first, ⟨offset + 1, others⟩) :=
  rfl

theorem take_append {count : Nat} {octets : List UInt8} (length : octets.length = count) :
    (take count : Reader ε (List UInt8)) ⟨offset, octets ++ others⟩ =
      .ok (octets, ⟨offset + count, others⟩) :=
  take_ok.mpr ⟨length, length ▸ behind_append⟩

theorem number_octets {width : Nat} {octets : List UInt8} (length : octets.length = width) :
    (number width : Reader ε Nat) ⟨offset, octets ++ others⟩ =
      .ok (beValue octets, ⟨offset + width, others⟩) := by
  rw [number, bind_apply, take_append length]
  rfl

end Reader

namespace Pcep
open Reader
variable {slice rest : Slice}

theorem SidStructure.read_ok {ε : Type} [EndOfInput ε] {parts : SidStructure} :
    (SidStructure.read : Reader ε SidStructure) slice = .ok (parts, rest) ↔
      Behind slice parts.octets rest := by
  have split : parts.octets = [parts.locatorBlock] ++ ([parts.locatorNode] ++
    ([parts.function] ++ [parts.argument])) := rfl
  simp only [SidStructure.read, Reader.bind_ok, octet_ok, pure_ok, split, behind_append_iff]
  constructor
  · rintro ⟨_, _, block, _, _, node, _, _, function, _, _, argument, rfl, rfl⟩
    exact ⟨_, block, _, node, _, function, argument⟩
  · rintro ⟨_, block, _, node, _, function, argument⟩
    exact ⟨_, _, block, _, _, node, _, _, function, _, _, argument, rfl, rfl⟩

end Pcep
end RouteWire
