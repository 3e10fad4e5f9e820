/-!
Octets on the wire: numerals of a fixed width with the most significant octet first, flag bits, and
padding to a multiple of four octets.

Main statements: `beValue_beOctets` and `beOctets_beValue` make a numeral and its octets inverse to
each other, `testBit_bitsValue` reads a flag back from a packed word, and `padded_mod` says that
padding reaches a multiple of four.
-/
namespace RouteWire

/-- The octets of `value` in `width` places, most significant first. Higher digits are dropped. -/
def beOctets : (width value : Nat) → List UInt8
  | 0, _ => []
  | width + 1, value => beOctets width (value / 256) ++ [UInt8.ofNat value]

def beValue (octets : List UInt8) : Nat :=
  octets.foldl (fun value octet => value * 256 + octet.toNat) 0

def numeralCount : (width : Nat) → Nat
  | 0 => 1
  | width + 1 => 256 * numeralCount width

@[simp] theorem length_beOctets (width value : Nat) : (beOctets width value).length = width := by
  induction width generalizing value with
  | zero => rfl
  | succ width ih => simp [beOctets, ih]

theorem beValue_append_singleton (octets : List UInt8) (last : UInt8) :
    beValue (octets ++ [last]) = beValue octets * 256 + last.toNat := by
  simp [beValue]

theorem beValue_beOctets (width value : Nat) :
    beValue (beOctets width value) = value % numeralCount width := by
  induction width generalizing value with
  | zero => simp [beOctets, beValue, numeralCount, Nat.mod_one]
  | succ width ih =>
    rw [beOctets, beValue_append_singleton, ih, numeralCount, Nat.mod_mul, UInt8.toNat_ofNat']
    omega

theorem beValue_beOctets_of_lt {width value : Nat} (fits : value < numeralCount width) :
    beValue (beOctets width value) = value := by
  rw [beValue_beOctets, Nat.mod_eq_of_lt fits]

theorem beOctets_beValue {width : Nat} {octets : List UInt8} (length : octets.length = width) :
    beOctets width (beValue octets) = octets := by
  induction width generalizing octets with
  | zero => rw [List.length_eq_zero_iff.mp length]; rfl
  | succ width ih =>
    rcases List.eq_nil_or_concat octets with rfl | ⟨front, last, rfl⟩
    · simp at length
    · rw [List.concat_eq_append] at length ⊢
      have front_length : front.length = width := by simpa using length
      have bound := last.toNat_lt
      have high : (beValue front * 256 + last.toNat) / 256 = beValue front := by omega
      rw [beValue_append_singleton, beOctets, high, ih front_length, List.append_cancel_left_eq,
        List.cons.injEq]
      exact ⟨UInt8.toNat_inj.mp (by rw [UInt8.toNat_ofNat']; omega), rfl⟩

theorem numeralCount_pos (width : Nat) : 0 < numeralCount width := by
  induction width with
  | zero => decide
  | succ width ih => rw [numeralCount]; omega

theorem beValue_lt (octets : List UInt8) : beValue octets < numeralCount octets.length := by
  have same := beValue_beOctets octets.length (beValue octets)
  rw [beOctets_beValue rfl] at same
  rw [same]
  exact Nat.mod_lt _ (numeralCount_pos _)

def word16 (word : UInt16) : List UInt8 := beOctets 2 word.toNat

def word32 (word : UInt32) : List UInt8 := beOctets 4 word.toNat

def word64 (word : UInt64) : List UInt8 := beOctets 8 word.toNat

@[simp] theorem length_word16 (word : UInt16) : (word16 word).length = 2 := length_beOctets ..

@[simp] theorem length_word32 (word : UInt32) : (word32 word).length = 4 := length_beOctets ..

@[simp] theorem length_word64 (word : UInt64) : (word64 word).length = 8 := length_beOctets ..

/-- Flags packed into a number, the first at the least significant bit. -/
def bitsValue : List Bool → Nat
  | [] => 0
  | flag :: flags => flag.toNat + 2 * bitsValue flags

theorem testBit_bitsValue (flags : List Bool) (i : Nat) :
    (bitsValue flags).testBit i = flags.getD i false := by
  induction flags generalizing i with
  | nil => simp [bitsValue]
  | cons flag flags ih =>
    cases i with
    | zero => cases flag <;> simp [bitsValue, Nat.testBit_zero]
    | succ i =>
      have half : (flag.toNat + 2 * bitsValue flags) / 2 = bitsValue flags := by
        have := Bool.toNat_lt flag
        omega
      rw [bitsValue, Nat.testBit_succ, half, ih]
      rfl

def padding (length : Nat) : Nat := (4 - length % 4) % 4

def padded (length : Nat) : Nat := length + padding length

theorem padded_mod (length : Nat) : padded length % 4 = 0 := by
  rw [padded, padding]; omega

theorem padding_eq_zero_iff {length : Nat} : padding length = 0 ↔ length % 4 = 0 := by
  rw [padding]; omega

def zeros (count : Nat) : List UInt8 := List.replicate count 0

@[simp] theorem length_zeros (count : Nat) : (zeros count).length = count :=
  List.length_replicate ..

def padOctets (octets : List UInt8) : List UInt8 := octets ++ zeros (padding octets.length)

@[simp] theorem length_padOctets (octets : List UInt8) :
    (padOctets octets).length = padded octets.length := by
  simp [padOctets, padded]

end RouteWire
