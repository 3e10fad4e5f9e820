import RouteWire.Proofs.Pcep.Layout
/-!
Numbers that have fewer bits on the wire than in memory. The words of a value tell where such numbers
stand in its octets and how many bits each of them has there, beside which others. A number that does
not fit ends the writing with an error, except for the priority of a request, of which the bits beyond
the lowest three are dropped.

Main statement: `narrow_numbers_whole`.
-/
namespace RouteWire.Pcep
variable {octets front back : List UInt8} {registry : Registry}

/-! ## Numbers side by side -/

structure BitField where
  bits : Nat
  number : Nat

namespace BitField
variable {fields : List BitField}

def flag (flag : Bool) : BitField := ⟨1, flag.toNat⟩

def Fits (field : BitField) : Prop := field.number < 2 ^ field.bits

instance (field : BitField) : Decidable field.Fits := inferInstanceAs (Decidable (_ < _))

/-- Numbers side by side in one, the first in the lowest bits. -/
def pack : List BitField → Nat
  | [] => 0
  | field :: fields => field.number + 2 ^ field.bits * pack fields

def unpack : (sizes : List Nat) → Nat → List Nat
  | [], _ => []
  | bits :: sizes, number => number % 2 ^ bits :: unpack sizes (number / 2 ^ bits)

theorem unpack_pack (fits : ∀ field ∈ fields, field.Fits) :
    unpack (fields.map bits) (pack fields) = fields.map number := by
  induction fields with
  | nil => rfl
  | cons field fields ih =>
    obtain ⟨small, others⟩ := List.forall_mem_cons.mp fits
    have positive : 0 < 2 ^ field.bits := Nat.two_pow_pos _
    rw [List.map_cons, List.map_cons, pack, unpack, Nat.add_mul_mod_self_left, Nat.mod_eq_of_lt small,
      Nat.add_mul_div_left _ _ positive, Nat.div_eq_of_lt small, Nat.zero_add, ih others]

theorem fits_of_unpack {word : Nat} (whole : unpack (fields.map bits) word = fields.map number) :
    ∀ field ∈ fields, field.Fits := by
  induction fields generalizing word with
  | nil => exact List.forall_mem_nil _
  | cons field fields ih =>
    rw [List.map_cons, List.map_cons, unpack, List.cons.injEq] at whole
    refine List.forall_mem_cons.mpr ⟨?_, ih whole.2⟩
    rw [Fits, ← whole.1]
    exact Nat.mod_lt _ (Nat.two_pow_pos _)

theorem pack_lt (fits : ∀ field ∈ fields, field.Fits) : pack fields < 2 ^ (fields.map bits).sum := by
  induction fields with
  | nil => exact Nat.one_pos
  | cons field fields ih =>
    obtain ⟨small, others⟩ := List.forall_mem_cons.mp fits
    rw [pack, List.map_cons, List.sum_cons, Nat.pow_add]
    calc field.number + 2 ^ field.bits * pack fields
        < 2 ^ field.bits * (pack fields + 1) := by
          rw [Nat.mul_add, Nat.mul_one, Nat.add_comm]
          exact Nat.add_lt_add_left small _
      _ ≤ 2 ^ field.bits * 2 ^ (fields.map bits).sum := Nat.mul_le_mul_left _ (ih others)

theorem pack_flags (flags : List Bool) : pack (flags.map flag) = bitsValue flags := by
  induction flags with
  | nil => rfl
  | cons first flags ih =>
    rw [List.map_cons, pack, ih]
    rfl

theorem fits_flag (value : Bool) : (flag value).Fits := Bool.toNat_lt value

end BitField

/-- A number of so many octets in which others stand side by side. -/
structure Word where
  place : Nat
  width : Nat
  fields : List BitField

namespace Word
variable {whole : List UInt8} {word : Word}

def Fits (word : Word) : Prop := ∀ field ∈ word.fields, field.Fits

instance (word : Word) : Decidable word.Fits :=
  inferInstanceAs (Decidable (∀ field ∈ word.fields, field.Fits))

/-- The octets at the place of the word, taken apart at the sizes of its fields, spell their numbers. -/
def Kept (whole : List UInt8) (word : Word) : Prop :=
  ∃ numeral : List UInt8, numeral.length = word.width ∧ StandsAt whole word.place numeral ∧
    BitField.unpack (word.fields.map BitField.bits) (beValue numeral) =
      word.fields.map BitField.number

theorem Kept.fits (kept : word.Kept whole) : word.Fits := by
  obtain ⟨_, _, _, numbers⟩ := kept
  exact BitField.fits_of_unpack numbers

def length (length offset : Nat) : Word := ⟨offset + 2, 2, [⟨16, length⟩]⟩

theorem length_le {length offset : Nat} (fits : (Word.length length offset).Fits) : length ≤ 65535 :=
  Nat.le_of_lt_succ (fits _ List.mem_cons_self)

end Word

abbrev KeptAt : List UInt8 → (Nat → List Word) → Prop := HoldsAt Word.Kept

theorem keptAt_pack {before width : Nat} {fields : List BitField} (front back : List UInt8)
    (parts : octets = front ++ beOctets width (BitField.pack fields) ++ back)
    (before_eq : front.length = before) (fits : ∀ field ∈ fields, field.Fits)
    (room : (fields.map BitField.bits).sum ≤ 8 * width) :
    KeptAt octets fun offset => [⟨offset + before, width, fields⟩] := by
  intro whole offset _ stands
  rw [parts, standsAt_append, standsAt_append, before_eq] at stands
  have small : BitField.pack fields < numeralCount width := by
    rw [numeralCount_eq, ← Nat.pow_mul 2 8 width]
    exact Nat.lt_of_lt_of_le (BitField.pack_lt fits) (Nat.pow_le_pow_right (by decide) room)
  refine List.forall_mem_singleton.mpr ⟨_, length_beOctets .., stands.1.2, ?_⟩
  rw [beValue_beOctets_of_lt small]
  exact BitField.unpack_pack fits

theorem keptAt_number {before width number : Nat} (front back : List UInt8)
    (parts : octets = front ++ beOctets width number ++ back) (before_eq : front.length = before)
    (fits : number < 2 ^ (8 * width)) :
    KeptAt octets fun offset => [⟨offset + before, width, [⟨8 * width, number⟩]⟩] := by
  have alone : BitField.pack [⟨8 * width, number⟩] = number := Nat.add_zero _
  exact keptAt_pack front back (by rwa [alone]) before_eq (List.forall_mem_singleton.mpr fits)
    (Nat.le_refl _)

theorem keptAt_record {code : UInt16} {value : List UInt8} (fits : value.length ≤ 65535) :
    KeptAt (tlvOctets code value) fun offset => [.length value.length offset] :=
  keptAt_number (word16 code) _ rfl (length_word16 code) (Nat.lt_succ_of_le fits)

/-! ## Parts of TLVs -/

namespace PathSetupTypeCapability
variable {capability : PathSetupTypeCapability}

def words (capability : PathSetupTypeCapability) (offset : Nat) : List Word :=
  ⟨offset + 3, 1, [⟨8, capability.types.length⟩]⟩ ::
    capability.recordItems (fun record offset => [.length record.value.length offset]) offset

theorem keptAt_words (checked : capability.check = none) :
    KeptAt capability.octets capability.words := by
  have few := (Tlv.pathSetupTypeCheck_eq_none.mp checked).1
  refine HoldsAt.cons ?_ (holdsAt_recordItems (fun _ => keptAt_record) checked)
  rw [octets, List.append_assoc]
  exact keptAt_number [0, 0, 0] _ rfl rfl (Nat.lt_succ_of_le few)

theorem check_of_fits {offset : Nat} (fits : ∀ word ∈ capability.words offset, word.Fits) :
    capability.check = none := by
  obtain ⟨few, records⟩ := List.forall_mem_cons.mp fits
  refine Tlv.pathSetupTypeCheck_eq_none.mpr
    ⟨Nat.le_of_lt_succ (few _ List.mem_cons_self), fun record member => ?_⟩
  obtain ⟨place, found⟩ := exists_subset_endToEnd member _
  exact Word.length_le (records _ (found List.mem_cons_self))

end PathSetupTypeCapability

theorem VendorInformation.script_of_fits {information : VendorInformation} {offset : Nat}
    (fits : ∀ word ∈ information.recordItems
      (fun record offset => [.length record.value.length offset]) offset, Word.Fits word) :
    ∃ octets, information.script.toExcept = .ok octets := by
  obtain ⟨enterprise, payload⟩ := information
  cases payload with
  | unstructured others => exact ⟨_, Tlv.vendorScript_ok.mpr ⟨others, rfl, rfl⟩⟩
  | subTlvs records =>
    have small : ∀ record ∈ records, record.value.length ≤ 65535 := by
      intro record member
      obtain ⟨place, found⟩ := exists_subset_endToEnd member (offset + 4)
      exact Word.length_le (fits _ (found List.mem_cons_self))
    exact ⟨_, Tlv.vendorScript_ok.mpr ⟨_, rfl, small, rfl⟩⟩

namespace RsvpErrorSpec

def words : RsvpErrorSpec → (offset : Nat) → List Word
  | errorSpec node flags code value => fun offset =>
    [⟨offset, 2, [⟨16, (errorSpec node flags code value).valueLength⟩]⟩]
  | userErrorSpec spec => fun offset =>
    [⟨offset, 2, [⟨16, (userErrorSpec spec).valueLength⟩]⟩,
      ⟨offset + 9, 1, [⟨8, spec.description.length⟩]⟩]

theorem keptAt_words {spec : RsvpErrorSpec} (checked : spec.check = none)
    (fits : spec.valueLength ≤ 65535) : KeptAt spec.octets spec.words := by
  have length : KeptAt spec.octets fun offset => [⟨offset + 0, 2, [⟨16, spec.valueLength⟩]⟩] :=
    keptAt_number [] _ rfl rfl (Nat.lt_succ_of_le fits)
  cases spec with
  | errorSpec node flags code value => exact length
  | userErrorSpec spec =>
    have short : spec.description.length ≤ 255 := by
      rw [check, ite_eq_right_iff] at checked
      exact Nat.le_of_not_lt fun long => by cases checked long
    refine length.cons (keptAt_number (beOctets 2 (userErrorSpec spec).valueLength ++ [194, 1] ++
      word32 spec.enterprise ++ [spec.subOrganisation]) (word16 spec.value ++
      padOctets spec.description ++ spec.subobjects) ?_ rfl (Nat.lt_succ_of_le short))
    simp only [octets, beOctets, List.append_assoc, List.cons_append, List.nil_append]

theorem check_of_fits {spec : RsvpErrorSpec} {offset : Nat}
    (fits : ∀ word ∈ spec.words offset, word.Fits) : spec.check = none := by
  cases spec with
  | errorSpec => rfl
  | userErrorSpec spec =>
    have description := fits _ (List.mem_cons_of_mem _ List.mem_cons_self)
    exact if_neg (Nat.not_lt_of_le (Nat.le_of_lt_succ (description _ List.mem_cons_self)))

end RsvpErrorSpec

namespace BindingValue

def words : BindingValue → (offset : Nat) → List Word
  | mplsLabel label => fun offset => [⟨offset, 3, [⟨4, 0⟩, ⟨20, label.toNat⟩]⟩]
  | mplsLabelEntry label trafficClass bottomOfStack ttl => fun offset =>
    [⟨offset, 4,
      [⟨8, ttl.toNat⟩, .flag bottomOfStack, ⟨3, trafficClass.toNat⟩, ⟨20, label.toNat⟩]⟩]
  | srv6 _ | srv6Behavior .. => fun _ => []

theorem keptAt_words {value : BindingValue} (checked : value.check = none) :
    KeptAt value.octets value.words := by
  cases value with
  | srv6 | srv6Behavior => exact holdsAt_nil
  | mplsLabel label =>
    have bound := Tlv.mplsLabel_check.mp checked
    have word : label.toNat * 16 = BitField.pack [⟨4, 0⟩, ⟨20, label.toNat⟩] := by
      simp only [BitField.pack]
      omega
    refine keptAt_pack [] [] ?_ rfl (List.forall_mem_cons.mpr ⟨Nat.two_pow_pos 4,
      List.forall_mem_singleton.mpr (Nat.lt_succ_of_le bound)⟩) (Nat.le_refl 24)
    rw [octets, word, List.append_nil, List.nil_append]
  | mplsLabelEntry label trafficClass bottomOfStack ttl =>
    obtain ⟨labelBound, classBound⟩ := Tlv.mplsLabelEntry_check.mp checked
    have word : label.toNat * 4096 + trafficClass.toNat * 512 + bottomOfStack.toNat * 256 +
        ttl.toNat = BitField.pack
          [⟨8, ttl.toNat⟩, .flag bottomOfStack, ⟨3, trafficClass.toNat⟩, ⟨20, label.toNat⟩] := by
      simp only [BitField.pack, BitField.flag]
      omega
    refine keptAt_pack [] [] ?_ rfl ?_ (Nat.le_refl 32)
    · rw [octets, word, List.append_nil, List.nil_append]
    · simp only [List.forall_mem_cons, BitField.fits_flag, true_and]
      exact ⟨ttl.toNat_lt, Nat.lt_succ_of_le classBound, Nat.lt_succ_of_le labelBound,
        List.forall_mem_nil _⟩

theorem check_of_fits {value : BindingValue} {offset : Nat}
    (fits : ∀ word ∈ value.words offset, word.Fits) : value.check = none := by
  cases value with
  | srv6 | srv6Behavior => rfl
  | mplsLabel label =>
    have fields := List.forall_mem_cons.mp (fits _ List.mem_cons_self)
    exact Tlv.mplsLabel_check.mpr (Nat.le_of_lt_succ (fields.2 _ List.mem_cons_self))
  | mplsLabelEntry label trafficClass bottomOfStack ttl =>
    obtain ⟨-, fields⟩ := List.forall_mem_cons.mp (fits _ List.mem_cons_self)
    obtain ⟨-, fields⟩ := List.forall_mem_cons.mp fields
    obtain ⟨small, fields⟩ := List.forall_mem_cons.mp fields
    exact Tlv.mplsLabelEntry_check.mpr
      ⟨Nat.le_of_lt_succ (fields _ List.mem_cons_self), Nat.le_of_lt_succ small⟩

end BindingValue

def PathBinding.words (binding : PathBinding) (offset : Nat) : List Word :=
  binding.value.words (offset + 4)

namespace Tlv
variable {tlv : Tlv}

def valueWords : Tlv → (offset : Nat) → List Word
  | vendorInformation information =>
    information.recordItems fun record offset => [.length record.value.length offset]
  | rsvpErrorSpec spec => spec.words
  | pathSetupTypeCapability capability => capability.words
  | pathBinding binding => binding.words
  | _ => fun _ => []

def words (registry : Registry) (tlv : Tlv) : (offset : Nat) → List Word :=
  tlv.items registry (.length tlv.valueLength) tlv.valueWords

theorem keptAt_valueWords (checked : tlv.check = none) (fits : tlv.valueLength ≤ 65535)
    (written : tlv.valueScript.toExcept = .ok octets) : KeptAt octets tlv.valueWords := by
  cases tlv with
  | vendorInformation information =>
    exact VendorInformation.holdsAt_recordItems (fun _ => keptAt_record) written
  | rsvpErrorSpec spec =>
    rw [Script.emit_ok.mp written]
    exact RsvpErrorSpec.keptAt_words checked fits
  | pathSetupTypeCapability capability =>
    rw [Script.emit_ok.mp written]
    exact PathSetupTypeCapability.keptAt_words checked
  | pathBinding binding =>
    rw [Script.emit_ok.mp written]
    exact (BindingValue.keptAt_words checked).behind rfl (by decide)
  | _ => exact holdsAt_nil

theorem keptAt_words (written : (tlv.script registry).failure = none) :
    KeptAt (tlv.script registry).octets (tlv.words registry) := by
  refine holdsAt_items (fun value checked fits length found => ⟨?_, ?_⟩) written
  · rw [← length]
    exact keptAt_record (by rwa [length])
  · exact keptAt_valueWords checked fits found

theorem check_of_fits {offset : Nat} (fits : ∀ word ∈ tlv.valueWords offset, word.Fits) :
    tlv.check = none := by
  cases tlv with
  | rsvpErrorSpec spec => exact RsvpErrorSpec.check_of_fits fits
  | pathSetupTypeCapability capability => exact PathSetupTypeCapability.check_of_fits fits
  | pathBinding binding => exact BindingValue.check_of_fits fits
  | _ => rfl

theorem valueScript_of_fits {offset : Nat} (fits : ∀ word ∈ tlv.valueWords offset, word.Fits) :
    ∃ octets, tlv.valueScript.toExcept = .ok octets := by
  cases tlv with
  | vendorInformation information => exact VendorInformation.script_of_fits fits
  | _ => exact ⟨_, rfl⟩

theorem script_of_fits (fits : ∀ word ∈ tlv.words registry 0, word.Fits) :
    (tlv.script registry).failure = none := by
  cases registered : tlv.isRegistered registry with
  | false => rw [script_of_unregistered registered, Script.failure_done]
  | true =>
    rw [words, items, if_pos registered, List.forall_mem_cons] at fits
    obtain ⟨value, found⟩ := valueScript_of_fits fits.2
    exact (Script.toExcept_ok.mp ((script_ok registered).mpr
      ⟨check_of_fits fits.2, Word.length_le fits.1, value, found, rfl⟩)).1

end Tlv

/-! ## Subobjects -/

def Word.subobjectLength (length offset : Nat) : Word := ⟨offset + 1, 1, [⟨8, length⟩]⟩

theorem Subobject.keptAt_header {flag : Bool} {code : UInt8} {length : Nat} {contents : List UInt8}
    (fits : length ≤ 255) :
    KeptAt (header flag code length ++ contents) fun offset => [.subobjectLength length offset] :=
  keptAt_number [_] contents rfl rfl (Nat.lt_succ_of_le fits)

def EroSubobject.words (subobject : EroSubobject) (offset : Nat) : List Word :=
  [.subobjectLength subobject.length offset]

theorem EroSubobject.keptAt_words {subobject : EroSubobject}
    (written : (subobject.script registry).failure = none) :
    KeptAt (subobject.script registry).octets subobject.words := by
  obtain ⟨-, -, fits, contents, -, parts⟩ := script_ok.mp (Script.toExcept_of_failure written)
  rw [parts]
  exact Subobject.keptAt_header fits

def XroSubobject.words (subobject : XroSubobject) (offset : Nat) : List Word :=
  [.subobjectLength subobject.length offset]

theorem XroSubobject.keptAt_words {subobject : XroSubobject}
    (written : (subobject.script registry).failure = none) :
    KeptAt (subobject.script registry).octets subobject.words := by
  obtain ⟨-, fits, parts⟩ := script_ok.mp (Script.toExcept_of_failure written)
  rw [parts, XroValue.length_octets]
  exact Subobject.keptAt_header fits

def RroSubobject.words (registry : Registry) (subobject : RroSubobject) : (offset : Nat) → List Word :=
  subobject.items registry (.subobjectLength (2 + subobject.valueLength))

theorem RroSubobject.keptAt_words {subobject : RroSubobject}
    (written : (subobject.script registry).failure = none) :
    KeptAt (subobject.script registry).octets (subobject.words registry) := by
  refine holdsAt_items (fun contents fits _ parts => ?_) written
  rw [parts]
  exact Subobject.keptAt_header fits

/-! ## Bodies -/

def partWords (registry : Registry) : PartItems Word where
  tlv := Tlv.words registry
  vendorSubTlv record offset := [.length record.value.length offset]
  ero := EroSubobject.words
  rro := RroSubobject.words registry
  xro := XroSubobject.words

theorem partWords_kept (registry : Registry) : (partWords registry).Hold registry Word.Kept where
  tlv _ := Tlv.keptAt_words
  vendorSubTlv _ := keptAt_record
  ero _ := EroSubobject.keptAt_words
  rro _ := RroSubobject.keptAt_words
  xro _ := XroSubobject.keptAt_words

def OpeningBody.fields (body : OpeningBody) : List BitField :=
  [⟨5, body.flags.toNat⟩, ⟨3, protocolVersion.toNat⟩]

def RequestParametersBody.fields (body : RequestParametersBody) : List BitField :=
  ⟨3, body.priority.toNat⟩ :: [body.reoptimization, body.bidirectional, body.loose, body.vspt,
    body.supplyObjectiveFunction, body.pathKey, body.reportOrder, body.makeBeforeBreak,
    body.eroCompression, body.p2mp, body.fragmentation].map .flag

def LspBody.fields (body : LspBody) : List BitField :=
  [.flag body.delegate, .flag body.sync, .flag body.remove, .flag body.administrative,
    ⟨3, (CodePoint.code body.operational).toNat⟩, .flag body.create, ⟨4, 0⟩,
    ⟨20, body.plspId.toNat⟩]

theorem OpeningBody.keptAt_fields {body : OpeningBody} (small : body.flags.toNat ≤ 31) :
    KeptAt (ObjectBody.fixedPart (.opening body)) fun offset => [⟨offset, 1, body.fields⟩] := by
  have word : protocolVersion.toNat * 32 + body.flags.toNat = BitField.pack body.fields := by
    simp only [fields, BitField.pack]
    omega
  refine keptAt_pack [] [body.keepalive, body.deadTimer, body.sessionId] ?_ rfl
    (List.forall_mem_cons.mpr ⟨Nat.lt_succ_of_le small, List.forall_mem_singleton.mpr (by decide)⟩)
    (Nat.le_refl 8)
  rw [ObjectBody.fixedPart, word]
  rfl

theorem RequestParametersBody.keptAt_fields {body : RequestParametersBody}
    (small : body.priority.toNat ≤ 7) :
    KeptAt (ObjectBody.fixedPart (.requestParameters body)) fun offset =>
      [⟨offset, 4, body.fields⟩] := by
  refine keptAt_pack [] (word32 body.requestId) ?_ rfl (List.forall_mem_cons.mpr
    ⟨Nat.lt_succ_of_le small, List.forall_mem_map.mpr fun value _ => BitField.fits_flag value⟩)
    (by decide : 14 ≤ 32)
  rw [fields, BitField.pack, BitField.pack_flags, ObjectBody.fixedPart, flags,
    Nat.mod_eq_of_lt (Nat.lt_succ_of_le small)]
  rfl

theorem LspBody.keptAt_fields {body : LspBody} (small : body.plspId.toNat ≤ 0xFFFFF) :
    KeptAt (ObjectBody.fixedPart (.lsp body)) fun offset => [⟨offset, 4, body.fields⟩] := by
  have operational : (CodePoint.code body.operational).toNat < 2 ^ 3 := by
    cases body.operational <;> decide
  have word : body.word = BitField.pack body.fields := by
    simp only [word, fields, BitField.pack, BitField.flag, bitsValue]
    omega
  refine keptAt_pack [] [] ?_ rfl ?_ (Nat.le_refl 32)
  · rw [ObjectBody.fixedPart, word, List.append_nil, List.nil_append]
  · simp only [fields, List.forall_mem_cons, BitField.fits_flag, true_and]
    exact ⟨operational, Nat.two_pow_pos 4, Nat.lt_succ_of_le small, List.forall_mem_nil _⟩

namespace ObjectBody

def fixedWords : ObjectBody → (offset : Nat) → List Word
  | opening body => fun offset => [⟨offset, 1, body.fields⟩]
  | requestParameters body => fun offset => [⟨offset, 4, body.fields⟩]
  | lsp body => fun offset => [⟨offset, 4, body.fields⟩]
  | _ => fun _ => []

/-- The priority of a request is none that its three bits cannot hold. -/
def PriorityFits : ObjectBody → Prop
  | requestParameters body => body.priority.toNat ≤ 7
  | _ => True

theorem keptAt_fixedWords {body : ObjectBody} (checked : body.check = none)
    (priority : body.PriorityFits) : KeptAt body.fixedPart body.fixedWords := by
  cases body with
  | opening body => exact body.keptAt_fields (openingCheck.mp checked)
  | requestParameters body => exact body.keptAt_fields priority
  | lsp body => exact body.keptAt_fields (lspCheck.mp checked)
  | _ => exact holdsAt_nil

end ObjectBody

/-! ## Objects -/

def RequestParametersBody.shortened (body : RequestParametersBody) : RequestParametersBody :=
  { body with priority := body.priority % 8 }

theorem RequestParametersBody.flags_shortened (body : RequestParametersBody) :
    body.shortened.flags = body.flags := by
  have priority : (body.priority % 8).toNat % 8 = body.priority.toNat % 8 := by
    rw [UInt8.toNat_mod]
    exact Nat.mod_mod _ _
  rw [flags, flags, ← priority]
  rfl

namespace ObjectBody

def shortened : ObjectBody → ObjectBody
  | requestParameters body => .requestParameters body.shortened
  | body => body

theorem priorityFits_shortened (body : ObjectBody) : body.shortened.PriorityFits := by
  cases body with
  | requestParameters body =>
    have low : (body.priority % 8).toNat = body.priority.toNat % 8 := UInt8.toNat_mod ..
    exact Nat.le_of_lt_succ (low ▸ Nat.mod_lt _ (by decide))
  | _ => trivial

theorem fixedPart_shortened (body : ObjectBody) : body.shortened.fixedPart = body.fixedPart := by
  cases body with
  | requestParameters body => rw [shortened, fixedPart, body.flags_shortened]; rfl
  | _ => rfl

theorem tail_shortened (body : ObjectBody) : body.shortened.tail = body.tail := by
  cases body <;> rfl

end ObjectBody

namespace ObjectValue

def shortened : ObjectValue → ObjectValue
  | known body => .known body.shortened
  | unknown body => .unknown body

theorem script_shortened (registry : Registry) (value : ObjectValue) :
    value.shortened.script registry = value.script registry := by
  cases value with
  | unknown body => rfl
  | known body => rw [shortened, script, body.fixedPart_shortened, body.tail_shortened]; rfl

def words (registry : Registry) : ObjectValue → (offset : Nat) → List Word
  | known body => fun offset =>
    body.fixedWords offset ++ body.items registry (partWords registry) offset
  | unknown _ => fun _ => []

def PriorityFits : ObjectValue → Prop
  | known body => body.PriorityFits
  | unknown _ => True

theorem keptAt_words {value : ObjectValue} (checked : value.check = none)
    (priority : value.PriorityFits) (written : (value.script registry).toExcept = .ok octets) :
    KeptAt octets (value.words registry) := by
  cases value with
  | unknown _ => exact holdsAt_nil
  | known body =>
    have behind := ObjectBody.holdsAt_items (partWords_kept registry) written
    obtain ⟨back, -, rfl⟩ := Script.emit_append_ok.mp written
    exact ((ObjectBody.keptAt_fixedWords checked priority).ahead back).append behind

end ObjectValue

namespace Object
variable {object : Object}

def typeFields (object : Object) : List BitField :=
  [.flag object.flags.ignore, .flag object.flags.processingRule, ⟨2, 0⟩,
    ⟨4, object.value.codes.objectType.toNat⟩]

def words (registry : Registry) (object : Object) (offset : Nat) : List Word :=
  ⟨offset + 1, 1, object.typeFields⟩ :: .length (object.length registry) offset ::
    object.value.words registry (offset + 4)

theorem keptAt_words (priority : object.value.PriorityFits)
    (written : (object.script registry).failure = none) :
    KeptAt (object.script registry).octets (object.words registry) := by
  obtain ⟨-, fits, checked, contents, -, parts⟩ :=
    script_ok.mp (Script.toExcept_of_failure written)
  have small := ObjectValue.objectType_le checked
  have type : object.value.codes.objectType.toNat * 16 + object.flags.value =
      BitField.pack object.typeFields := by
    simp only [typeFields, BitField.pack, BitField.flag, ObjectFlags.value, bitsValue]
    omega
  have inside := holdsAt_value (fun _ => ObjectValue.keptAt_words checked priority) written
  generalize contents ++ zeros (padding (object.unpaddedLength registry)) = back at parts
  refine HoldsAt.cons ?_ (HoldsAt.cons ?_ inside)
  · refine keptAt_pack [object.value.codes.objectClass]
      (beOctets 2 (object.length registry) ++ back) ?_ rfl ?_ (Nat.le_refl 8)
    · rw [parts, header, type, List.append_assoc]
      rfl
    · simp only [typeFields, List.forall_mem_cons, BitField.fits_flag, true_and]
      exact ⟨Nat.two_pow_pos 2, Nat.lt_succ_of_le small, List.forall_mem_nil _⟩
  · exact keptAt_number _ _ parts rfl (Nat.lt_succ_of_le fits)

def shortened (object : Object) : Object :=
  { object with value := object.value.shortened }

theorem script_shortened (registry : Registry) (object : Object) :
    object.shortened.script registry = object.script registry := by
  obtain ⟨flags, value⟩ := object
  have contents := value.script_shortened registry
  cases value with
  | unknown _ => rfl
  | known body =>
    cases body with
    | requestParameters body =>
      -- Class, length and checks do not look at the priority; only the contents do.
      rw [script, script]
      dsimp only [shortened]
      rw [contents]
      rfl
    | _ => rfl

theorem priorityFits_shortened (object : Object) : object.shortened.value.PriorityFits := by
  obtain ⟨flags, value⟩ := object
  cases value with
  | known body => exact body.priorityFits_shortened
  | unknown _ => trivial

theorem priorityFits_of_kept
    (kept : ∀ word ∈ object.words registry 0, word.Kept octets) : object.value.PriorityFits := by
  obtain ⟨flags, value⟩ := object
  cases value with
  | unknown _ => trivial
  | known body =>
    cases body with
    | requestParameters body =>
      have word : (⟨4, 4, body.fields⟩ : Word).Kept octets :=
        kept _ (List.mem_cons_of_mem _ (List.mem_cons_of_mem _ List.mem_cons_self))
      exact Nat.le_of_lt_succ (word.fits _ List.mem_cons_self)
    | _ => trivial

end Object

/-! ## The statement -/

/-- A script fails if a number does not fit into its word, and where it runs to its end, all words are
kept. -/
structure WritesWhole {ε : Type} (script : Script ε) (words : List Word) : Prop where
  failed : (∃ word ∈ words, ¬word.Fits) → ∃ error, script.failure = some error
  kept : ∀ octets, script.run none = (octets, none) → ∀ word ∈ words, word.Kept octets

theorem writesWhole {ε : Type} {script : Script ε} {words : Nat → List Word}
    (each : script.failure = none → KeptAt script.octets words) : WritesWhole script (words 0) where
  failed := by
    rintro ⟨word, member, wide⟩
    refine Option.ne_none_iff_exists'.mp fun runs => ?_
    exact wide (each runs rfl (standsAt_zero _) word member).fits
  kept octets written := by
    obtain ⟨runs, rfl⟩ := Script.toExcept_ok.mp (Script.run_none_iff.mp written)
    exact each runs rfl (standsAt_zero _)

/-- Every number that has fewer bits on the wire than in memory is written whole or not at all, but for
the priority of a request. A request is written as one whose priority has only the lowest three bits,
so its words are kept if and only if there are no others. A TLV whose numbers all fit is written. -/
theorem narrow_numbers_whole (registry : Registry) :
    (∀ object : Object, object.value.PriorityFits →
      WritesWhole (object.script registry) (object.words registry 0)) ∧
    (∀ object : Object, object.shortened.value.PriorityFits ∧
      object.shortened.script registry = object.script registry) ∧
    (∀ (object : Object) (octets : List UInt8),
      (∀ word ∈ object.words registry 0, word.Kept octets) → object.value.PriorityFits) ∧
    ∀ tlv : Tlv, WritesWhole (tlv.script registry) (tlv.words registry 0) ∧
      ((∀ word ∈ tlv.words registry 0, word.Fits) → (tlv.script registry).failure = none) :=
  ⟨fun _ priority => writesWhole (Object.keptAt_words priority),
    fun object => ⟨object.priorityFits_shortened, object.script_shortened registry⟩,
    fun _ _ => Object.priorityFits_of_kept,
    fun _ => ⟨writesWhole Tlv.keptAt_words, Tlv.script_of_fits⟩⟩

/-- A request of priority 8, of which three bits hold nothing. -/
def Object.urgent : Object where
  flags := ⟨false, false⟩
  value := .known (.requestParameters ⟨8, false, false, false, false, false, false, false, false, false,
    false, false, 7, {}⟩)

def Object.urgentOctets : List UInt8 := [2, 16, 0, 12, 0, 0, 0, 0, 0, 0, 0, 7]

theorem narrow_numbers_whole_urgent :
    (Object.urgent.script .full).run none = (Object.urgentOctets, none) ∧
      (∀ word ∈ Object.urgent.shortened.words .full 0, word.Kept Object.urgentOctets) ∧
      (¬∀ word ∈ Object.urgent.words .full 0, word.Kept Object.urgentOctets) ∧
      (∃ error, ((Tlv.pathBinding ⟨false, .mplsLabel 0x100000⟩).script .full).failure = some error) ∧
      ((Tlv.pathBinding ⟨false, .mplsLabel 0xFFFFF⟩).script .full).failure = none := by
  have written : (Object.urgent.script .full).run none = (Object.urgentOctets, none) := by
    decide +kernel
  obtain ⟨fitting, shortened, kept, tlvs⟩ := narrow_numbers_whole .full
  obtain ⟨priority, same⟩ := shortened Object.urgent
  refine ⟨written, ?_, fun all => ?_, ?_, (tlvs _).2 (by decide +kernel)⟩
  · exact (fitting _ priority).kept _ (same ▸ written)
  · exact absurd (kept _ _ all) (by decide : ¬8 ≤ 7)
  · exact (tlvs _).1.failed ⟨⟨8, 3, _⟩, List.mem_cons_of_mem _ List.mem_cons_self, by decide⟩

theorem not_failed_of_wide :
    ¬∀ (registry : Registry) (object : Object), object.value.isRegistered registry = true →
      (∃ word ∈ object.words registry 0, ¬word.Fits) →
        ∃ error, (object.script registry).failure = some error := by
  intro failed
  have written : (Object.urgent.script .full).failure = none := by decide +kernel
  obtain ⟨error, stopped⟩ := failed .full Object.urgent (by decide +kernel)
    ⟨⟨4, 4, _⟩, List.mem_cons_of_mem _ (List.mem_cons_of_mem _ List.mem_cons_self), by decide⟩
  rw [written] at stopped
  cases stopped

end RouteWire.Pcep
