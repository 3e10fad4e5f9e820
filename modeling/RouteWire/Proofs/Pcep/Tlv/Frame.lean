import Mathlib.Order.Nat
import RouteWire.Pcep.Tlv.Decode
import RouteWire.Pcep.Tlv.Encode
import RouteWire.Proofs.Framing
import RouteWire.Proofs.Writing
/-!
Frames of TLVs, and what is nothing but words or records. A record is padded to four octets when it is
written, while the last padding of what is read may be cut short, so lengths are compared after
padding.

Main statements: `cutsOff_tlvOctets`, `tlvLength_of_cut`, `readVendorInformation_script`,
`vendor_of_read`.
-/
namespace RouteWire.Pcep
open Framing Reader
variable {slice rest : Slice} {octets : List UInt8}

theorem length_tlvOctets (code : UInt16) (value : List UInt8) :
    (tlvOctets code value).length = tlvLength value.length := by
  simp only [tlvOctets, tlvLength, List.length_append, length_word16, length_beOctets,
    length_padOctets, padded, padding]
  omega

theorem padded_mono {m n : Nat} (le : m ≤ n) : padded m ≤ padded n := by
  simp only [padded, padding]
  omega

theorem padded_of_mod {n : Nat} (whole : n % 4 = 0) : padded n = n := by
  simp only [padded, padding]
  omega

theorem padding_of_mod {n : Nat} (whole : n % 4 = 0) : padding n = 0 :=
  padding_eq_zero_iff.mpr whole

theorem padding_four_add (n : Nat) : padding (4 + n) = padding n := by
  rw [padding, padding, Nat.add_mod_left]

theorem tlvLength_le {m n : Nat} (le : m ≤ padded n) : tlvLength m ≤ tlvLength n := by
  simp only [tlvLength, padded, padding] at le ⊢
  omega

namespace Tlv

theorem cut_ok {frame : Frame UInt16} (found : framing.cut slice = .ok (frame, rest)) :
    frame.value.octets.length ≤ 65535 ∧ ∃ behind,
      slice.octets.length = 4 + frame.value.octets.length + behind ∧
        rest.octets.length = behind - padding frame.value.octets.length := by
  simp only [framing] at found
  split at found
  · cases found
  · next header behind cut =>
    split at found
    · cases found
    · next value after cutValue =>
      cases found
      obtain ⟨whole, length, -, -⟩ := Slice.octets_of_split? cut
      obtain ⟨wholeBehind, lengthValue, -, -⟩ := Slice.octets_of_split? cutValue
      have bound : beValue (header.octets.drop 2) < 256 ^ 2 :=
        beValue_lt_pow (by rw [List.length_drop, length])
      dsimp only
      refine ⟨by omega, after.octets.length, ?_, ?_⟩
      · rw [whole, wholeBehind, List.length_append, List.length_append, length, Nat.add_assoc]
      · rw [Slice.skip, List.length_drop, lengthValue]

theorem tlvLength_of_cut {frame : Frame UInt16} (found : framing.cut slice = .ok (frame, rest)) :
    tlvLength frame.value.octets.length + padded rest.octets.length ≤
      padded slice.octets.length := by
  obtain ⟨-, behind, whole, left⟩ := cut_ok found
  simp only [whole, left, tlvLength, padded, padding]
  omega

theorem le_tlvLength_of_cut {frame : Frame UInt16} (found : framing.cut slice = .ok (frame, rest)) :
    slice.octets.length ≤ tlvLength frame.value.octets.length + rest.octets.length := by
  obtain ⟨-, behind, whole, left⟩ := cut_ok found
  rw [whole, left]
  simp only [tlvLength, padded, padding]
  omega

theorem cutsOff_tlvOctets {code : UInt16} {value : List UInt8} {passes : Frame UInt16 → Prop}
    (fits : value.length ≤ 65535)
    (each : ∀ start offset, passes ⟨start, code, ⟨offset, value⟩⟩) :
    CutsOff framing (tlvOctets code value) passes := by
  intro offset others
  refine ⟨_, ?_, each ⟨offset, tlvOctets code value ++ others⟩ (offset + 4)⟩
  have header : (word16 code ++ beOctets 2 value.length).length = 4 := by simp
  have front : (word16 code ++ beOctets 2 value.length).take 2 = word16 code :=
    List.take_left' (length_word16 code)
  have back : (word16 code ++ beOctets 2 value.length).drop 2 = beOctets 2 value.length :=
    List.drop_left' (length_word16 code)
  have length : beValue (beOctets 2 value.length) = value.length :=
    beValue_beOctets_of_lt (Nat.lt_succ_of_le fits)
  have split : Slice.split? ⟨offset, tlvOctets code value ++ others⟩ 4 =
      some (⟨offset, word16 code ++ beOctets 2 value.length⟩,
        ⟨offset + 4, value ++ (zeros (padding value.length) ++ others)⟩) := by
    rw [Slice.split?_eq_some_iff]
    refine ⟨?_, header, rfl, rfl⟩
    simp only [tlvOctets, padOctets, List.append_assoc]
  have code_eq : UInt16.ofNat code.toNat = code := UInt16.ofNat_toNat
  simp only [framing, split, back, length, front, beValue_word16, code_eq, Slice.split?_append]
  have total := length_tlvOctets code value
  simp only [tlvLength, padded, padding] at total
  simp only [Slice.skip, Except.ok.injEq, Prod.mk.injEq, Slice.mk.injEq, true_and]
  have skipped : (zeros (padding value.length) ++ others).take (padding value.length) =
      zeros (padding value.length) := List.take_left' (length_zeros _)
  rw [skipped, length_zeros]
  refine ⟨?_, List.drop_left' (length_zeros _)⟩
  rw [padding]
  omega

theorem exactLength_ok {kind : TlvKind} {length : Nat} {value : Unit} :
    exactLength kind length slice = .ok (value, rest) ↔ slice.octets.length = length ∧ rest = slice :=
  exactly_ok

theorem leastLength_ok {kind : TlvKind} {length : Nat} {value : Unit} :
    leastLength kind length slice = .ok (value, rest) ↔ length ≤ slice.octets.length ∧ rest = slice :=
  atLeast_ok

theorem wholeEntries_ok {kind : TlvKind} {entry : Nat} {value : Unit} :
    wholeEntries kind entry slice = .ok (value, rest) ↔
      slice.octets.length % entry = 0 ∧ rest = slice :=
  multipleOf_ok

theorem readWord_ok {kind : TlvKind} {word : UInt32} :
    readWord kind slice = .ok (word, rest) ↔
      slice.octets.length = 4 ∧ Behind slice (word32 word) rest := by
  simp only [readWord, Reader.bind_ok, exactLength_ok, word32_ok]
  constructor
  · rintro ⟨_, _, ⟨length, rfl⟩, behind⟩
    exact ⟨length, behind⟩
  · rintro ⟨length, behind⟩
    exact ⟨(), _, ⟨length, rfl⟩, behind⟩

theorem readWords_flatMap {kind : TlvKind} {words : List UInt16}
    (whole : slice.octets = words.flatMap word16) :
    ∃ after, readWords kind slice = .ok (words, after) := by
  have entries : slice.octets.length % 2 = 0 := by
    rw [whole, length_flatMap_of_width length_word16, Nat.mul_mod_right]
  have found : ∃ after, (Reader.many 2 fun octets => UInt16.ofNat (beValue octets)) slice =
      (.ok (words, after) : Except (Failure TlvReadError) _) :=
    many_flatMap (by decide) length_word16 ofNat_beValue_word16 whole
  obtain ⟨after, found⟩ := found
  exact ⟨after, Reader.bind_ok.mpr ⟨(), _, wholeEntries_ok.mpr ⟨entries, rfl⟩, found⟩⟩

theorem length_of_readWords {kind : TlvKind} {words : List UInt16}
    (found : readWords kind slice = .ok (words, rest)) : 2 * words.length ≤ slice.octets.length := by
  simp only [readWords, Reader.bind_ok, wholeEntries_ok] at found
  obtain ⟨_, _, ⟨-, rfl⟩, many⟩ := found
  exact length_of_many_le many

end Tlv

/-! ## Information of enterprises -/

/-- The information is in records if that of its enterprise is registered, else it is not. -/
def VendorInformation.Structured (registry : Registry) (information : VendorInformation) : Prop :=
  match information.payload with
  | .subTlvs _ => registry.hasVendor information.enterprise = true
  | .unstructured _ => registry.hasVendor information.enterprise = false

def VendorInformation.uncut (information : VendorInformation) : List UInt8 :=
  match information.payload with
  | .subTlvs _ => []
  | .unstructured octets => octets

theorem VendorInformation.valueLength_subTlvs (enterprise : UInt32) (records : List VendorSubTlv) :
    (⟨enterprise, .subTlvs records⟩ : VendorInformation).valueLength =
      4 + (records.map fun record => tlvLength record.value.length).sum := rfl

theorem VendorInformation.valueLength_mod (information : VendorInformation) :
    information.valueLength % 4 = information.uncut.length % 4 := by
  obtain ⟨enterprise, payload⟩ := information
  cases payload with
  | subTlvs records =>
    have sum : (records.map fun record => tlvLength record.value.length).sum % 4 = 0 :=
      sum_mod_of_mem fun _ _ => padded_mod _
    rw [valueLength_subTlvs, Nat.add_mod_left, sum]
    rfl
  | unstructured octets => exact Nat.add_mod_left 4 octets.length

namespace Tlv
variable {registry : Registry} {information : VendorInformation}

theorem readVendorSubTlvs_flatMap {records : List VendorSubTlv}
    (fits : ∀ record ∈ records, record.value.length ≤ 65535) (offset : Nat) :
    ∃ after, readVendorSubTlvs
        ⟨offset, records.flatMap fun record => tlvOctets record.code record.value⟩ =
      .ok (records, after) := by
  have whole : readVendorSubTlvs _ = .ok (records.map id, _) := readAll_flatMap
    (fun record member => cutsOff_tlvOctets (fits record member) fun start offset => rfl) offset
  rw [List.map_id] at whole
  exact ⟨_, whole⟩

theorem vendorScript_ok :
    information.script.toExcept = .ok octets ↔ ∃ back, octets = word32 information.enterprise ++ back ∧
      match information.payload with
      | .subTlvs records => (∀ record ∈ records, record.value.length ≤ 65535) ∧
          back = records.flatMap fun record => tlvOctets record.code record.value
      | .unstructured payload => back = payload := by
  have record_ok (record : VendorSubTlv) (octets : List UInt8) :
      (if 65535 < record.value.length then
          (.fail (.valueLengthOverflow record.value.length) : Script TlvWriteError)
        else .emit (tlvOctets record.code record.value)).toExcept = .ok octets ↔
      record.value.length ≤ 65535 ∧ octets = tlvOctets record.code record.value := by
    split
    · next long => simp [Nat.not_le_of_lt long]
    · next short => simp [Nat.le_of_not_lt short]
  rw [VendorInformation.script, Script.emit_append_ok]
  refine exists_congr fun back => and_comm.trans (and_congr_right fun _ => ?_)
  cases information.payload with
  | unstructured payload => exact Script.emit_ok
  | subTlvs records =>
    dsimp only
    rw [Script.concat_map_ok]
    constructor
    · rintro ⟨runs, rfl⟩
      have each := fun record member =>
        (record_ok record _).mp (Script.toExcept_of_failure (runs record member))
      exact ⟨fun record member => (each record member).1,
        List.flatMap_congr fun record member => (each record member).2⟩
    · rintro ⟨fits, rfl⟩
      have each := fun record member =>
        Script.toExcept_ok.mp ((record_ok record _).mpr ⟨fits record member, rfl⟩)
      exact ⟨fun record member => (each record member).1,
        List.flatMap_congr fun record member => (each record member).2.symm⟩

theorem length_vendorScript (written : information.script.toExcept = .ok octets) :
    octets.length = information.valueLength := by
  obtain ⟨back, rfl, payload⟩ := vendorScript_ok.mp written
  rw [List.length_append, length_word32, VendorInformation.valueLength]
  cases found : information.payload with
  | unstructured others =>
    rw [found] at payload
    rw [payload]
  | subTlvs records =>
    rw [found] at payload
    rw [payload.2]
    exact congrArg (4 + ·) (length_flatMap_eq fun record _ => length_tlvOctets ..)

theorem readVendorInformation_script (structured : information.Structured registry)
    (written : information.script.toExcept = .ok octets) (behind : Behind slice octets rest)
    (nothing : rest.octets = []) :
    ∃ after, readVendorInformation registry slice = .ok (information, after) := by
  obtain ⟨back, rfl, payload⟩ := vendorScript_ok.mp written
  obtain ⟨mid, enterprise, contents⟩ := behind_append_iff.mp behind
  have least : 4 ≤ slice.octets.length := by
    rw [enterprise.length, length_word32]
    exact Nat.le_add_right ..
  have whole : mid = ⟨mid.offset, back⟩ := by rw [← List.append_nil back, ← nothing, ← contents.1]
  obtain ⟨number, payloadKind⟩ := information
  simp only [readVendorInformation, Reader.bind_ok, leastLength_ok, word32_ok]
  cases payloadKind with
  | subTlvs records =>
    obtain ⟨fits, rfl⟩ := payload
    obtain ⟨after, found⟩ := readVendorSubTlvs_flatMap fits mid.offset
    rw [← whole] at found
    refine ⟨after, (), _, ⟨least, rfl⟩, _, mid, enterprise, ?_⟩
    have registered : registry.hasVendor number = true := structured
    simp only [registered, if_true]
    exact Reader.bind_ok.mpr ⟨_, _, found, rfl⟩
  | unstructured payload =>
    subst payload
    refine ⟨mid.finish, (), _, ⟨least, rfl⟩, _, mid, enterprise, ?_⟩
    have unregistered : registry.hasVendor number = false := structured
    simp only [unregistered, Bool.false_eq_true, if_false]
    exact Reader.bind_ok.mpr ⟨_, _, remaining_ok.mpr ⟨by rw [whole], rfl⟩, rfl⟩

theorem vendor_of_read (found : readVendorInformation registry slice = .ok (information, rest)) :
    information.Structured registry ∧ information.script.failure = none ∧
      information.valueLength ≤ padded slice.octets.length := by
  simp only [readVendorInformation, Reader.bind_ok, leastLength_ok, word32_ok] at found
  obtain ⟨_, _, ⟨least, rfl⟩, enterprise, mid, front, found⟩ := found
  have length := front.length
  rw [length_word32] at length
  split at found
  · next registered =>
    simp only [Reader.bind_ok, pure_ok] at found
    obtain ⟨records, after, found, rfl, rfl⟩ := found
    have fits : ∀ record ∈ records, record.value.length ≤ 65535 := by
      refine forall_mem_of_readAll ?_ found
      rintro slice rest frame record cut ⟨⟩
      exact (cut_ok cut).1
    have sum : (records.map fun record => tlvLength record.value.length).sum ≤
        padded mid.octets.length := by
      refine sum_le_of_readAll padded ?_ found
      rintro slice rest frame record cut ⟨⟩
      exact tlvLength_of_cut cut
    have written : (⟨enterprise, .subTlvs records⟩ : VendorInformation).script.toExcept = .ok _ :=
      vendorScript_ok.mpr ⟨_, rfl, fits, rfl⟩
    refine ⟨registered, (Script.toExcept_ok.mp written).1, ?_⟩
    rw [VendorInformation.valueLength_subTlvs, length]
    -- The records start behind four octets, so the slice needs the same padding as they do.
    simp only [padded, padding] at sum ⊢
    omega
  · next unregistered =>
    simp only [Reader.bind_ok, remaining_ok, pure_ok] at found
    obtain ⟨payload, after, ⟨rfl, rfl⟩, rfl, rfl⟩ := found
    have written : (⟨enterprise, .unstructured mid.octets⟩ : VendorInformation).script.toExcept =
        .ok _ := vendorScript_ok.mpr ⟨_, rfl, rfl⟩
    refine ⟨Bool.eq_false_iff.mpr unregistered, (Script.toExcept_ok.mp written).1, ?_⟩
    rw [VendorInformation.valueLength, length, padded]
    exact Nat.le_add_right ..

/-- Octets that are kept as they are fill whole groups if those they were read from do, and records
always do. -/
theorem valueLength_mod_of_read (whole : slice.octets.length % 4 = 0)
    (found : readVendorInformation registry slice = .ok (information, rest)) :
    information.valueLength % 4 = 0 := by
  simp only [readVendorInformation, Reader.bind_ok, leastLength_ok, word32_ok] at found
  obtain ⟨_, _, ⟨least, rfl⟩, enterprise, mid, front, found⟩ := found
  have length := front.length
  rw [length_word32] at length
  rw [VendorInformation.valueLength_mod]
  split at found
  · simp only [Reader.bind_ok, pure_ok] at found
    obtain ⟨records, after, -, rfl, rfl⟩ := found
    rfl
  · simp only [Reader.bind_ok, remaining_ok, pure_ok] at found
    obtain ⟨payload, after, ⟨rfl, rfl⟩, rfl, rfl⟩ := found
    show mid.octets.length % 4 = 0
    omega

end Tlv
end RouteWire.Pcep
