import RouteWire.Proofs.Pcep.Logging
import RouteWire.Proofs.Pcep.Registry
import RouteWire.Proofs.Pcep.Tlv.Part
/-!
TLVs, written and read. A TLV that is written is read back, unless its code is not registered, and then
nothing is written. A TLV that was read can be written, and is not longer than the frame it was read
from with its padding.

Main statements: `scanAll_script`, `tlv_of_frame`, `tlvs_of_scan`.
-/
namespace RouteWire.Pcep.Tlv
open Framing Reader
variable {registry : Registry} {slice rest : Slice} {octets : List UInt8} {tlv : Tlv}

/-- What reading needs to find besides the octets: the information of an enterprise is in records just
where the registry says so, and a record without meaning does not have the code of one with a meaning. -/
def Readable (registry : Registry) : Tlv → Prop
  | vendorInformation information => information.Structured registry
  | pathSetupTypeCapability capability => ∀ record ∈ capability.subTlvs, record.Recognizable
  | _ => True

theorem length_valueScript (written : tlv.valueScript.toExcept = .ok octets) :
    octets.length = tlv.valueLength := by
  cases tlv with
  | vendorInformation information => exact length_vendorScript written
  | rsvpErrorSpec spec =>
    rw [valueScript, Script.emit_ok] at written
    rw [written, length_rsvpErrorSpec, valueLength]
  | pathSetupTypeCapability capability =>
    rw [valueScript, Script.emit_ok] at written
    rw [written, length_pathSetupTypeCapability, valueLength]
  | pathBinding binding =>
    rw [valueScript, Script.emit_ok] at written
    rw [written, length_pathBinding, valueLength]
  | objectiveFunctionList codes | associationTypeList codes =>
    rw [valueScript, Script.emit_ok] at written
    rw [written, length_flatMap_of_width length_word16, valueLength]
  | associationRanges ranges =>
    rw [valueScript, Script.emit_ok] at written
    rw [written, length_flatMap_of_width length_range, valueLength]
  | _ =>
    rw [valueScript, Script.emit_ok] at written
    simp [written, valueLength, length_capability, LspIdentifiers.octets]

theorem readValue_script (readable : tlv.Readable registry) (checked : tlv.check = none)
    (fits : tlv.valueLength ≤ 65535) (written : tlv.valueScript.toExcept = .ok octets)
    (behind : Behind slice octets rest) (nothing : rest.octets = []) :
    ∃ after, readValue registry tlv.kind slice = .ok (tlv, after) := by
  have length := length_of_behind behind nothing
  rw [length_valueScript written] at length
  cases tlv with
  | vendorInformation information =>
    obtain ⟨after, found⟩ := readVendorInformation_script readable written behind nothing
    exact ⟨after, Reader.bind_ok.mpr ⟨_, _, found, rfl⟩⟩
  | rsvpErrorSpec spec =>
    rw [valueScript, Script.emit_ok] at written
    rw [written] at behind
    obtain ⟨after, found⟩ := readRsvpErrorSpec_octets checked fits behind nothing
    exact ⟨after, Reader.bind_ok.mpr ⟨_, _, found, rfl⟩⟩
  | pathSetupTypeCapability capability =>
    rw [valueScript, Script.emit_ok] at written
    rw [written] at behind
    obtain ⟨after, found⟩ := readPathSetupTypeCapability_octets checked readable behind nothing
    exact ⟨after, Reader.bind_ok.mpr ⟨_, _, found, rfl⟩⟩
  | pathBinding binding =>
    rw [valueScript, Script.emit_ok] at written
    rw [written] at behind
    exact ⟨_, Reader.bind_ok.mpr ⟨_, _, readPathBinding_octets checked behind nothing, rfl⟩⟩
  | objectiveFunctionList codes =>
    rw [valueScript, Script.emit_ok] at written
    have whole := behind.1
    rw [written, nothing, List.append_nil] at whole
    obtain ⟨after, found⟩ := readWords_flatMap whole
    exact ⟨after, Reader.bind_ok.mpr ⟨_, _, found, rfl⟩⟩
  | associationTypeList types =>
    rw [valueScript, Script.emit_ok] at written
    have whole := behind.1
    rw [written, nothing, List.append_nil] at whole
    obtain ⟨after, found⟩ := readWords_flatMap whole
    exact ⟨after, Reader.bind_ok.mpr ⟨_, _, found, rfl⟩⟩
  | associationRanges ranges =>
    rw [valueScript, Script.emit_ok] at written
    have whole := behind.1
    rw [written, nothing, List.append_nil] at whole
    have found : ∃ after, Reader.many 8 rangeOfOctets slice =
        (.ok (ranges, after) : Except (Failure TlvReadError) _) :=
      many_flatMap (by decide) length_range rangeOfOctets_octets whole
    obtain ⟨after, found⟩ := found
    have entries : slice.octets.length % 8 = 0 := by
      rw [length, valueLength, Nat.mul_mod_right]
    simp only [kind, readValue, Reader.bind_ok]
    exact ⟨after, (), _, wholeEntries_ok.mpr ⟨entries, rfl⟩, _, _, found, rfl⟩
  | statefulPceCapability capability =>
    rw [valueScript, Script.emit_ok] at written
    rw [written] at behind
    exact ⟨_, Reader.bind_ok.mpr ⟨_, _, readStatefulPceCapability_octets behind nothing, rfl⟩⟩
  | ipv4LspIdentifiers identifiers =>
    rw [valueScript, Script.emit_ok] at written
    rw [written] at behind
    simp only [kind, readValue, Reader.bind_ok]
    exact ⟨_, (), _, exactLength_ok.mpr ⟨length, rfl⟩, _, _,
      (readLspIdentifiers_ok ipv4_ok).mpr behind, rfl⟩
  | ipv6LspIdentifiers identifiers =>
    rw [valueScript, Script.emit_ok] at written
    rw [written] at behind
    simp only [kind, readValue, Reader.bind_ok]
    exact ⟨_, (), _, exactLength_ok.mpr ⟨length, rfl⟩, _, _,
      (readLspIdentifiers_ok ipv6_ok).mpr behind, rfl⟩
  | noPathVector vector =>
    rw [valueScript, Script.emit_ok] at written
    rw [written] at behind
    exact ⟨_, Reader.bind_ok.mpr ⟨_, _, readWord_ok.mpr ⟨length, behind⟩, rfl⟩⟩
  | overloadDuration word | requestMissing word | lspErrorCode word =>
    rw [valueScript, Script.emit_ok] at written
    rw [written] at behind
    exact ⟨_, Reader.bind_ok.mpr ⟨_, _, readWord_ok.mpr ⟨length, behind⟩, rfl⟩⟩
  | order delete setup =>
    rw [valueScript, Script.emit_ok] at written
    rw [written, behind_append_iff] at behind
    obtain ⟨_, first, second⟩ := behind
    simp only [kind, readValue, Reader.bind_ok]
    exact ⟨_, (), _, exactLength_ok.mpr ⟨length, rfl⟩, _, _, word32_ok.mpr first, _, _,
      word32_ok.mpr second, rfl⟩
  | symbolicPathName octets | speakerEntityId octets =>
    rw [valueScript, Script.emit_ok] at written
    rw [written] at behind
    exact ⟨_, Reader.bind_ok.mpr ⟨_, _, remaining_iff.mpr ⟨behind, nothing⟩, rfl⟩⟩
  | lspDbVersion version =>
    rw [valueScript, Script.emit_ok] at written
    rw [written] at behind
    simp only [kind, readValue, Reader.bind_ok]
    exact ⟨_, (), _, exactLength_ok.mpr ⟨length, rfl⟩, _, _, word64_ok.mpr behind, rfl⟩
  | pathSetupType type =>
    rw [valueScript, Script.emit_ok] at written
    have split : ([0, 0, 0, type] : List UInt8) = [0, 0, 0] ++ [type] := rfl
    rw [written, split, behind_append_iff] at behind
    obtain ⟨_, reserved, last⟩ := behind
    simp only [kind, readValue, Reader.bind_ok]
    exact ⟨_, (), _, exactLength_ok.mpr ⟨length, rfl⟩, _, _, take_ok.mpr ⟨rfl, reserved⟩, _, _,
      octet_ok.mpr last, rfl⟩

theorem length_of_exact {n : Nat} (length : slice.octets.length = n) : n ≤ padded slice.octets.length :=
  length ▸ Nat.le_add_right ..

theorem tlv_of_read {kind : TlvKind} (found : readValue registry kind slice = .ok (tlv, rest)) :
    tlv.kind = kind ∧ tlv.Readable registry ∧ tlv.check = none ∧ tlv.valueScript.failure = none ∧
      tlv.valueLength ≤ padded slice.octets.length := by
  cases kind with
  | vendorInformation =>
    simp only [readValue, Reader.bind_ok, pure_ok] at found
    obtain ⟨information, _, found, rfl, rfl⟩ := found
    obtain ⟨structured, writes, length⟩ := vendor_of_read found
    exact ⟨rfl, structured, rfl, writes, length⟩
  | rsvpErrorSpec =>
    simp only [readValue, Reader.bind_ok, pure_ok] at found
    obtain ⟨spec, _, found, rfl, rfl⟩ := found
    obtain ⟨checked, length⟩ := rsvpErrorSpec_of_read found
    exact ⟨rfl, trivial, checked, rfl, length_of_exact length.symm⟩
  | pathSetupTypeCapability =>
    simp only [readValue, Reader.bind_ok, pure_ok] at found
    obtain ⟨capability, _, found, rfl, rfl⟩ := found
    obtain ⟨checked, recognizable, length⟩ := pathSetupTypeCapability_of_read found
    exact ⟨rfl, recognizable, checked, rfl, length⟩
  | pathBinding =>
    simp only [readValue, Reader.bind_ok, pure_ok] at found
    obtain ⟨binding, _, found, rfl, rfl⟩ := found
    obtain ⟨checked, length⟩ := pathBinding_of_read found
    exact ⟨rfl, trivial, checked, rfl, length_of_exact length.symm⟩
  | objectiveFunctionList | associationTypeList =>
    simp only [readValue, Reader.bind_ok, pure_ok] at found
    obtain ⟨words, _, found, rfl, rfl⟩ := found
    exact ⟨rfl, trivial, rfl, rfl, Nat.le_add_right_of_le (length_of_readWords found)⟩
  | associationRanges =>
    simp only [readValue, Reader.bind_ok, wholeEntries_ok, pure_ok] at found
    obtain ⟨_, _, ⟨-, rfl⟩, ranges, _, found, rfl, rfl⟩ := found
    exact ⟨rfl, trivial, rfl, rfl, Nat.le_add_right_of_le (length_of_many_le found)⟩
  | statefulPceCapability =>
    simp only [readValue, Reader.bind_ok, pure_ok] at found
    obtain ⟨capability, _, found, rfl, rfl⟩ := found
    exact ⟨rfl, trivial, rfl, rfl, length_of_exact (length_of_readStatefulPceCapability found)⟩
  | ipv4LspIdentifiers | ipv6LspIdentifiers =>
    simp only [readValue, Reader.bind_ok, exactLength_ok, pure_ok] at found
    obtain ⟨_, _, ⟨length, rfl⟩, _, _, -, rfl, rfl⟩ := found
    exact ⟨rfl, trivial, rfl, rfl, length_of_exact length⟩
  | noPathVector | overloadDuration | requestMissing | lspErrorCode =>
    simp only [readValue, Reader.bind_ok, pure_ok] at found
    obtain ⟨word, _, found, rfl, rfl⟩ := found
    exact ⟨rfl, trivial, rfl, rfl, length_of_exact (readWord_ok.mp found).1⟩
  | order =>
    simp only [readValue, Reader.bind_ok, exactLength_ok, pure_ok] at found
    obtain ⟨_, _, ⟨length, rfl⟩, _, _, -, _, _, -, rfl, rfl⟩ := found
    exact ⟨rfl, trivial, rfl, rfl, length_of_exact length⟩
  | symbolicPathName | speakerEntityId =>
    simp only [readValue, Reader.bind_ok, remaining_ok, pure_ok] at found
    obtain ⟨_, _, ⟨rfl, rfl⟩, rfl, rfl⟩ := found
    exact ⟨rfl, trivial, rfl, rfl, length_of_exact rfl⟩
  | lspDbVersion =>
    simp only [readValue, Reader.bind_ok, exactLength_ok, pure_ok] at found
    obtain ⟨_, _, ⟨length, rfl⟩, _, _, -, rfl, rfl⟩ := found
    exact ⟨rfl, trivial, rfl, rfl, length_of_exact length⟩
  | pathSetupType =>
    simp only [readValue, Reader.bind_ok, exactLength_ok, pure_ok] at found
    obtain ⟨_, _, ⟨length, rfl⟩, _, _, -, _, _, -, rfl, rfl⟩ := found
    exact ⟨rfl, trivial, rfl, rfl, length_of_exact length⟩

/-! ## Sequences of TLVs -/

theorem lengthCheck_eq_none {length : Nat} : lengthCheck length = none ↔ length ≤ 65535 := by
  rw [lengthCheck]
  split
  · next long => simp [Nat.not_le_of_lt long]
  · next short => simp [Nat.le_of_not_lt short]

theorem script_ok (registered : tlv.isRegistered registry = true) :
    (tlv.script registry).toExcept = .ok octets ↔
      tlv.check = none ∧ tlv.valueLength ≤ 65535 ∧ ∃ value,
        tlv.valueScript.toExcept = .ok value ∧ octets = tlvOctets tlv.code value := by
  rw [script, if_pos registered, Script.check_append_ok, Script.check_append_ok,
    lengthCheck_eq_none, Script.emit_append_ok]
  simp only [Script.append_ok, Script.emit_ok]
  refine and_congr_right fun _ => and_congr_right fun _ => ?_
  constructor
  · rintro ⟨_, ⟨value, _, written, rfl, rfl⟩, rfl⟩
    refine ⟨value, written, ?_⟩
    rw [tlvOctets, padOctets, length_valueScript written]
  · rintro ⟨value, written, rfl⟩
    refine ⟨_, ⟨value, _, written, rfl, rfl⟩, ?_⟩
    rw [tlvOctets, padOctets, length_valueScript written]

theorem script_of_unregistered (absent : tlv.isRegistered registry = false) :
    tlv.script registry = .done := by
  rw [script, absent, if_neg Bool.false_ne_true]

theorem length_script (written : (tlv.script registry).failure = none) :
    (tlv.script registry).octets.length = tlv.length registry := by
  rw [length]
  split
  · next registered =>
    obtain ⟨-, -, value, found, whole⟩ :=
      (script_ok registered).mp (Script.toExcept_of_failure written)
    rw [whole, length_tlvOctets, length_valueScript found]
  · next absent =>
    rw [script_of_unregistered (Bool.eq_false_iff.mpr absent)]
    rfl

theorem length_mod (registry : Registry) (tlv : Tlv) : tlv.length registry % 4 = 0 := by
  rw [length]
  split
  · exact padded_mod _
  · rfl

theorem cutsOff_script (canonical : registry.Canonical)
    (registered : tlv.isRegistered registry = true) (readable : tlv.Readable registry)
    (written : (tlv.script registry).failure = none) :
    CutsOff framing (tlv.script registry).octets fun frame =>
      ofFrame registry frame = (∅, .ok (some tlv)) := by
  obtain ⟨checked, fits, value, found, whole⟩ :=
    (script_ok registered).mp (Script.toExcept_of_failure written)
  have length := length_valueScript found
  rw [whole]
  refine cutsOff_tlvOctets (by rwa [length]) fun start offset => ?_
  have read : ∃ after, readValue registry tlv.kind ⟨offset, value⟩ = .ok (tlv, after) :=
    readValue_script readable checked fits found behind_whole rfl
  rw [records_ofFrame.apply]
  dsimp only [code]
  rw [canonical.tlv?_eq registered]
  dsimp only
  rw [inside_ok.mpr read]

theorem tlv_of_frame (canonical : registry.Canonical) {frame : Frame UInt16} {ignored : Ignored}
    (found : ofFrame registry frame = (ignored, .ok (some tlv))) :
    tlv.Readable registry ∧ tlv.isRegistered registry = true ∧
      tlv.length registry ≤ tlvLength frame.value.octets.length ∧
      (padded frame.value.octets.length ≤ 65535 → (tlv.script registry).failure = none) := by
  rw [records_ofFrame.apply] at found
  split at found
  · cases found
  · next kind known =>
    split at found
    · cases found
    · next value inside =>
      cases found
      obtain ⟨_, read⟩ := inside_ok.mp inside
      obtain ⟨rfl, readable, checked, writes, fits⟩ := tlv_of_read read
      have code : CodePoint.code tlv.kind = frame.header := canonical.tlvs _ _ known
      have registered : tlv.isRegistered registry = true := by
        rw [isRegistered, Tlv.code, code, known]
        rfl
      refine ⟨readable, registered, ?_, fun short => ?_⟩
      · rw [length, if_pos registered]
        exact tlvLength_le fits
      · have written := (script_ok registered).mpr
          ⟨checked, Nat.le_trans fits short, _, Script.toExcept_of_failure writes, rfl⟩
        exact (Script.toExcept_ok.mp written).1

theorem scanAll_script (canonical : registry.Canonical) {tlvs : List Tlv} {offset : Nat}
    (readable : ∀ tlv ∈ tlvs, tlv.Readable registry)
    (written : (scriptAll registry tlvs).toExcept = .ok octets) :
    scanAll registry ⟨offset, octets⟩ =
      (∅, .ok (tlvs.filter (isRegistered registry), ⟨offset + octets.length, []⟩)) := by
  obtain ⟨runs, rfl⟩ := Script.concat_map_ok.mp written
  have skipped (tlv : Tlv) (absent : tlv.isRegistered registry = false) :
      (tlv.script registry).octets = [] := by
    rw [script_of_unregistered absent]
    rfl
  have cutsOff : ∀ tlv ∈ tlvs.filter (isRegistered registry),
      CutsOff framing (tlv.script registry).octets fun frame =>
        ofFrame registry frame = (∅, .ok (some tlv)) := by
    intro tlv member
    obtain ⟨member, registered⟩ := List.mem_filter.mp member
    exact cutsOff_script canonical registered (readable _ member) (runs _ member)
  have whole := Scan.elements_flatMap cutsOff offset
  rwa [flatMap_filter_of_skipped skipped, List.filterMap_some] at whole

theorem length_scriptAll {tlvs : List Tlv} (written : (scriptAll registry tlvs).toExcept = .ok octets) :
    octets.length = totalLength registry tlvs := by
  obtain ⟨runs, rfl⟩ := Script.concat_map_ok.mp written
  exact length_flatMap_eq fun tlv member => length_script (runs tlv member)

theorem tlvs_of_scan (canonical : registry.Canonical) {tlvs : List Tlv} {ignored : Ignored}
    (short : padded slice.octets.length ≤ 65535)
    (found : scanAll registry slice = (ignored, .ok (tlvs, rest))) :
    (∀ tlv ∈ tlvs, tlv.Readable registry ∧ tlv.isRegistered registry = true ∧
      (tlv.script registry).failure = none) ∧
      totalLength registry tlvs ≤ padded slice.octets.length := by
  constructor
  · refine Scan.forall_mem_of_elements (Nat.le_refl _) ?_ found
    intro inner rest frame ignored tlv shorter cut answer
    obtain ⟨-, behind, whole, -⟩ := cut_ok cut
    have smaller : frame.value.octets.length ≤ slice.octets.length := by omega
    obtain ⟨readable, registered, -, writes⟩ := tlv_of_frame canonical answer
    exact ⟨readable, registered, writes (Nat.le_trans (padded_mono smaller) short)⟩
  · refine Scan.sum_le_of_elements padded ?_ ?_ found
    · intro slice rest frame cut
      exact padded_mono (Nat.le_of_lt (framing.shrinks cut))
    · intro slice rest frame ignored tlv cut answer
      obtain ⟨-, -, fits, -⟩ := tlv_of_frame canonical answer
      exact Nat.le_trans (Nat.add_le_add_right fits _) (tlvLength_of_cut cut)

end RouteWire.Pcep.Tlv
