import RouteWire.Proofs.Pcep.Refusal
/-!
TLVs that are read and written again. A list of records may end without padding when it is read, and is
padded when it is written. So a value that is such a list grows to a multiple of four octets, and all
other values keep their length or lose octets that were not looked at. A length that fits its field is
outgrown just by a list of more than 65532 octets.

Main statement: `rewritten_unless_overgrown`.
-/
namespace RouteWire.Pcep.Tlv
open Framing Reader
variable {registry : Registry} {slice rest : Slice} {tlv : Tlv}

/-! ## Lengths of lists of records -/

/-- The value is a list of records, perhaps with something in front. -/
def Nested : Tlv → Prop
  | vendorInformation ⟨_, .subTlvs _⟩ => True
  | pathSetupTypeCapability _ => True
  | _ => False

theorem valueLength_of_vendor {information : VendorInformation}
    (found : readVendorInformation registry slice = .ok (information, rest)) :
    ((vendorInformation information).Nested →
      slice.octets.length ≤ information.valueLength ∧ information.valueLength % 4 = 0) ∧
    (¬(vendorInformation information).Nested → information.valueLength = slice.octets.length) := by
  simp only [readVendorInformation, Reader.bind_ok, leastLength_ok, word32_ok] at found
  obtain ⟨_, _, ⟨-, rfl⟩, enterprise, mid, front, found⟩ := found
  have length := front.length
  rw [length_word32] at length
  split at found
  · simp only [Reader.bind_ok, pure_ok] at found
    obtain ⟨records, after, found, rfl, rfl⟩ := found
    refine ⟨fun _ => ⟨?_, VendorInformation.valueLength_mod _⟩, fun other => absurd trivial other⟩
    have long : mid.octets.length ≤ (records.map fun record => tlvLength record.value.length).sum := by
      refine le_sum_of_readAll ?_ found
      rintro slice rest frame record cut ⟨⟩
      exact le_tlvLength_of_cut cut
    rw [VendorInformation.valueLength_subTlvs, length]
    exact Nat.add_le_add_left long 4
  · simp only [Reader.bind_ok, remaining_ok, pure_ok] at found
    obtain ⟨payload, after, ⟨rfl, rfl⟩, rfl, rfl⟩ := found
    refine ⟨False.elim, fun _ => ?_⟩
    rw [VendorInformation.valueLength, length]

theorem valueLength_of_pathSetupTypeCapability {capability : PathSetupTypeCapability}
    (found : readPathSetupTypeCapability slice = .ok (capability, rest)) :
    slice.octets.length ≤ capability.valueLength ∧ capability.valueLength % 4 = 0 := by
  simp only [readPathSetupTypeCapability, Reader.bind_ok, leastLength_ok, take_ok, pure_ok] at found
  obtain ⟨_, _, ⟨-, rfl⟩, count, _, peeked, _, _, ⟨-, rfl⟩, _, _, ⟨size, header⟩, types, _,
    ⟨number, second⟩, _, mid, ⟨paddingLength, third⟩, records, _, all, rfl, rfl⟩ := found
  obtain ⟨-, rfl⟩ := peekCount_ok.mp peeked
  have whole : (records.map fun record => tlvLength record.valueLength).sum % 4 = 0 :=
    sum_mod_of_mem fun _ _ => padded_mod _
  have long : mid.octets.length ≤ (records.map fun record => tlvLength record.valueLength).sum := by
    refine le_sum_of_readAll ?_ all
    intro slice rest frame record cut answer
    rw [(setupTypeSubTlv_of_frame answer).2]
    exact le_tlvLength_of_cut cut
  rw [valueLength_pathSetupTypeCapability, header.length, second.length, third.length, size,
    paddingLength, ← number]
  simp only [padded, padding]
  omega

theorem read_of_make {α : Type} {reader : Reader TlvReadError α} {make : α → Tlv} {value : α}
    (injective : ∀ {first second : α}, make first = make second → first = second)
    (found : (reader >>= fun value => pure (make value)) slice = .ok (make value, rest)) :
    reader slice = .ok (value, rest) := by
  obtain ⟨_, _, found, made⟩ := Reader.bind_ok.mp found
  obtain ⟨same, rfl⟩ := pure_ok.mp made
  rw [injective same]
  exact found

theorem valueLength_of_read {kind : TlvKind} (fits : slice.octets.length ≤ 65535)
    (found : readValue registry kind slice = .ok (tlv, rest)) :
    (tlv.Nested → tlv.valueLength = padded slice.octets.length) ∧
      (¬tlv.Nested → tlv.valueLength ≤ 65535) := by
  obtain ⟨rfl, -, -, -, atMost⟩ := tlv_of_read found
  -- A list is written in whole words, and it is at most one word longer than what was read.
  have exactly (long : slice.octets.length ≤ tlv.valueLength) (whole : tlv.valueLength % 4 = 0) :
      tlv.valueLength = padded slice.octets.length := by
    simp only [padded, padding] at atMost ⊢
    omega
  cases tlv with
  | vendorInformation information =>
    obtain ⟨nested, flat⟩ := valueLength_of_vendor (read_of_make vendorInformation.inj found)
    exact ⟨fun is => exactly (nested is).1 (nested is).2, fun other => (flat other).trans_le fits⟩
  | pathSetupTypeCapability capability =>
    obtain ⟨long, whole⟩ :=
      valueLength_of_pathSetupTypeCapability (read_of_make pathSetupTypeCapability.inj found)
    exact ⟨fun _ => exactly long whole, fun other => absurd trivial other⟩
  | rsvpErrorSpec spec =>
    have same := (rsvpErrorSpec_of_read (read_of_make rsvpErrorSpec.inj found)).2
    exact ⟨False.elim, fun _ => same.trans_le fits⟩
  | pathBinding binding =>
    have same := (pathBinding_of_read (read_of_make pathBinding.inj found)).2
    exact ⟨False.elim, fun _ => same.trans_le fits⟩
  | objectiveFunctionList codes =>
    have atMost := length_of_readWords (read_of_make objectiveFunctionList.inj found)
    exact ⟨False.elim, fun _ => atMost.trans fits⟩
  | associationTypeList types =>
    have atMost := length_of_readWords (read_of_make associationTypeList.inj found)
    exact ⟨False.elim, fun _ => atMost.trans fits⟩
  | symbolicPathName octets =>
    obtain ⟨rfl, -⟩ := remaining_ok.mp (read_of_make symbolicPathName.inj found)
    exact ⟨False.elim, fun _ => fits⟩
  | speakerEntityId octets =>
    obtain ⟨rfl, -⟩ := remaining_ok.mp (read_of_make speakerEntityId.inj found)
    exact ⟨False.elim, fun _ => fits⟩
  | associationRanges ranges =>
    simp only [kind, readValue, Reader.bind_ok, wholeEntries_ok, pure_ok] at found
    obtain ⟨_, _, ⟨-, rfl⟩, _, _, found, same, rfl⟩ := found
    cases same
    exact ⟨False.elim, fun _ => (length_of_many_le found).trans fits⟩
  | _ =>
    refine ⟨False.elim, fun _ => ?_⟩
    rw [valueLength]
    decide

/-! ## Reading one TLV -/

def declaredLength (octets : List UInt8) : Nat := beValue ((octets.drop 2).take 2)

theorem declaredLength_octets {wire : WireTlv} (fits : wire.value.length ≤ 65535) (others : List UInt8) :
    declaredLength (wire.octets ++ others) = wire.value.length := by
  have front : (wire.octets ++ others).drop 2 =
      beOctets 2 wire.value.length ++ (wire.value ++ wire.padding ++ others) := by
    simp only [WireTlv.octets, List.append_assoc]
    exact List.drop_left' (length_word16 _)
  rw [declaredLength, front, List.take_left' (length_beOctets ..)]
  exact beValue_beOctets_of_lt (Nat.lt_succ_of_le fits)

theorem wire_of_scan {ignored : Ignored} (found : scan registry slice = (ignored, .ok (some tlv, rest))) :
    ∃ wire : WireTlv, wire.value.length ≤ 65535 ∧ slice.octets = wire.octets ++ rest.octets ∧
      wire.Decodes registry tlv := by
  obtain ⟨frame, cut, answer⟩ := Scan.element_ok.mp found
  obtain ⟨wire, ⟨fits, -⟩, -, whole, shown⟩ := WireTlv.of_cut cut
  obtain ⟨-, decoded⟩ := WireTlv.ofFrame_shown shown answer
  cases known : wire.isKnown registry with
  | false =>
    rw [known] at decoded
    cases decoded
  | true =>
    rw [known] at decoded
    obtain ⟨_, ⟨⟩, decodes⟩ := decoded
    exact ⟨wire, fits, whole, decodes⟩

/-! ## The statement -/

/-- A TLV that was read is written again and read back, unless its value is a list of records that fills
its length so far that the padding of the last record does not fit any more. Then nothing is written. -/
theorem rewritten_unless_overgrown {session later : Session} (assembled : session.registry.Assembled)
    {octets : List UInt8} (found : session.read scan octets = (.ok (some tlv, rest), later)) :
    (tlv.Nested ∧ 65532 < declaredLength octets →
      (tlv.script session.registry).run none = ([], some (.valueLengthOverflow 65536))) ∧
    (¬(tlv.Nested ∧ 65532 < declaredLength octets) → ∃ again,
      (tlv.script session.registry).run none = (again, none) ∧
        session.read scan again = (.ok (some tlv, ⟨again.length, []⟩), session)) := by
  have canonical := assembled.canonical
  obtain ⟨ignored, scanned, -⟩ := Session.read_ok.mp found
  obtain ⟨wire, fits, whole, kind, known, inside⟩ := wire_of_scan scanned
  have declared : declaredLength octets = wire.value.length := by
    have parts : octets = wire.octets ++ rest.octets := whole
    rw [parts, declaredLength_octets fits]
  obtain ⟨_, read⟩ := inside_ok.mp inside
  obtain ⟨rfl, readable, checked, -, -⟩ := tlv_of_read read
  obtain ⟨nested, flat⟩ := valueLength_of_read fits read
  have registered : tlv.isRegistered session.registry = true := by
    rw [isRegistered, code, canonical.tlvs _ _ known, known]
    rfl
  rw [declared]
  constructor
  · rintro ⟨is, long⟩
    have overgrown : tlv.valueLength = 65536 := by
      rw [nested is]
      simp only [Slice.whole, padded, padding]
      omega
    refine run_failed.mpr ⟨registered, ?_, rfl⟩
    rw [checked, overgrown]
    rfl
  · intro other
    have short : tlv.valueLength ≤ 65535 := by
      by_cases is : tlv.Nested
      · have room : wire.value.length ≤ 65532 := not_lt.mp fun long => other ⟨is, long⟩
        rw [nested is]
        simp only [Slice.whole, padded, padding]
        omega
      · exact flat is
    have runs := (failure_script_eq_none registered).mpr ⟨checked, short⟩
    have written := Script.toExcept_of_failure runs
    refine ⟨_, Script.run_none_iff.mpr written, ?_⟩
    have again := scan_script canonical registered readable written []
    rw [List.append_nil] at again
    exact Session.read_of_scan again

/-! ## A record without padding -/

theorem cut_bare {wire : WireTlv} (bare : wire.padding = []) (fits : wire.value.length ≤ 65535)
    (offset : Nat) :
    ∃ frame, framing.cut ⟨offset, wire.octets⟩ = .ok (frame, ⟨offset + wire.octets.length, []⟩) ∧
      WireTlv.ShownBy frame wire := by
  have short : wire.padding.length ≤ padding wire.value.length := by
    rw [bare]
    exact Nat.zero_le _
  have last : ([] : List UInt8) ≠ [] → wire.padding.length = padding wire.value.length :=
    (absurd rfl ·)
  have cut := WireTlv.cut_octets offset ⟨fits, short⟩ last
  rwa [List.append_nil] at cut

def bareRecord (record : List UInt8) : WireTlv := ⟨5, record, []⟩

/-- A capability of no setup types and one record, which ends without padding. -/
def unpadded (record : List UInt8) : WireTlv := ⟨34, [0, 0, 0, 0] ++ (bareRecord record).octets, []⟩

def ofUnpadded (record : List UInt8) : Tlv := pathSetupTypeCapability ⟨[], [.unknown 5 record]⟩

theorem length_unpadded (record : List UInt8) : (unpadded record).value.length = 8 + record.length := by
  rw [unpadded, bareRecord]
  simp only [WireTlv.octets, List.length_append, List.length_cons, List.length_nil, length_word16,
    length_beOctets]
  omega

theorem valueLength_ofUnpadded (record : List UInt8) :
    (ofUnpadded record).valueLength = 4 + tlvLength record.length := by
  have nothing : padded 0 = 0 := by decide
  show 4 + padded 0 + (tlvLength record.length + 0) = _
  rw [nothing, Nat.add_zero, Nat.add_zero]

theorem readPathSetupTypeCapability_unpadded {record : List UInt8} (short : record.length ≤ 65535)
    (offset : Nat) :
    ∃ rest, readPathSetupTypeCapability ⟨offset, (unpadded record).value⟩ =
      .ok (⟨[], [.unknown 5 record]⟩, rest) := by
  have fits : (bareRecord record).value.length ≤ 65535 := short
  obtain ⟨frame, cut, code, value⟩ := cut_bare rfl fits (offset + 4)
  have answer : readSetupTypeSubTlv frame = .ok (.unknown 5 record) := by
    rw [readSetupTypeSubTlv, code, value]
    rfl
  have records : framing.readAll readSetupTypeSubTlv ⟨offset + 4, (bareRecord record).octets⟩ =
      .ok ([.unknown 5 record], _) :=
    readAll_ok.mpr ⟨⟨[frame], .cons cut (.nil rfl), .cons answer .nil⟩, rfl⟩
  have least : 4 ≤ (unpadded record).value.length := by
    rw [length_unpadded]
    omega
  have header : Behind ⟨offset, (unpadded record).value⟩ [0, 0, 0, 0]
      ⟨offset + 4, (bareRecord record).octets⟩ := behind_append
  have nothing (slice : Slice) : Behind slice [] slice := behind_nil_iff.mpr rfl
  have count := peekCount_ok.mpr ⟨⟨[0, 0, 0], _, rfl, header⟩, rfl⟩
  simp only [readPathSetupTypeCapability, Reader.bind_ok, leastLength_ok, take_ok, pure_ok]
  exact ⟨_, (), _, ⟨least, rfl⟩, 0, _, count, (), _, ⟨least, rfl⟩, _, _, ⟨rfl, header⟩, [], _,
    ⟨rfl, nothing _⟩, [], _, ⟨rfl, nothing _⟩, _, _, records, rfl, rfl⟩

theorem scan_unpadded {record : List UInt8} (short : record.length ≤ 65527) :
    scan .full (.whole (unpadded record).octets) =
      (∅, .ok (some (ofUnpadded record), ⟨(unpadded record).octets.length, []⟩)) := by
  have fits : (unpadded record).value.length ≤ 65535 := by
    rw [length_unpadded]
    omega
  obtain ⟨⟨start, header, offset, contents⟩, cut, code, value⟩ := cut_bare rfl fits 0
  rw [Nat.zero_add] at cut
  dsimp only at code value
  subst code value
  obtain ⟨after, answer⟩ := readPathSetupTypeCapability_unpadded (short.trans (by decide)) offset
  refine Scan.element_ok.mpr ⟨_, cut, ?_⟩
  have known : Registry.full.tlv? (unpadded record).code = some .pathSetupTypeCapability := by
    show Registry.full.tlv? 34 = _
    decide +kernel
  have inside : (readValue .full .pathSetupTypeCapability).inside ⟨offset, (unpadded record).value⟩ =
      .ok (ofUnpadded record) := by
    refine inside_ok.mpr ⟨after, ?_⟩
    simp only [readValue, Reader.bind_ok, pure_ok]
    exact ⟨_, _, answer, rfl, rfl⟩
  rw [records_ofFrame.apply, known]
  dsimp only
  rw [inside]

theorem read_unpadded {record : List UInt8} (short : record.length ≤ 65527) :
    (Session.start .full).read scan (unpadded record).octets =
      (.ok (some (ofUnpadded record), ⟨(unpadded record).octets.length, []⟩), .start .full) :=
  Session.read_of_scan (scan_unpadded short)

theorem declaredLength_unpadded {record : List UInt8} (short : record.length ≤ 65527) :
    declaredLength (unpadded record).octets = 8 + record.length := by
  have fits : (unpadded record).value.length ≤ 65535 := by
    rw [length_unpadded]
    omega
  have declared := declaredLength_octets fits []
  rwa [List.append_nil, length_unpadded] at declared

theorem rewritten_unless_overgrown_unpadded :
    (∃ again, ((ofUnpadded [7]).script .full).run none = (again, none) ∧
      (Session.start .full).read scan again =
        (.ok (some (ofUnpadded [7]), ⟨again.length, []⟩), .start .full)) ∧
    ((ofUnpadded (zeros 65527)).script .full).run none = ([], some (.valueLengthOverflow 65536)) := by
  have assembled : (Session.start .full).registry.Assembled := Registry.assembled_full
  have short : [(7 : UInt8)].length ≤ 65527 := by decide
  have long : (zeros 65527).length = 65527 := length_zeros _
  obtain ⟨-, rewritten⟩ := rewritten_unless_overgrown assembled (read_unpadded short)
  obtain ⟨overgrown, -⟩ := rewritten_unless_overgrown assembled (read_unpadded long.le)
  refine ⟨rewritten ?_, overgrown ⟨trivial, ?_⟩⟩
  · intro ⟨_, most⟩
    rw [declaredLength_unpadded short] at most
    exact absurd most (by decide)
  · rw [declaredLength_unpadded long.le, long]
    decide

theorem not_rewritten_of_unpadded :
    ¬∀ (session later : Session) (octets : List UInt8) (tlv : Tlv) (rest : Slice),
      session.registry.Assembled → session.read scan octets = (.ok (some tlv, rest), later) →
        ∃ again, (tlv.script session.registry).run none = (again, none) ∧
          (session.read scan again).1 = .ok (some tlv, ⟨again.length, []⟩) := by
  intro rewritten
  have long : (zeros 65527).length = 65527 := length_zeros _
  obtain ⟨again, written, -⟩ := rewritten (.start .full) _ _ _ _ Registry.assembled_full
    (read_unpadded long.le)
  have registered : (ofUnpadded (zeros 65527)).isRegistered .full = true := by
    show (Registry.full.tlv? 34).isSome = true
    decide +kernel
  have runs := (Script.toExcept_ok.mp (Script.run_none_iff.mp written)).1
  have fits := ((failure_script_eq_none registered).mp runs).2
  rw [valueLength_ofUnpadded, long] at fits
  exact absurd fits (by decide)

end RouteWire.Pcep.Tlv
