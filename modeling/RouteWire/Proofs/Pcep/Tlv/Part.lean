import RouteWire.Proofs.Pcep.Tlv.Frame
/-!
The parts of TLVs that have a layout of their own: flags, identifiers of a path, signalling errors,
path setup types and bindings. Each is read from its octets, and what was read can be written.

Main statements: `readRsvpErrorSpec_octets`, `readPathSetupTypeCapability_octets`,
`readPathBinding_octets`, and `rsvpErrorSpec_of_read`, `pathSetupTypeCapability_of_read`,
`pathBinding_of_read`.
-/
namespace RouteWire.Pcep
open Framing Reader
variable {slice rest : Slice} {octets : List UInt8}

namespace Tlv

theorem length_capability (capability : StatefulPceCapability) : capability.octets.length = 4 :=
  length_beOctets ..

theorem readStatefulPceCapability_octets {capability : StatefulPceCapability}
    (behind : Behind slice capability.octets rest) (nothing : rest.octets = []) :
    readStatefulPceCapability slice = .ok (capability, rest) := by
  have length := length_of_behind behind nothing
  rw [length_capability] at length
  have bound := bitsValue_lt [capability.lspUpdate, capability.includeDbVersion,
    capability.lspInstantiation, capability.triggeredResync, capability.deltaLspSync,
    capability.triggeredInitialSync]
  have small := Nat.lt_trans bound (by decide : 2 ^ 6 < 2 ^ 32)
  rw [StatefulPceCapability.octets, ← word32_ofNat small] at behind
  refine Reader.bind_ok.mpr ⟨_, _, readWord_ok.mpr ⟨length, behind⟩, ?_⟩
  simp only [UInt32.toNat_ofNat_of_lt' small, testBit_bitsValue]
  rfl

theorem length_of_readStatefulPceCapability {capability : StatefulPceCapability}
    (found : readStatefulPceCapability slice = .ok (capability, rest)) : slice.octets.length = 4 := by
  simp only [readStatefulPceCapability, Reader.bind_ok] at found
  obtain ⟨_, _, word, -⟩ := found
  exact (readWord_ok.mp word).1

theorem readLspIdentifiers_ok {α : Type} {address : Reader TlvReadError α} {encode : α → List UInt8}
    (address_ok : ∀ {slice rest value},
      address slice = .ok (value, rest) ↔ Behind slice (encode value) rest)
    {identifiers : LspIdentifiers α} :
    readLspIdentifiers address slice = .ok (identifiers, rest) ↔
      Behind slice (identifiers.octets encode) rest := by
  simp only [readLspIdentifiers, Reader.bind_ok, address_ok, word16_ok, pure_ok,
    LspIdentifiers.octets, behind_append_iff]
  constructor
  · rintro ⟨_, _, sender, _, _, lsp, _, _, tunnel, _, _, extended, _, _, endpoint, rfl, rfl⟩
    exact ⟨_, ⟨_, ⟨_, ⟨_, sender, lsp⟩, tunnel⟩, extended⟩, endpoint⟩
  · rintro ⟨_, ⟨_, ⟨_, ⟨_, sender, lsp⟩, tunnel⟩, extended⟩, endpoint⟩
    exact ⟨_, _, sender, _, _, lsp, _, _, tunnel, _, _, extended, _, _, endpoint, rfl, rfl⟩

theorem length_range (range : AssociationRange) : range.octets.length = 8 := by
  simp [AssociationRange.octets]

theorem rangeOfOctets_octets (range : AssociationRange) : rangeOfOctets range.octets = range := by
  have type : (range.octets.drop 2).take 2 = word16 range.associationType := by
    simp [AssociationRange.octets, List.take_left']
  have start : (range.octets.drop 4).take 2 = word16 range.startId := by
    simp [AssociationRange.octets]
  have last : (range.octets.drop 6).take 2 = word16 range.range := by
    simp [AssociationRange.octets, List.drop_append, List.drop_of_length_le, List.take_of_length_le]
  simp only [rangeOfOctets, type, start, last, ofNat_beValue_word16]

/-! ## Signalling errors -/

theorem length_rsvpErrorSpec (spec : RsvpErrorSpec) : spec.octets.length = spec.valueLength := by
  cases spec with
  | errorSpec node flags code value =>
    simp [RsvpErrorSpec.octets, RsvpErrorSpec.valueLength]
    omega
  | userErrorSpec spec =>
    simp [RsvpErrorSpec.octets, RsvpErrorSpec.valueLength]
    omega

theorem readErrorSpec_ok {node : Address} {spec : RsvpErrorSpec} :
    readErrorSpec node slice = .ok (spec, rest) ↔ ∃ flags code value,
      spec = .errorSpec node flags code value ∧ Behind slice ([flags, code] ++ word16 value) rest := by
  have split (flags code : UInt8) (value : UInt16) :
    [flags, code] ++ word16 value = [flags] ++ ([code] ++ word16 value) := rfl
  simp only [readErrorSpec, Reader.bind_ok, octet_ok, word16_ok, pure_ok, split, behind_append_iff]
  constructor
  · rintro ⟨flags, _, first, code, _, second, value, _, third, rfl, rfl⟩
    exact ⟨flags, code, value, rfl, _, first, _, second, third⟩
  · rintro ⟨flags, code, value, rfl, _, first, _, second, third⟩
    exact ⟨flags, _, first, code, _, second, value, _, third, rfl, rfl⟩

theorem readUserErrorSpec_ok {spec : UserErrorSpec} :
    readUserErrorSpec slice = .ok (spec, rest) ↔
      spec.description.length ≤ 255 ∧ rest.octets = [] ∧ ∃ reserved : List UInt8,
        reserved.length = padding spec.description.length ∧
        Behind slice (word32 spec.enterprise ++ ([spec.subOrganisation] ++
          ([UInt8.ofNat spec.description.length] ++ (word16 spec.value ++
            (spec.description ++ (reserved ++ spec.subobjects)))))) rest := by
  simp only [readUserErrorSpec, Reader.bind_ok, atLeast_ok, octet_ok, word16_ok, word32_ok, take_ok,
    remaining_iff, pure_ok, behind_append_iff]
  constructor
  · rintro ⟨_, _, ⟨-, rfl⟩, enterprise, _, first, sub, _, second, length, _, third, value, _, fourth, _,
      _, ⟨-, rfl⟩, description, _, ⟨size, fifth⟩, reserved, _, ⟨padded, sixth⟩, subobjects, _,
      ⟨last, nothing⟩, rfl, rfl⟩
    have bound := length.toNat_lt
    rw [← size] at padded
    refine ⟨by dsimp only; omega, nothing, reserved, padded, _, first, _, second, _, ?_, _, fourth, _,
      fifth, _, sixth, last⟩
    rwa [size, UInt8.ofNat_toNat]
  · rintro ⟨short, nothing, reserved, padded, _, first, _, second, _, third, _, fourth, _, fifth, _, sixth,
      last⟩
    have size : (UInt8.ofNat spec.description.length).toNat = spec.description.length :=
      UInt8.toNat_ofNat_of_lt' (Nat.lt_succ_of_le short)
    refine ⟨(), _, ⟨?_, rfl⟩, _, _, first, _, _, second, _, _, third, _, _, fourth, (), _, ⟨?_, rfl⟩, _, _,
      ⟨size.symm, fifth⟩, reserved, _, ⟨?_, sixth⟩, _, _, ⟨last, nothing⟩, rfl, rfl⟩
    · rw [first.length, second.length, third.length, fourth.length, length_word16, length_word32]
      dsimp only [List.length_cons, List.length_nil]
      omega
    · rw [size, fifth.length, sixth.length, padded, RouteWire.padded]
      omega
    · rw [size, padded]

theorem peekRsvpHeader_ok {length : UInt16} {specClass specType : UInt8} :
    (Reader.peek do
        let length ← Reader.word16
        let specClass ← Reader.octet
        let specType ← Reader.octet
        pure (length, specClass, specType) : Reader TlvReadError (UInt16 × UInt8 × UInt8)) slice =
        .ok ((length, specClass, specType), rest) ↔
      (∃ mid, Behind slice (word16 length ++ ([specClass] ++ [specType])) mid) ∧ rest = slice := by
  simp only [peek_ok, Reader.bind_ok, word16_ok, octet_ok, pure_ok, behind_append_iff]
  refine and_congr_left fun _ => exists_congr fun mid => ?_
  constructor
  · rintro ⟨_, _, first, _, _, second, _, _, third, same, rfl⟩
    cases same
    exact ⟨_, first, _, second, third⟩
  · rintro ⟨_, first, _, second, third⟩
    exact ⟨_, _, first, _, _, second, _, _, third, rfl, rfl⟩

theorem errorSpec_octets (node : Address) (flags code : UInt8) (value : UInt16) :
    (RsvpErrorSpec.errorSpec node flags code value).octets =
      beOctets 2 (RsvpErrorSpec.errorSpec node flags code value).valueLength ++
        ([6] ++ [RsvpErrorSpec.nodeType node]) ++
        (node.octets ++ ([flags, code] ++ word16 value)) := by
  simp [RsvpErrorSpec.octets]

theorem userErrorSpec_octets (spec : UserErrorSpec) :
    (RsvpErrorSpec.userErrorSpec spec).octets =
      beOctets 2 (RsvpErrorSpec.userErrorSpec spec).valueLength ++ ([194] ++ [1]) ++
        (word32 spec.enterprise ++ ([spec.subOrganisation] ++
          ([UInt8.ofNat spec.description.length] ++ (word16 spec.value ++
            (spec.description ++ (zeros (padding spec.description.length) ++ spec.subobjects)))))) := by
  simp [RsvpErrorSpec.octets, padOctets]

theorem readRsvpErrorSpec_octets {spec : RsvpErrorSpec} (checked : spec.check = none)
    (fits : spec.valueLength ≤ 65535) (behind : Behind slice spec.octets rest)
    (nothing : rest.octets = []) : ∃ after, readRsvpErrorSpec slice = .ok (spec, after) := by
  have whole := length_of_behind behind nothing
  rw [length_rsvpErrorSpec] at whole
  have length : (UInt16.ofNat spec.valueLength).toNat = spec.valueLength :=
    UInt16.toNat_ofNat_of_lt' (Nat.lt_succ_of_le fits)
  have first : beOctets 2 spec.valueLength = word16 (UInt16.ofNat spec.valueLength) := by
    rw [word16, length]
  have least : 4 ≤ slice.octets.length := by
    rw [whole]
    cases spec <;>
    · rw [RsvpErrorSpec.valueLength]
      omega
  simp only [readRsvpErrorSpec, Reader.bind_ok, leastLength_ok]
  cases spec with
  | errorSpec node flags code value =>
    rw [errorSpec_octets, first] at behind
    obtain ⟨mid, header, back⟩ := behind_append_iff.mp behind
    obtain ⟨_, address, others⟩ := behind_append_iff.mp back
    have specified : readErrorSpec node _ = .ok (.errorSpec node flags code value, rest) :=
      readErrorSpec_ok.mpr ⟨flags, code, value, rfl, others⟩
    refine ⟨rest, (), _, ⟨least, rfl⟩, _, _, peekRsvpHeader_ok.mpr ⟨⟨_, header⟩, rfl⟩, (), _,
      exactLength_ok.mpr ⟨by rw [length, whole], rfl⟩, ?_⟩
    cases node with
    | ipv4 node =>
      simp only [RsvpErrorSpec.nodeType, and_self, if_true, Reader.bind_ok, exactLength_ok]
      exact ⟨(), _, ⟨whole, rfl⟩, _, _, take_ok.mpr ⟨by simp, header⟩, _, _, ipv4_ok.mpr address,
        specified⟩
    | ipv6 node =>
      have other : ((2 : UInt8) = 1) = False := by decide
      simp only [RsvpErrorSpec.nodeType, other, and_false, if_false, and_self, if_true,
        Reader.bind_ok, exactLength_ok]
      exact ⟨(), _, ⟨whole, rfl⟩, _, _, take_ok.mpr ⟨by simp, header⟩, _, _, ipv6_ok.mpr address,
        specified⟩
  | userErrorSpec spec =>
    rw [userErrorSpec_octets, first] at behind
    obtain ⟨mid, header, back⟩ := behind_append_iff.mp behind
    have short : spec.description.length ≤ 255 := by
      rw [RsvpErrorSpec.check, ite_eq_right_iff] at checked
      exact Nat.le_of_not_lt fun long => by cases checked long
    have specified := readUserErrorSpec_ok.mpr ⟨short, nothing, _, length_zeros _, back⟩
    refine ⟨rest, (), _, ⟨least, rfl⟩, _, _, peekRsvpHeader_ok.mpr ⟨⟨_, header⟩, rfl⟩, (), _,
      exactLength_ok.mpr ⟨by rw [length, whole], rfl⟩, ?_⟩
    have other : ((194 : UInt8) = 6) = False := by decide
    simp only [other, false_and, if_false, and_self, if_true, Reader.bind_ok]
    exact ⟨_, _, take_ok.mpr ⟨by simp, header⟩, _, _, specified, rfl⟩

theorem rsvpErrorSpec_of_read {spec : RsvpErrorSpec}
    (found : readRsvpErrorSpec slice = .ok (spec, rest)) :
    spec.check = none ∧ spec.valueLength = slice.octets.length := by
  simp only [readRsvpErrorSpec, Reader.bind_ok, leastLength_ok] at found
  obtain ⟨_, _, ⟨-, rfl⟩, ⟨length, specClass, specType⟩, _, header, _, _, exact, found⟩ := found
  obtain ⟨-, rfl⟩ := peekRsvpHeader_ok.mp header
  obtain ⟨whole, rfl⟩ := exactLength_ok.mp exact
  split at found
  · simp only [Reader.bind_ok, exactLength_ok] at found
    obtain ⟨_, _, ⟨size, rfl⟩, _, _, -, node, _, -, found⟩ := found
    obtain ⟨flags, code, value, rfl, -⟩ := readErrorSpec_ok.mp found
    exact ⟨rfl, size.symm⟩
  · split at found
    · simp only [Reader.bind_ok, exactLength_ok] at found
      obtain ⟨_, _, ⟨size, rfl⟩, _, _, -, node, _, -, found⟩ := found
      obtain ⟨flags, code, value, rfl, -⟩ := readErrorSpec_ok.mp found
      exact ⟨rfl, size.symm⟩
    · split at found
      · simp only [Reader.bind_ok, take_ok, pure_ok] at found
        obtain ⟨_, _, ⟨size, front⟩, spec, _, found, rfl, rfl⟩ := found
        obtain ⟨short, nothing, reserved, paddingLength, behind⟩ := readUserErrorSpec_ok.mp found
        refine ⟨if_neg (Nat.not_lt_of_le short), ?_⟩
        rw [front.length, size, length_of_behind behind nothing, RsvpErrorSpec.valueLength]
        simp only [List.length_append, length_word16, length_word32, List.length_cons,
          List.length_nil, paddingLength, padded]
        omega
      · cases found

/-! ## Path setup types -/

end Tlv

/-- A record that is not known does not have the code of one that is. -/
def SetupTypeSubTlv.Recognizable : SetupTypeSubTlv → Prop
  | srPceCapability _ => True
  | unknown code _ => code ≠ SrPceCapability.subTlvCode

theorem SetupTypeSubTlv.length_value (record : SetupTypeSubTlv) :
    record.value.length = record.valueLength := by
  cases record <;> rfl

namespace Tlv

theorem pathSetupTypeCheck_eq_none {capability : PathSetupTypeCapability} :
    capability.check = none ↔ capability.types.length ≤ 255 ∧
      ∀ record ∈ capability.subTlvs, record.value.length ≤ 65535 := by
  rw [PathSetupTypeCapability.check]
  split
  · next many => simp [Nat.not_le_of_lt many]
  · next few =>
    simp only [Option.map_eq_none_iff, List.find?_eq_none, decide_eq_true_eq, Nat.not_lt,
      SetupTypeSubTlv.length_value, Nat.le_of_not_lt few, true_and]

theorem valueLength_pathSetupTypeCapability (capability : PathSetupTypeCapability) :
    capability.valueLength = 4 + padded capability.types.length +
      (capability.subTlvs.map fun record => tlvLength record.valueLength).sum := rfl

theorem length_pathSetupTypeCapability (capability : PathSetupTypeCapability) :
    capability.octets.length = capability.valueLength := by
  have records : (capability.subTlvs.flatMap fun record => tlvOctets record.code record.value).length =
      (capability.subTlvs.map fun record => tlvLength record.valueLength).sum :=
    length_flatMap_eq fun record _ => by rw [length_tlvOctets, record.length_value]
  rw [PathSetupTypeCapability.octets, List.length_append, List.length_append, length_padOctets, records]
  rfl

theorem readSrPceCapability_octets {capability : SrPceCapability}
    (behind : Behind slice capability.octets rest) (nothing : rest.octets = []) :
    readSrPceCapability slice = .ok (capability, rest) := by
  have whole := length_of_behind behind nothing
  have split : capability.octets = [0, 0] ++ ([UInt8.ofNat (bitsValue
    [capability.unlimitedDepth, capability.naiResolution])] ++ [capability.maximumDepth]) := rfl
  rw [split] at behind
  obtain ⟨_, reserved, back⟩ := behind_append_iff.mp behind
  obtain ⟨_, flags, depth⟩ := behind_append_iff.mp back
  simp only [readSrPceCapability, Reader.bind_ok, exactly_ok, pure_ok]
  refine ⟨(), _, ⟨whole, rfl⟩, 0, _, word16_ok.mpr reserved, _, _, octet_ok.mpr flags, _, _,
    octet_ok.mpr depth, ?_, rfl⟩
  rw [testBit_bitsOctet (by simp), testBit_bitsOctet (by simp)]
  rfl

theorem readSetupTypeSubTlv_value {record : SetupTypeSubTlv} (recognizable : record.Recognizable)
    (start : Slice) (offset : Nat) :
    readSetupTypeSubTlv ⟨start, record.code, ⟨offset, record.value⟩⟩ = .ok record := by
  rw [readSetupTypeSubTlv]
  cases record with
  | srPceCapability capability =>
    have found : readSrPceCapability.inside ⟨offset, capability.octets⟩ = .ok capability :=
      inside_ok.mpr ⟨_, readSrPceCapability_octets behind_whole rfl⟩
    rw [SetupTypeSubTlv.code, if_pos rfl]
    dsimp only [SetupTypeSubTlv.value]
    rw [found]
  | unknown code value => rw [SetupTypeSubTlv.code, if_neg recognizable, SetupTypeSubTlv.value]

theorem setupTypeSubTlv_of_frame {record : SetupTypeSubTlv} {frame : Frame UInt16}
    (found : readSetupTypeSubTlv frame = .ok record) :
    record.Recognizable ∧ record.valueLength = frame.value.octets.length := by
  rw [readSetupTypeSubTlv] at found
  split at found
  · split at found
    · cases found
    · next capability inside =>
      cases found
      obtain ⟨_, read⟩ := inside_ok.mp inside
      simp only [readSrPceCapability, Reader.bind_ok, exactly_ok] at read
      obtain ⟨_, _, ⟨length, -⟩, -⟩ := read
      exact ⟨trivial, length.symm⟩
  · next other =>
    cases found
    exact ⟨other, rfl⟩

theorem peekCount_ok {count : UInt8} :
    (Reader.peek do
        let _reserved ← Reader.take 3
        Reader.octet : Reader TlvReadError UInt8) slice = .ok (count, rest) ↔
      (∃ reserved mid, reserved.length = 3 ∧ Behind slice (reserved ++ [count]) mid) ∧
        rest = slice := by
  simp only [peek_ok, Reader.bind_ok, take_ok, octet_ok, behind_append_iff]
  refine and_congr_left fun _ => ?_
  constructor
  · rintro ⟨mid, reserved, _, ⟨length, first⟩, second⟩
    exact ⟨reserved, mid, length, _, first, second⟩
  · rintro ⟨reserved, mid, length, _, first, second⟩
    exact ⟨mid, reserved, _, ⟨length, first⟩, second⟩

theorem readPathSetupTypeCapability_octets {capability : PathSetupTypeCapability}
    (checked : capability.check = none)
    (recognizable : ∀ record ∈ capability.subTlvs, record.Recognizable)
    (behind : Behind slice capability.octets rest) (nothing : rest.octets = []) :
    ∃ after, readPathSetupTypeCapability slice = .ok (capability, after) := by
  obtain ⟨few, fits⟩ := pathSetupTypeCheck_eq_none.mp checked
  have whole := length_of_behind behind nothing
  rw [length_pathSetupTypeCapability, valueLength_pathSetupTypeCapability] at whole
  have count : (UInt8.ofNat capability.types.length).toNat = capability.types.length :=
    UInt8.toNat_ofNat_of_lt' (Nat.lt_succ_of_le few)
  rw [PathSetupTypeCapability.octets, behind_append_iff] at behind
  obtain ⟨mid, front, records⟩ := behind
  obtain ⟨_, header, padded⟩ := behind_append_iff.mp front
  obtain ⟨_, types, reserved⟩ := behind_append_iff.mp padded
  have all : framing.readAll readSetupTypeSubTlv ⟨mid.offset, _⟩ =
      .ok (capability.subTlvs.map id, _) := readAll_flatMap (fun record member =>
    cutsOff_tlvOctets (fits record member) fun start offset =>
      readSetupTypeSubTlv_value (recognizable record member) start offset) mid.offset
  have contents := records.1
  rw [nothing, List.append_nil] at contents
  rw [List.map_id, ← contents] at all
  simp only [readPathSetupTypeCapability, Reader.bind_ok, leastLength_ok, pure_ok]
  refine ⟨_, (), _, ⟨by omega, rfl⟩, _, _, peekCount_ok.mpr ⟨⟨[0, 0, 0], _, rfl, header⟩, rfl⟩, (), _,
    ⟨?_, rfl⟩, _, _, take_ok.mpr ⟨rfl, header⟩, _, _, take_ok.mpr ⟨count.symm, types⟩, _, _,
    take_ok.mpr ⟨?_, reserved⟩, _, _, all, rfl, rfl⟩
  · rw [count]
    omega
  · rw [length_zeros, count]

theorem pathSetupTypeCapability_of_read {capability : PathSetupTypeCapability}
    (found : readPathSetupTypeCapability slice = .ok (capability, rest)) :
    capability.check = none ∧ (∀ record ∈ capability.subTlvs, record.Recognizable) ∧
      capability.valueLength ≤ padded slice.octets.length := by
  simp only [readPathSetupTypeCapability, Reader.bind_ok, leastLength_ok, take_ok, pure_ok] at found
  obtain ⟨_, _, ⟨-, rfl⟩, count, _, peeked, _, _, ⟨-, rfl⟩, _, _, ⟨size, header⟩, types, _,
    ⟨number, second⟩, _, mid, ⟨paddingLength, third⟩, records, _, all, rfl, rfl⟩ := found
  obtain ⟨-, rfl⟩ := peekCount_ok.mp peeked
  have each : ∀ record ∈ records, record.Recognizable ∧ record.value.length ≤ 65535 := by
    refine forall_mem_of_readAll ?_ all
    intro slice rest frame record cut answer
    obtain ⟨recognizable, length⟩ := setupTypeSubTlv_of_frame answer
    rw [record.length_value, length]
    exact ⟨recognizable, (cut_ok cut).1⟩
  have sum : (records.map fun record => tlvLength record.valueLength).sum ≤
      padded mid.octets.length := by
    refine sum_le_of_readAll padded ?_ all
    intro slice rest frame record cut answer
    rw [(setupTypeSubTlv_of_frame answer).2]
    exact tlvLength_of_cut cut
  refine ⟨pathSetupTypeCheck_eq_none.mpr ⟨?_, fun record member => (each record member).2⟩,
    fun record member => (each record member).1, ?_⟩
  · have := count.toNat_lt
    dsimp only
    omega
  · rw [valueLength_pathSetupTypeCapability, header.length, second.length, third.length, size,
      paddingLength, ← number]
    simp only [padded, padding] at sum ⊢
    omega

/-! ## Bindings -/

theorem length_binding (value : BindingValue) : value.octets.length = value.valueLength := by
  cases value <;> simp [BindingValue.octets, BindingValue.valueLength, BindingValue.type,
    BindingType.valueLength, SidStructure.octets]

theorem mplsLabel_check {label : UInt32} :
    BindingValue.check (.mplsLabel label) = none ↔ label.toNat ≤ 0xFFFFF := by
  simp only [BindingValue.check, UInt32.lt_iff_toNat_lt]
  split
  · next large => simpa using large
  · next small => simpa using small

theorem mplsLabelEntry_check {label : UInt32} {trafficClass ttl : UInt8} {bottomOfStack : Bool} :
    BindingValue.check (.mplsLabelEntry label trafficClass bottomOfStack ttl) = none ↔
      label.toNat ≤ 0xFFFFF ∧ trafficClass.toNat ≤ 7 := by
  simp only [BindingValue.check, UInt32.lt_iff_toNat_lt, UInt8.lt_iff_toNat_lt]
  split
  · next large =>
    simp only [reduceCtorEq, false_iff]
    exact fun both => Nat.not_lt_of_le both.1 large
  · next small =>
    split
    · next large =>
      simp only [reduceCtorEq, false_iff]
      exact fun both => Nat.not_lt_of_le both.2 large
    · next smaller => exact iff_of_true rfl ⟨Nat.le_of_not_lt small, Nat.le_of_not_lt smaller⟩

theorem readBindingValue_octets {value : BindingValue} (checked : value.check = none)
    (behind : Behind slice value.octets rest) :
    readBindingValue value.type slice = .ok (value, rest) := by
  cases value with
  | mplsLabel label =>
    have bound := mplsLabel_check.mp checked
    have label_eq : UInt32.ofNat (label.toNat * 16 / 16) = label := by
      rw [Nat.mul_div_cancel _ (by decide), UInt32.ofNat_toNat]
    simp only [BindingValue.type, readBindingValue, Reader.bind_ok, number_ok, pure_ok]
    exact ⟨_, _, ⟨by omega, behind⟩, by rw [label_eq], rfl⟩
  | mplsLabelEntry label trafficClass bottomOfStack ttl =>
    obtain ⟨labelBound, classBound⟩ := mplsLabelEntry_check.mp checked
    have ttlBound := ttl.toNat_lt
    have bottom : bottomOfStack.toNat ≤ 1 := Nat.le_of_lt_succ (Bool.toNat_lt _)
    simp only [BindingValue.type, readBindingValue, Reader.bind_ok, number_ok, pure_ok]
    refine ⟨_, _, ⟨?_, behind⟩, ?_, rfl⟩
    · omega
    · generalize whole : label.toNat * 4096 + trafficClass.toNat * 512 + bottomOfStack.toNat * 256 +
        ttl.toNat = entry
      have label_eq : entry / 4096 = label.toNat := by omega
      have class_eq : entry / 512 % 8 = trafficClass.toNat := by omega
      have ttl_eq : entry % 256 = ttl.toNat := by omega
      have bottom_eq : entry.testBit 8 = bottomOfStack := by
        have bit : entry / 2 ^ 8 % 2 = bottomOfStack.toNat := by omega
        rw [Nat.testBit_eq_decide_div_mod_eq, bit]
        cases bottomOfStack <;> rfl
      rw [label_eq, class_eq, ttl_eq, bottom_eq, UInt32.ofNat_toNat, UInt8.ofNat_toNat,
        UInt8.ofNat_toNat]
  | srv6 sid => exact Reader.bind_ok.mpr ⟨_, _, ipv6_ok.mpr behind, rfl⟩
  | srv6Behavior sid behavior parts =>
    obtain ⟨_, front, structured⟩ := behind_append_iff.mp behind
    obtain ⟨_, front, behaviorOctets⟩ := behind_append_iff.mp front
    obtain ⟨_, address, reserved⟩ := behind_append_iff.mp front
    simp only [BindingValue.type, readBindingValue, Reader.bind_ok, ipv6_ok, word16_ok, pure_ok]
    exact ⟨_, _, address, 0, _, reserved, _, _, behaviorOctets, _, _,
      SidStructure.read_ok.mpr structured, rfl, rfl⟩

theorem bindingValue_of_read {type : BindingType} {value : BindingValue}
    (found : readBindingValue type slice = .ok (value, rest)) :
    value.type = type ∧ value.check = none := by
  cases type with
  | mplsLabel =>
    simp only [readBindingValue, Reader.bind_ok, number_ok, pure_ok] at found
    obtain ⟨word, _, ⟨bound, -⟩, rfl, -⟩ := found
    refine ⟨rfl, mplsLabel_check.mpr ?_⟩
    rw [UInt32.toNat_ofNat_of_lt' (Nat.lt_of_le_of_lt (Nat.div_le_self ..)
      (Nat.lt_trans bound (by decide)))]
    omega
  | mplsLabelEntry =>
    simp only [readBindingValue, Reader.bind_ok, number_ok, pure_ok] at found
    obtain ⟨entry, _, ⟨bound, -⟩, rfl, -⟩ := found
    refine ⟨rfl, mplsLabelEntry_check.mpr ⟨?_, ?_⟩⟩
    · rw [UInt32.toNat_ofNat_of_lt' (Nat.lt_of_le_of_lt (Nat.div_le_self ..) bound)]
      omega
    · have small : entry / 512 % 8 < 8 := Nat.mod_lt _ (by decide)
      rw [UInt8.toNat_ofNat_of_lt' (Nat.lt_trans small (by decide))]
      exact Nat.le_of_lt_succ small
  | srv6 =>
    simp only [readBindingValue, Reader.bind_ok, pure_ok] at found
    obtain ⟨_, _, -, rfl, -⟩ := found
    exact ⟨rfl, rfl⟩
  | srv6Behavior =>
    simp only [readBindingValue, Reader.bind_ok, pure_ok] at found
    obtain ⟨_, _, -, _, _, -, _, _, -, _, _, -, rfl, -⟩ := found
    exact ⟨rfl, rfl⟩

theorem peekType_ok {type : BindingType} :
    (Reader.peek (Reader.octet.convert (CodePoint.ofCode TlvReadError.undefinedBindingType))) slice =
        .ok (type, rest) ↔
      (∃ mid, Behind slice [CodePoint.code type] mid) ∧ rest = slice := by
  simp only [peek_ok, convert_ok, octet_ok, CodePoint.ofCode_ok]
  refine and_congr_left fun _ => exists_congr fun mid => ?_
  exact ⟨by rintro ⟨_, first, rfl⟩; exact first, fun first => ⟨_, first, rfl⟩⟩

theorem length_pathBinding (binding : PathBinding) :
    binding.octets.length = 4 + binding.value.valueLength := by
  rw [PathBinding.octets, List.length_append, length_binding]
  rfl

theorem readPathBinding_octets {binding : PathBinding} (checked : binding.value.check = none)
    (behind : Behind slice binding.octets rest) (nothing : rest.octets = []) :
    readPathBinding slice = .ok (binding, rest) := by
  have whole := length_of_behind behind nothing
  rw [length_pathBinding] at whole
  have split : binding.octets = [CodePoint.code binding.value.type] ++
    ([if binding.removal then 128 else 0] ++ ([0, 0] ++ binding.value.octets)) := rfl
  rw [split] at behind
  obtain ⟨_, type, back⟩ := behind_append_iff.mp behind
  obtain ⟨_, flags, back⟩ := behind_append_iff.mp back
  obtain ⟨_, reserved, value⟩ := behind_append_iff.mp back
  simp only [readPathBinding, Reader.bind_ok, leastLength_ok, exactLength_ok, pure_ok]
  refine ⟨(), _, ⟨by omega, rfl⟩, _, _, peekType_ok.mpr ⟨⟨_, type⟩, rfl⟩, (), _, ⟨whole, rfl⟩, _, _,
    octet_ok.mpr type, _, _, octet_ok.mpr flags, 0, _, word16_ok.mpr reserved, _, _,
    readBindingValue_octets checked value, by rw [testBit_flagOctet], rfl⟩

theorem pathBinding_of_read {binding : PathBinding}
    (found : readPathBinding slice = .ok (binding, rest)) :
    binding.value.check = none ∧ 4 + binding.value.valueLength = slice.octets.length := by
  simp only [readPathBinding, Reader.bind_ok, leastLength_ok, exactLength_ok, pure_ok] at found
  obtain ⟨_, _, ⟨-, rfl⟩, type, _, peeked, _, _, ⟨whole, rfl⟩, _, _, -, _, _, -, _, _, -, value, _,
    found, rfl, rfl⟩ := found
  obtain ⟨-, rfl⟩ := peekType_ok.mp peeked
  obtain ⟨rfl, checked⟩ := bindingValue_of_read found
  exact ⟨checked, whole.symm⟩

end Tlv
end RouteWire.Pcep
