import RouteWire.Bgp.Decode
import RouteWire.Bgp.Encode
import RouteWire.Proofs.AddressFamily.Registry
import RouteWire.Proofs.Framing
import RouteWire.Proofs.Writing
/-!
Capabilities, written and read under one registry of families. Reading finds types by their codes and
writing finds codes by their types, so each undoes the other because the registry keeps both look-ups
inverse to each other, whatever was registered.

Main statements: `capability_read_back`, `capability_settles`.
-/
namespace RouteWire.Bgp.Capability
open Framing
variable {registry : FamilyRegistry} {slice rest : Slice} {octets : List UInt8}
  {capability : Capability} {kind : CapabilityCode}

/-! ## Families -/

def entryOctets (codes : FamilyCodes) (about : UInt8) : List UInt8 :=
  word16 codes.afi ++ [codes.safi, about]

theorem length_entryOctets (codes : FamilyCodes) (about : UInt8) :
    (entryOctets codes about).length = 4 := by
  simp [entryOctets]

theorem withCodes_ok {type : AddressType} {encode : FamilyCodes → List UInt8} :
    (withCodes registry type encode).toExcept = .ok octets ↔
      ∃ codes, registry.codesOf? type = some codes ∧ octets = encode codes := by
  rw [withCodes]
  cases registry.codesOf? type <;> simp

theorem failure_withCodes {type : AddressType} {codes : FamilyCodes}
    {encode : FamilyCodes → List UInt8} (known : registry.codesOf? type = some codes) :
    (withCodes registry type encode).failure = none := by
  rw [withCodes, known]
  rfl

theorem readCodes_ok {codes : FamilyCodes} :
    (readCodes : Reader CapabilityReadError FamilyCodes) slice = .ok (codes, rest) ↔
      Reader.Behind slice (word16 codes.afi ++ [codes.safi]) rest := by
  simp only [readCodes, Reader.bind_ok, Reader.word16_ok, Reader.octet_ok, Reader.pure_ok,
    Reader.behind_append_iff]
  constructor
  · rintro ⟨_, _, afi, _, _, safi, rfl, rfl⟩
    exact ⟨_, afi, safi⟩
  · rintro ⟨_, afi, safi⟩
    exact ⟨_, _, afi, _, _, safi, rfl, rfl⟩

theorem behind_entryOctets {codes : FamilyCodes} {about : UInt8} :
    Reader.Behind slice (entryOctets codes about) rest ↔
      ∃ mid, Reader.Behind slice (word16 codes.afi ++ [codes.safi]) mid ∧
        Reader.Behind mid [about] rest := by
  rw [← Reader.behind_append_iff, List.append_assoc]
  rfl

theorem readRestartFamily_ok {family? : Option RestartFamily} :
    readRestartFamily registry slice = .ok (family?, rest) ↔
      ∃ codes about, Reader.Behind slice (entryOctets codes about) rest ∧
        family? = (registry.typeOf? codes).map fun type => ⟨about.toNat.testBit 7, type⟩ := by
  simp only [readRestartFamily, Reader.bind_ok, readCodes_ok, Reader.octet_ok, Reader.pure_ok,
    behind_entryOctets]
  constructor
  · rintro ⟨codes, _, front, about, _, last, rfl, rfl⟩
    exact ⟨codes, about, ⟨_, front, last⟩, rfl⟩
  · rintro ⟨codes, about, ⟨_, front, last⟩, rfl⟩
    exact ⟨codes, _, front, about, _, last, rfl, rfl⟩

theorem readPathFamily_ok {family? : Option PathFamily} :
    readPathFamily registry slice = .ok (family?, rest) ↔
      ∃ codes about, about ≤ 3 ∧ Reader.Behind slice (entryOctets codes about) rest ∧
        family? = (registry.typeOf? codes).map fun type =>
          ⟨type, about.toNat.testBit 1, about.toNat.testBit 0⟩ := by
  simp only [readPathFamily, Reader.bind_ok, readCodes_ok, Reader.convert_ok, Reader.octet_ok,
    Reader.pure_ok, behind_entryOctets]
  constructor
  · rintro ⟨codes, _, front, _, _, ⟨about, last, small⟩, rfl, rfl⟩
    by_cases large : 3 < about
    · simp [large] at small
    · simp only [large, if_false, Except.ok.injEq] at small
      subst small
      exact ⟨codes, about, UInt8.not_lt.mp large, ⟨_, front, last⟩, rfl⟩
  · rintro ⟨codes, about, small, ⟨_, front, last⟩, rfl⟩
    refine ⟨codes, _, front, about.toNat, _, ⟨about, last, ?_⟩, rfl, rfl⟩
    rw [if_neg (UInt8.not_lt.mpr small)]

section Families
variable {α : Type} {entry : Reader CapabilityReadError (Option α)} {type : α → AddressType}
  {flags : α → List Bool} {families : List α}

theorem familyEntry_ok {type : AddressType} {flags : List Bool} :
    (familyEntry registry type flags).toExcept = .ok octets ↔
      ∃ codes, registry.codesOf? type = some codes ∧
        octets = entryOctets codes (UInt8.ofNat (bitsValue flags)) := withCodes_ok

theorem length_familyEntries
    (written : (Script.concat (families.map fun family =>
      familyEntry registry (type family) (flags family))).toExcept = .ok octets) :
    octets.length = families.length * 4 := by
  obtain ⟨runs, rfl⟩ := Script.concat_map_ok.mp written
  have each : ∀ family ∈ families,
      (familyEntry registry (type family) (flags family)).octets.length = 4 := by
    intro family member
    obtain ⟨codes, -, whole⟩ := familyEntry_ok.mp (Script.toExcept_of_failure (runs family member))
    rw [whole, length_entryOctets]
  rw [length_flatMap_eq each, List.map_const', List.sum_replicate_nat]

theorem familyEntries_ok
    (registered : ∀ family ∈ families, (registry.codesOf? (type family)).isSome) :
    (Script.concat (families.map fun family =>
      familyEntry registry (type family) (flags family))).toExcept =
        .ok (families.flatMap fun family =>
          (familyEntry registry (type family) (flags family)).octets) := by
  refine Script.concat_map_ok.mpr ⟨?_, rfl⟩
  intro family member
  obtain ⟨codes, known⟩ := Option.isSome_iff_exists.mp (registered family member)
  exact failure_withCodes known

theorem readFamilies_entries
    (each : ∀ family codes offset, registry.codesOf? (type family) = some codes →
      entry.inside ⟨offset, entryOctets codes (UInt8.ofNat (bitsValue (flags family)))⟩ =
        .ok (some family))
    (written : (Script.concat (families.map fun family =>
      familyEntry registry (type family) (flags family))).toExcept = .ok octets) (offset : Nat) :
    ∃ rest, readFamilies entry ⟨offset, octets⟩ = .ok (families, rest) := by
  obtain ⟨runs, rfl⟩ := Script.concat_map_ok.mp written
  have cutsOff : ∀ family ∈ families,
      CutsOff (ofWidth 4 (by decide) : Framing Unit CapabilityReadError)
        (familyEntry registry (type family) (flags family)).octets
        fun frame => entry.inside frame.value = .ok (some family) := by
    intro family member
    obtain ⟨codes, known, whole⟩ :=
      familyEntry_ok.mp (Script.toExcept_of_failure (runs family member))
    rw [whole]
    apply cutsOff_ofWidth (length_entryOctets _ _)
    intro start offset
    exact each family codes offset known
  have found := readAll_flatMap cutsOff offset
  exact ⟨_, Reader.bind_ok.mpr ⟨_, _, found, Reader.pure_ok.mpr ⟨by simp, rfl⟩⟩⟩

theorem families_of_read {holds : α → Prop}
    (each : ∀ {slice rest family}, entry slice = .ok (some family, rest) → holds family)
    (found : readFamilies entry slice = .ok (families, rest)) :
    (∀ family ∈ families, holds family) ∧ families.length * 4 ≤ slice.octets.length := by
  obtain ⟨entries, _, read, kept⟩ := Reader.bind_ok.mp found
  obtain ⟨rfl, -⟩ := Reader.pure_ok.mp kept
  constructor
  · have all : ∀ family? ∈ entries, ∀ family, family? = some family → holds family := by
      refine forall_mem_of_readAll ?_ read
      rintro _ _ _ _ - answer family rfl
      obtain ⟨_, inside⟩ := Reader.inside_ok.mp answer
      exact each inside
    intro family member
    obtain ⟨family?, present, same⟩ := List.mem_filterMap.mp member
    exact all family? present family same
  · -- A family that is left out took its four octets on the wire, too.
    have sum : (entries.map fun _ => 4).sum ≤ slice.octets.length := by
      refine sum_le_of_readAll id ?_ read
      intro _ _ _ _ cut _
      exact Nat.le_of_eq (length_of_cut_ofWidth cut).symm
    calc (entries.filterMap id).length * 4
      _ ≤ entries.length * 4 := Nat.mul_le_mul_right 4 (List.length_filterMap_le ..)
      _ = (entries.map fun _ => 4).sum := by rw [List.map_const', List.sum_replicate_nat]
      _ ≤ slice.octets.length := sum

end Families

theorem readRestartFamily_entry (inverse : registry.Inverse) (family : RestartFamily)
    (codes : FamilyCodes) (offset : Nat) (known : registry.codesOf? family.type = some codes) :
    (readRestartFamily registry).inside ⟨offset, entryOctets codes (UInt8.ofNat (bitsValue
      [false, false, false, false, false, false, false, family.forwardingState]))⟩ =
        .ok (some family) := by
  refine Reader.inside_ok.mpr ⟨_, readRestartFamily_ok.mpr ⟨codes, _, Reader.behind_whole, ?_⟩⟩
  rw [(inverse codes family.type).mpr known, Option.map_some, testBit_bitsOctet (by simp)]
  rfl

theorem readPathFamily_entry (inverse : registry.Inverse) (family : PathFamily)
    (codes : FamilyCodes) (offset : Nat) (known : registry.codesOf? family.type = some codes) :
    (readPathFamily registry).inside ⟨offset, entryOctets codes (UInt8.ofNat (bitsValue
      [family.receive, family.send]))⟩ = .ok (some family) := by
  have small : UInt8.ofNat (bitsValue [family.receive, family.send]) ≤ 3 := by
    cases family.receive <;> cases family.send <;> decide
  refine Reader.inside_ok.mpr ⟨_, readPathFamily_ok.mpr ⟨codes, _, small, Reader.behind_whole, ?_⟩⟩
  rw [(inverse codes family.type).mpr known, Option.map_some, testBit_bitsOctet (by simp),
    testBit_bitsOctet (by simp)]
  rfl

theorem codesOf?_isSome (inverse : registry.Inverse) {codes : FamilyCodes} {type : AddressType}
    (found : registry.typeOf? codes = some type) : (registry.codesOf? type).isSome := by
  rw [(inverse codes type).mp found]
  rfl

theorem readRestartFamily_registered (inverse : registry.Inverse) {slice rest : Slice}
    {family : RestartFamily} (found : readRestartFamily registry slice = .ok (some family, rest)) :
    (registry.codesOf? family.type).isSome := by
  obtain ⟨codes, about, -, made⟩ := readRestartFamily_ok.mp found
  obtain ⟨type, known, rfl⟩ := Option.map_eq_some_iff.mp made.symm
  exact codesOf?_isSome inverse known

theorem readPathFamily_registered (inverse : registry.Inverse) {slice rest : Slice}
    {family : PathFamily} (found : readPathFamily registry slice = .ok (some family, rest)) :
    (registry.codesOf? family.type).isSome := by
  obtain ⟨codes, about, -, -, made⟩ := readPathFamily_ok.mp found
  obtain ⟨type, known, rfl⟩ := Option.map_eq_some_iff.mp made.symm
  exact codesOf?_isSome inverse known

/-! ## Values -/

theorem readMultiProtocol_ok :
    readMultiProtocol registry slice = .ok (capability, rest) ↔
      ∃ codes reserved type, Reader.Behind slice (word16 codes.afi ++ [reserved, codes.safi]) rest ∧
        registry.typeOf? codes = some type ∧ capability = .multiProtocolExtensions type := by
  have split : ∀ (afi : UInt16) (reserved safi : UInt8),
      word16 afi ++ [reserved, safi] = word16 afi ++ ([reserved] ++ [safi]) := fun _ _ _ => rfl
  simp only [readMultiProtocol, Reader.convert_ok, Reader.bind_ok, Reader.word16_ok, Reader.octet_ok,
    Reader.pure_ok, split, Reader.behind_append_iff]
  constructor
  · rintro ⟨_, ⟨afi, _, front, reserved, _, mid, safi, _, last, rfl, rfl⟩, registered⟩
    split at registered
    · next type found =>
      cases registered
      exact ⟨⟨afi, safi⟩, reserved, type, ⟨_, front, _, mid, last⟩, found, rfl⟩
    · cases registered
  · rintro ⟨codes, reserved, type, ⟨_, front, _, mid, last⟩, found, rfl⟩
    refine ⟨codes, ⟨_, _, front, reserved, _, mid, _, _, last, rfl, rfl⟩, ?_⟩
    rw [found]

/-- The code of which a capability holds the value, unless it keeps that as it is. -/
def kind? : Capability → Option CapabilityCode
  | multiProtocolExtensions _ => some .multiProtocolExtensions
  | routeRefresh => some .routeRefresh
  | enhancedRouteRefresh => some .enhancedRouteRefresh
  | extendedMessage => some .extendedMessage
  | fourOctetAs _ => some .fourOctetAs
  | gracefulRestart _ => some .gracefulRestart
  | addPath _ => some .addPath
  | unrecognized .. => none

theorem code_of_kind (known : capability.kind? = some kind) : capability.code = CodePoint.code kind := by
  cases capability <;> cases known <;> rfl

theorem valueLength_of_fixed {fixed : Nat} (known : capability.kind? = some kind)
    (always : fixedLength? kind = some fixed) : capability.valueLength = fixed := by
  cases capability <;> cases known <;> cases always <;> rfl

def TimeFits : Capability → Prop
  | gracefulRestart restart => restart.time ≤ 4095
  | _ => True

theorem check_eq_none :
    capability.check = none ↔ capability.valueLength ≤ 255 ∧ capability.TimeFits := by
  unfold check
  by_cases long : 255 < capability.valueLength
  · simp [long, Nat.not_le.mpr long]
  · rw [if_neg long, and_iff_right (Nat.not_lt.mp long)]
    cases capability with
    | gracefulRestart restart => simp [TimeFits, UInt16.not_lt]
    | _ => simp [TimeFits]

theorem script_ok :
    (capability.script registry).toExcept = .ok octets ↔
      capability.check = none ∧ ∃ value, (capability.valueScript registry).toExcept = .ok value ∧
        octets = [capability.code, UInt8.ofNat capability.valueLength] ++ value := by
  rw [script, Script.check_append_ok, Script.emit_append_ok]

theorem length_valueScript (written : (capability.valueScript registry).toExcept = .ok octets) :
    octets.length = capability.valueLength := by
  cases capability with
  | multiProtocolExtensions type =>
    obtain ⟨codes, -, rfl⟩ := withCodes_ok.mp written
    rfl
  | routeRefresh | enhancedRouteRefresh | extendedMessage =>
    rw [Script.done_ok.mp written]
    rfl
  | fourOctetAs number =>
    rw [Script.emit_ok.mp written, length_word32]
    rfl
  | gracefulRestart restart =>
    obtain ⟨back, entries, rfl⟩ := Script.emit_append_ok.mp written
    rw [List.length_append, length_beOctets, length_familyEntries entries]
    rfl
  | addPath families => exact length_familyEntries written
  | unrecognized code value =>
    rw [Script.emit_ok.mp written]
    rfl

theorem readRestartHeader {time : UInt16} {flags : List Bool} (fits : time.toNat ≤ 4095)
    (two : flags.length = 2) :
    ∃ header : UInt16, word16 header = beOctets 2 (time.toNat + 16384 * bitsValue flags) ∧
      header.toNat.testBit 15 = flags.getD 1 false ∧ header.toNat.testBit 14 = flags.getD 0 false ∧
        UInt16.ofNat (header.toNat % 4096) = time := by
  have few := bitsValue_lt flags
  rw [two] at few
  have low : time.toNat < 2 ^ 14 := by omega
  have small : time.toNat + 16384 * bitsValue flags < UInt16.size := by
    show _ < 65536
    omega
  have whole : (UInt16.ofNat (time.toNat + 16384 * bitsValue flags)).toNat =
      2 ^ 14 * bitsValue flags + time.toNat := by
    rw [UInt16.toNat_ofNat_of_lt' small]
    exact Nat.add_comm ..
  refine ⟨UInt16.ofNat (time.toNat + 16384 * bitsValue flags), ?_, ?_, ?_, ?_⟩
  · rw [word16, UInt16.toNat_ofNat_of_lt' small]
  · rw [whole, Nat.testBit_two_pow_mul_add _ low]
    exact testBit_bitsValue flags 1
  · rw [whole, Nat.testBit_two_pow_mul_add _ low]
    exact testBit_bitsValue flags 0
  · have same : (2 ^ 14 * bitsValue flags + time.toNat) % 4096 = time.toNat := by omega
    rw [whole, same, UInt16.ofNat_toNat]

theorem readValue_script (inverse : registry.Inverse) (known : capability.kind? = some kind)
    (checked : capability.check = none)
    (written : (capability.valueScript registry).toExcept = .ok octets) (offset : Nat) :
    (readValue registry kind).inside ⟨offset, octets⟩ = .ok capability := by
  apply Reader.inside_ok.mpr
  cases capability with
  | multiProtocolExtensions type =>
    cases known
    obtain ⟨codes, found, rfl⟩ := withCodes_ok.mp written
    have registered := (inverse codes type).mpr found
    exact ⟨_, readMultiProtocol_ok.mpr ⟨codes, 0, type, Reader.behind_whole, registered, rfl⟩⟩
  | routeRefresh | enhancedRouteRefresh | extendedMessage =>
    cases known
    exact ⟨_, rfl⟩
  | fourOctetAs number =>
    cases known
    rw [Script.emit_ok.mp written]
    exact ⟨_, Reader.bind_ok.mpr ⟨_, _, Reader.word32_ok.mpr Reader.behind_whole, rfl⟩⟩
  | gracefulRestart restart =>
    cases known
    obtain ⟨entries, rest, rfl⟩ := Script.emit_append_ok.mp written
    have two : [restart.gracefulNotification, restart.restart].length = 2 := rfl
    obtain ⟨header, same, first, second, time⟩ :=
      readRestartHeader (UInt16.le_iff_toNat_le.mp (check_eq_none.mp checked).2) two
    obtain ⟨behind, families⟩ :=
      readFamilies_entries (readRestartFamily_entry inverse) rest (offset + 2)
    refine ⟨behind, Reader.mapError_ok.mpr (Reader.bind_ok.mpr
      ⟨header, ⟨offset + 2, entries⟩, ?_, ?_⟩)⟩
    · rw [← same]
      exact Reader.word16_ok.mpr Reader.behind_append
    · refine Reader.bind_ok.mpr ⟨_, _, families, ?_⟩
      rw [first, second, time]
      rfl
  | addPath families =>
    cases known
    obtain ⟨behind, found⟩ := readFamilies_entries (readPathFamily_entry inverse) written offset
    exact ⟨behind, Reader.mapError_ok.mpr (Reader.bind_ok.mpr ⟨_, _, found, rfl⟩)⟩
  | unrecognized code value => cases known

theorem value_of_read (inverse : registry.Inverse)
    (found : readValue registry kind slice = .ok (capability, rest)) :
    capability.kind? = some kind ∧ capability.valueLength ≤ slice.octets.length ∧
      capability.TimeFits ∧ (capability.valueScript registry).failure = none := by
  cases kind with
  | multiProtocolExtensions =>
    obtain ⟨codes, reserved, type, behind, registered, rfl⟩ := readMultiProtocol_ok.mp found
    refine ⟨rfl, ?_, trivial, failure_withCodes ((inverse codes type).mp registered)⟩
    rw [behind.length]
    exact Nat.le_add_right 4 _
  | routeRefresh | enhancedRouteRefresh | extendedMessage =>
    obtain ⟨rfl, -⟩ := Reader.pure_ok.mp found
    exact ⟨rfl, Nat.zero_le _, trivial, rfl⟩
  | fourOctetAs =>
    obtain ⟨number, _, first, done⟩ := Reader.bind_ok.mp found
    obtain ⟨rfl, -⟩ := Reader.pure_ok.mp done
    refine ⟨rfl, ?_, trivial, rfl⟩
    rw [(Reader.word32_ok.mp first).length, length_word32]
    exact Nat.le_add_right 4 _
  | gracefulRestart =>
    obtain ⟨header, behind, first, later⟩ := Reader.bind_ok.mp (Reader.mapError_ok.mp found)
    obtain ⟨families, _, read, done⟩ := Reader.bind_ok.mp later
    obtain ⟨rfl, -⟩ := Reader.pure_ok.mp done
    obtain ⟨registered, fits⟩ := families_of_read (readRestartFamily_registered inverse) read
    refine ⟨rfl, ?_, ?_, ?_⟩
    · rw [(Reader.word16_ok.mp first).length, length_word16]
      exact Nat.add_le_add_left fits 2
    · show UInt16.ofNat (header.toNat % 4096) ≤ 4095
      rw [UInt16.le_iff_toNat_le, UInt16.toNat_ofNat']
      show header.toNat % 4096 % 65536 ≤ 4095
      omega
    · exact (Script.toExcept_ok.mp (Script.emit_append_ok.mpr
        ⟨_, familyEntries_ok registered, rfl⟩)).1
  | addPath =>
    obtain ⟨families, _, read, done⟩ := Reader.bind_ok.mp (Reader.mapError_ok.mp found)
    obtain ⟨rfl, -⟩ := Reader.pure_ok.mp done
    obtain ⟨registered, fits⟩ := families_of_read (readPathFamily_registered inverse) read
    exact ⟨rfl, fits, trivial, (Script.toExcept_ok.mp (familyEntries_ok registered)).1⟩

/-! ## Capabilities -/

theorem readContents_ok {code? : Option CapabilityCode} {value : Slice} :
    readContents code? slice = .ok (value, rest) ↔
      ∃ length mid, Reader.Behind slice [length] mid ∧
        mid.split? length.toNat = some (value, rest) ∧
          ∀ fixed, code?.bind fixedLength? = some fixed → length.toNat = fixed := by
  constructor
  · intro found
    rw [readContents] at found
    split at found
    · cases found
    next length mid first =>
    split at found
    · cases found
    next contents behind cut =>
    have front := Reader.octet_ok.mp first
    split at found
    · cases found
      exact ⟨length, mid, front, cut, by rintro _ ⟨⟩⟩
    next code =>
    split at found
    · next any =>
      cases found
      refine ⟨length, mid, front, cut, ?_⟩
      intro fixed always
      rw [Option.bind_some, any] at always
      cases always
    next width only =>
    by_cases same : length.toNat = width
    · rw [if_pos same] at found
      cases found
      refine ⟨length, mid, front, cut, ?_⟩
      intro fixed always
      rw [Option.bind_some, only] at always
      exact same.trans (Option.some.inj always)
    · rw [if_neg same] at found
      cases found
  · rintro ⟨length, mid, front, cut, fixed⟩
    rw [readContents, Reader.octet_ok.mpr front]
    dsimp only
    rw [cut]
    cases code? with
    | none => rfl
    | some code =>
      dsimp only
      cases only : fixedLength? code with
      | none => rfl
      | some width =>
        show (if length.toNat = width then _ else _) = _
        rw [if_pos (fixed width only)]

theorem read_ok :
    read registry slice = .ok (capability, rest) ↔
      ∃ code mid value, Reader.Behind slice [code] mid ∧
        readContents (CodePoint.ofCode? code) mid = .ok (value, rest) ∧
        match (CodePoint.ofCode? code : Option CapabilityCode) with
        | none => capability = .unrecognized code value.octets
        | some known => (readValue registry known).inside value = .ok capability := by
  rw [read]
  simp only [Reader.bind_ok, Reader.octet_ok]
  constructor
  · rintro ⟨code, mid, front, value, behind, contents, last⟩
    cases known : (CodePoint.ofCode? code : Option CapabilityCode) with
    | none =>
      rw [known] at last
      obtain ⟨rfl, rfl⟩ := Reader.pure_ok.mp last
      refine ⟨code, mid, value, front, contents, ?_⟩
      rw [known]
    | some kind =>
      rw [known] at last
      dsimp only at last
      split at last
      · cases last
      · next answer =>
        cases last
        refine ⟨code, mid, value, front, contents, ?_⟩
        rw [known]
        exact answer
  · rintro ⟨code, mid, value, front, contents, made⟩
    refine ⟨code, mid, front, value, rest, contents, ?_⟩
    cases known : (CodePoint.ofCode? code : Option CapabilityCode) with
    | none =>
      rw [known] at made
      exact Reader.pure_ok.mpr ⟨made, rfl⟩
    | some kind =>
      rw [known] at made
      dsimp only at made ⊢
      rw [made]

/-- A capability of a known code holds the value of that code, not its octets. -/
def Recognized (capability : Capability) : Prop :=
  CodePoint.ofCode? capability.code = capability.kind?

theorem recognized_of_kind (known : capability.kind? = some kind) : capability.Recognized := by
  rw [Recognized, code_of_kind known, known, CodePoint.ofCode?_code]

theorem recognized_of_unknown
    (unknown : ∀ code value, capability = .unrecognized code value →
      (CodePoint.ofCode? code : Option CapabilityCode) = none) : capability.Recognized := by
  cases known : capability.kind? with
  | some kind => exact recognized_of_kind known
  | none =>
    cases capability with
    | unrecognized code value => exact unknown code value rfl
    | _ => cases known

theorem read_script (inverse : registry.Inverse) (recognized : capability.Recognized)
    (written : (capability.script registry).toExcept = .ok octets) (offset : Nat)
    (suffix : List UInt8) :
    read registry ⟨offset, octets ++ suffix⟩ = .ok (capability, ⟨offset + octets.length, suffix⟩) := by
  obtain ⟨checked, value, inner, rfl⟩ := script_ok.mp written
  have length := length_valueScript inner
  have short : (UInt8.ofNat capability.valueLength).toNat = value.length := by
    have := (check_eq_none.mp checked).1
    rw [UInt8.toNat_ofNat_of_lt' (Nat.lt_succ_of_le this), length]
  have contents : readContents (CodePoint.ofCode? capability.code)
      ⟨offset + 1, UInt8.ofNat capability.valueLength :: (value ++ suffix)⟩ =
        .ok (⟨offset + 2, value⟩, ⟨offset + 2 + value.length, suffix⟩) := by
    refine readContents_ok.mpr ⟨_, ⟨offset + 2, value ++ suffix⟩, ⟨rfl, rfl⟩, ?_, ?_⟩
    · rw [short]
      exact Slice.split?_append ..
    · intro fixed always
      rw [recognized] at always
      obtain ⟨kind, known, only⟩ := Option.bind_eq_some_iff.mp always
      rw [short, length]
      exact valueLength_of_fixed known only
  have finish : offset + ([capability.code, UInt8.ofNat capability.valueLength] ++ value).length =
      offset + 2 + value.length := by
    rw [List.length_append, Nat.add_assoc]
    rfl
  rw [finish]
  refine read_ok.mpr ⟨capability.code, _, _, ⟨rfl, rfl⟩, contents, ?_⟩
  rw [recognized]
  cases known : capability.kind? with
  | some kind => exact readValue_script inverse known checked inner _
  | none =>
    cases capability with
    | unrecognized code kept =>
      rw [Script.emit_ok.mp inner]
      rfl
    | _ => cases known

/-- A capability that was written is read back from its octets, whatever follows them and whatever was
registered, unless it keeps the octets of a known code. -/
theorem capability_read_back (calls : List FamilyRegistry.Registration)
    (unknown : ∀ code value, capability = .unrecognized code value →
      (CodePoint.ofCode? code : Option CapabilityCode) = none)
    (written : (capability.script (.build calls)).run none = (octets, none)) (suffix : List UInt8) :
    (read (.build calls)).run (octets ++ suffix) = .ok (capability, ⟨octets.length, suffix⟩) := by
  have found := read_script (FamilyRegistry.inverse_build calls) (recognized_of_unknown unknown)
    (Script.run_none_iff.mp written) 0 suffix
  rw [Nat.zero_add] at found
  exact found

/-- Families that changed codes: `bgpLs` took those of `ipv6Unicast`, which has none since. -/
def movedFamilies : List FamilyRegistry.Registration :=
  [.given ⟨1, 241⟩ .ipv4Unicast, .assigned .ipv6Unicast, .given ⟨2, 1⟩ .bgpLs]

theorem capability_read_back_moved :
    (read (.build movedFamilies)).run [64, 10, 0x8F, 0xFF, 0, 1, 241, 128, 0, 2, 1, 0, 9] =
      .ok (.gracefulRestart ⟨true, false, 4095, [⟨true, .ipv4Unicast⟩, ⟨false, .bgpLs⟩]⟩,
        ⟨12, [9]⟩) ∧
    (read (.build movedFamilies)).run [3, 1, 7] = .ok (.unrecognized 3 [7], ⟨3, []⟩) := by
  constructor
  · have written : (script (.build movedFamilies)
        (.gracefulRestart ⟨true, false, 4095, [⟨true, .ipv4Unicast⟩, ⟨false, .bgpLs⟩]⟩)).run none =
          ([64, 10, 0x8F, 0xFF, 0, 1, 241, 128, 0, 2, 1, 0], none) := by decide +kernel
    exact capability_read_back movedFamilies (by rintro _ _ ⟨⟩) written [9]
  · have written : (script (.build movedFamilies) (.unrecognized 3 [7])).run none =
        ([3, 1, 7], none) := by decide +kernel
    refine capability_read_back movedFamilies ?_ written []
    intro code value same
    cases same
    rfl

theorem capability_of_read (inverse : registry.Inverse)
    (found : read registry slice = .ok (capability, rest)) :
    ∃ taken again, slice.octets = taken ++ rest.octets ∧ again.length ≤ taken.length ∧
      (capability.script registry).toExcept = .ok again ∧ capability.Recognized := by
  obtain ⟨code, mid, value, ⟨front, -⟩, contents, made⟩ := read_ok.mp found
  obtain ⟨length, behind, ⟨second, -⟩, cut, -⟩ := readContents_ok.mp contents
  obtain ⟨whole, size, -, -⟩ := Slice.octets_of_split? cut
  have fits : value.octets.length ≤ 255 := size ▸ Nat.le_of_lt_succ length.toNat_lt
  have taken : slice.octets = code :: length :: value.octets ++ rest.octets := by
    rw [front, second, whole]
    rfl
  have main : capability.Recognized ∧ capability.valueLength ≤ value.octets.length ∧
      capability.TimeFits ∧ (capability.valueScript registry).failure = none := by
    cases known : (CodePoint.ofCode? code : Option CapabilityCode) with
    | none =>
      rw [known] at made
      subst made
      exact ⟨known, Nat.le_refl _, trivial, rfl⟩
    | some kind =>
      rw [known] at made
      obtain ⟨_, inside⟩ := Reader.inside_ok.mp made
      obtain ⟨same, inner⟩ := value_of_read inverse inside
      exact ⟨recognized_of_kind same, inner⟩
  obtain ⟨recognized, shorter, time, runs⟩ := main
  have inner := Script.toExcept_of_failure runs
  have checked := check_eq_none.mpr ⟨Nat.le_trans shorter fits, time⟩
  refine ⟨_, _, taken, ?_, script_ok.mpr ⟨checked, _, inner, rfl⟩, recognized⟩
  rw [List.length_append, length_valueScript inner]
  simp
  omega

/-- A capability that was read can be written in no more octets than it was read from, and these are
read as the same capability, which they hold to their end. -/
theorem capability_settles (calls : List FamilyRegistry.Registration)
    (found : (read (.build calls)).run octets = .ok (capability, rest)) :
    ∃ taken again, octets = taken ++ rest.octets ∧
      (capability.script (.build calls)).run none = (again, none) ∧ again.length ≤ taken.length ∧
        (read (.build calls)).run again = .ok (capability, ⟨again.length, []⟩) := by
  have inverse := FamilyRegistry.inverse_build calls
  obtain ⟨taken, again, whole, shorter, written, recognized⟩ := capability_of_read inverse found
  have readAgain := read_script inverse recognized written 0 []
  rw [List.append_nil, Nat.zero_add] at readAgain
  exact ⟨taken, again, whole, Script.run_none_iff.mpr written, shorter, readAgain⟩

theorem capability_settles_moved :
    ∃ taken again : List UInt8,
      [64, 14, 0xFF, 0xFF, 0, 1, 241, 0xFF, 0, 1, 1, 0x80, 0, 2, 1, 0x7F, 9] = taken ++ [9] ∧
      (script (.build movedFamilies)
        (.gracefulRestart ⟨true, true, 4095, [⟨true, .ipv4Unicast⟩, ⟨false, .bgpLs⟩]⟩)).run none =
          (again, none) ∧ again.length ≤ taken.length ∧
        (read (.build movedFamilies)).run again =
          .ok (.gracefulRestart ⟨true, true, 4095, [⟨true, .ipv4Unicast⟩, ⟨false, .bgpLs⟩]⟩,
            ⟨again.length, []⟩) := by
  have found : (read (.build movedFamilies)).run
      [64, 14, 0xFF, 0xFF, 0, 1, 241, 0xFF, 0, 1, 1, 0x80, 0, 2, 1, 0x7F, 9] =
        .ok (.gracefulRestart ⟨true, true, 4095, [⟨true, .ipv4Unicast⟩, ⟨false, .bgpLs⟩]⟩,
          ⟨16, [9]⟩) := by decide +kernel
  exact capability_settles movedFamilies found

end RouteWire.Bgp.Capability
