import RouteWire.Proofs.Pcep.Object.Body
/-!
Objects, written and read. A written object of a known kind is cut off as one element and read back;
so is an object that was kept as it came. Objects that were read can be written in the octets they
were read from, and no more.

Main statements: `scanAll_script`, `objects_of_scan`.
-/
namespace RouteWire.Pcep
open Framing Reader
variable {registry : Registry} {slice rest : Slice} {octets : List UInt8}

namespace ObjectFlags

theorem value_lt (flags : ObjectFlags) : flags.value < 2 ^ 4 :=
  Nat.lt_of_lt_of_le (bitsValue_lt _) (Nat.pow_le_pow_right (by decide) (by simp))

theorem typeAndFlags {objectType : UInt8} (small : objectType.toNat ≤ 15) (flags : ObjectFlags) :
    UInt8.ofNat (objectType.toNat * 16 + flags.value) / 16 = objectType ∧
      ofOctet (UInt8.ofNat (objectType.toNat * 16 + flags.value)) = flags := by
  have low := flags.value_lt
  have octet : (UInt8.ofNat (objectType.toNat * 16 + flags.value)).toNat =
      2 ^ 4 * objectType.toNat + flags.value := by
    rw [UInt8.toNat_ofNat_of_lt' (Nat.lt_of_le_of_lt (by omega) (by decide : 255 < UInt8.size))]
    omega
  have flag (i : Nat) (below : i < 4) :
      (2 ^ 4 * objectType.toNat + flags.value).testBit i =
        [flags.ignore, flags.processingRule].getD i false := by
    rw [Nat.testBit_two_pow_mul_add _ low, if_pos below, value, testBit_bitsValue]
  constructor
  · apply UInt8.toNat_inj.mp
    rw [UInt8.toNat_div, octet]
    change (2 ^ 4 * objectType.toNat + flags.value) / 16 = objectType.toNat
    omega
  · rw [ofOctet, octet, flag 1 (by decide), flag 0 (by decide)]
    rfl

end ObjectFlags

namespace Object
variable {object : Object}

theorem cut_ok {frame : Frame ObjectHeader} (found : framing.cut slice = .ok (frame, rest)) :
    slice.octets.length = 4 + frame.value.octets.length + rest.octets.length ∧
      4 + frame.value.octets.length ≤ 65535 ∧ frame.value.octets.length % 4 = 0 ∧
        frame.header.codes.objectType.toNat ≤ 15 := by
  simp only [framing] at found
  split at found
  · next objectClass typeAndFlags high low contents whole =>
    split at found
    · cases found
    · next fits =>
      split at found
      · cases found
      · next value after cut =>
        cases found
        obtain ⟨split, length, -, -⟩ := Slice.octets_of_split? cut
        have bound : beValue [high, low] < 256 ^ 2 := beValue_lt_pow rfl
        have total := congrArg List.length split
        rw [List.length_append] at total
        dsimp only at total ⊢
        rw [whole, List.length_cons, List.length_cons, List.length_cons, List.length_cons, total]
        refine ⟨by omega, by omega, by omega, ?_⟩
        rw [UInt8.toNat_div]
        exact Nat.le_of_lt_succ (Nat.div_lt_of_lt_mul typeAndFlags.toNat_lt)
  · cases found

theorem cutsOff_header {contents : List UInt8} {passes : Frame ObjectHeader → Prop}
    (small : object.value.codes.objectType.toNat ≤ 15) (fits : 4 + contents.length ≤ 65535)
    (whole : contents.length % 4 = 0)
    (each : ∀ start offset,
      passes ⟨start, ⟨object.value.codes, object.flags⟩, ⟨offset, contents⟩⟩) :
    CutsOff framing (object.header (4 + contents.length) ++ contents) passes := by
  intro offset others
  refine ⟨_, ?_, each ⟨offset, object.header (4 + contents.length) ++ contents ++ others⟩ (offset + 4)⟩
  obtain ⟨type, flags⟩ := ObjectFlags.typeAndFlags small object.flags
  obtain ⟨high, low, length⟩ := List.length_eq_two.mp (length_beOctets 2 (4 + contents.length))
  have value : beValue [high, low] = 4 + contents.length := by
    rw [← length, beValue_beOctets_of_lt]
    exact Nat.lt_succ_of_le fits
  have valid : ¬(beValue [high, low] < 4 ∨ beValue [high, low] % 4 ≠ 0) := by omega
  have split : Slice.split? ⟨offset + 4, contents ++ others⟩ (beValue [high, low] - 4) =
      some (⟨offset + 4, contents⟩, ⟨offset + 4 + contents.length, others⟩) := by
    rw [value, Nat.add_sub_cancel_left]
    exact Slice.split?_append ..
  simp only [header, length, List.cons_append, List.nil_append, framing, valid, if_false, split, type,
    flags, List.length_cons]
  congr 3
  omega

end Object

namespace ObjectBody
variable {body : ObjectBody}

theorem refusal?_fixedPart (checked : body.check = none) (inRange : body.InRange)
    (others : List UInt8) :
    ObjectValue.refusal? body.kind (body.fixedPart ++ others) = none := by
  cases body with
  | opening body =>
    have small := openingCheck.mp checked
    have version : protocolVersion.toNat = 1 := rfl
    have first : (UInt8.ofNat (protocolVersion.toNat * 32 + body.flags.toNat)).toNat =
        1 * 32 + body.flags.toNat := by
      rw [version, UInt8.toNat_ofNat_of_lt' (Nat.lt_of_le_of_lt (by omega) (by decide : 63 < UInt8.size))]
    have octet (first : UInt8) : beValue [first] = first.toNat := by simp [beValue]
    have quotient : beValue [UInt8.ofNat (protocolVersion.toNat * 32 + body.flags.toNat)] / 32 =
        protocolVersion.toNat := by
      rw [octet, first, version]
      omega
    exact if_pos quotient
  | classType number =>
    have value : beValue [0, 0, 0, number] ≤ maxClassType.toNat := by
      rw [beValue_lastOfFour]
      exact inRange
    have front : ([0, 0, 0, number] ++ others).take 4 = [0, 0, 0, number] := rfl
    simp only [kind, fixedPart, ObjectValue.refusal?, front, value, if_true]
  | _ => rfl

end ObjectBody

namespace ObjectValue

def enabled (registry : Registry) : ObjectValue → ObjectValue
  | known body => .known (body.enabled registry)
  | unknown body => .unknown body

theorem length_script {value : ObjectValue} (written : (value.script registry).toExcept = .ok octets) :
    octets.length = value.length registry := by
  cases value with
  | known body =>
    obtain ⟨back, tail, rfl⟩ := Script.emit_append_ok.mp written
    rw [List.length_append, body.length_fixedPart, ObjectBody.Tail.length_script tail]
    rfl
  | unknown body => rw [Script.emit_ok.mp written]; rfl

theorem objectType_le {value : ObjectValue} (checked : value.check = none) :
    value.codes.objectType.toNat ≤ 15 := by
  cases value with
  | known body =>
    have every (kind : ObjectKind) : kind.codes.objectType.toNat ≤ 15 := by cases kind <;> decide
    exact every body.kind
  | unknown body =>
    rw [check, ite_eq_right_iff] at checked
    refine Nat.le_of_not_lt fun large => ?_
    cases checked (UInt8.lt_iff_toNat_lt.mpr large)

theorem scan_script (canonical : registry.Canonical) {body : ObjectBody}
    (readable : body.Readable registry) (checked : body.check = none)
    (written : ((known body).script registry).toExcept = .ok octets) (offset : Nat) :
    ∃ rest, scan body.kind registry ⟨offset, octets⟩ =
      (∅, .ok (.known (body.enabled registry), rest)) := by
  obtain ⟨back, tail, whole⟩ := Script.emit_append_ok.mp written
  have enough : ¬octets.length < body.kind.leastLength := by
    have least := ObjectBody.leastLength_le readable.1
    rw [whole, List.length_append, body.length_fixedPart]
    omega
  obtain ⟨rest, found⟩ := ObjectBody.scan_script canonical readable checked tail offset
  rw [← whole] at found
  refine ⟨rest, ?_⟩
  rw [(records_scan body.kind).apply]
  dsimp only
  rw [if_neg enough, whole, ObjectBody.refusal?_fixedPart checked readable.1, ← whole, found]

end ObjectValue

namespace Object
variable {object : Object}

def enabled (registry : Registry) (object : Object) : Object :=
  { object with value := object.value.enabled registry }

/-- What reading needs to find besides the octets. Octets that were kept as they came are kept again. -/
def Readable (registry : Registry) (object : Object) : Prop :=
  match object.value with
  | .known body => body.Readable registry
  | .unknown body =>
    body.octets.length % 4 = 0 ∧ ∀ start offset,
      ofFrame registry ⟨start, ⟨body.codes, object.flags⟩, ⟨offset, body.octets⟩⟩ =
        (∅, .ok (some object))

def Identified (object : Object) : Prop :=
  match object.value with
  | .known body => body.tail.Identified
  | .unknown _ => True

theorem lengthCheck_eq_none {length : Nat} : lengthCheck length = none ↔ length ≤ 65535 := by
  rw [lengthCheck]
  split
  · next long => simp [Nat.not_le_of_lt long]
  · next short => simp [Nat.le_of_not_lt short]

theorem script_ok :
    (object.script registry).toExcept = .ok octets ↔
      object.value.isRegistered registry = true ∧ object.length registry ≤ 65535 ∧
        object.value.check = none ∧ ∃ contents, (object.value.script registry).toExcept = .ok contents ∧
          octets = object.header (object.length registry) ++
            (contents ++ zeros (padding (object.unpaddedLength registry))) := by
  rw [script]
  split
  · next registered =>
    rw [Script.check_append_ok, lengthCheck_eq_none, Script.check_append_ok, Script.emit_append_ok]
    simp only [Script.append_ok, Script.emit_ok, registered, true_and]
    refine and_congr_right fun _ => and_congr_right fun _ => ?_
    constructor
    · rintro ⟨_, ⟨contents, _, written, rfl, rfl⟩, rfl⟩
      exact ⟨contents, written, rfl⟩
    · rintro ⟨contents, written, rfl⟩
      exact ⟨_, ⟨contents, _, written, rfl, rfl⟩, rfl⟩
  · next absent => simp [absent]

theorem length_script (written : (object.script registry).failure = none) :
    (object.script registry).octets.length = object.length registry := by
  obtain ⟨-, -, -, contents, value, whole⟩ := script_ok.mp (Script.toExcept_of_failure written)
  rw [whole, List.length_append, List.length_append, ObjectValue.length_script value, length_zeros,
    header, List.length_append, length_beOctets, length, padded, unpaddedLength]
  dsimp only [List.length_cons, List.length_nil]
  omega

theorem length_of_mod (whole : object.value.length registry % 4 = 0) :
    object.length registry = 4 + object.value.length registry := by
  have unpadded : (4 + object.value.length registry) % 4 = 0 := by omega
  exact padded_of_mod unpadded

theorem octets_of_mod (whole : object.value.length registry % 4 = 0)
    (written : (object.value.script registry).toExcept = .ok octets) :
    object.header (object.length registry) ++
      (octets ++ zeros (padding (object.unpaddedLength registry))) =
        object.header (4 + octets.length) ++ octets := by
  rw [length_of_mod whole, ObjectValue.length_script written, unpaddedLength, padding_four_add,
    padding_of_mod whole, zeros, List.replicate_zero, List.append_nil]

theorem length_mod (readable : object.Readable registry)
    (written : (object.value.script registry).toExcept = .ok octets) :
    object.value.length registry % 4 = 0 := by
  obtain ⟨flags, value⟩ := object
  cases value with
  | known body =>
    obtain ⟨back, tail, -⟩ := Script.emit_append_ok.mp written
    have front := body.fixedLength_mod
    have back := ObjectBody.Tail.length_mod readable.2 (Script.toExcept_ok.mp tail).1
    rw [ObjectValue.length]
    omega
  | unknown body => exact readable.1

theorem ofFrame_script (canonical : registry.Canonical) (readable : object.Readable registry)
    (registered : object.value.isRegistered registry = true) (checked : object.value.check = none)
    (written : (object.value.script registry).toExcept = .ok octets) (start : Slice) (offset : Nat) :
    ofFrame registry ⟨start, ⟨object.value.codes, object.flags⟩, ⟨offset, octets⟩⟩ =
      (∅, .ok (some (object.enabled registry))) := by
  obtain ⟨flags, value⟩ := object
  cases value with
  | known body =>
    obtain ⟨rest, found⟩ := ObjectValue.scan_script canonical readable checked written offset
    have kind : registry.object? body.kind.codes = some body.kind := canonical.object?_eq registered
    rw [records_ofFrame.apply]
    simp only [ObjectValue.codes, kind, found]
    rfl
  | unknown body =>
    rw [Script.emit_ok.mp written]
    exact readable.2 start offset

theorem cutsOff_script (canonical : registry.Canonical) (readable : object.Readable registry)
    (written : (object.script registry).failure = none) :
    CutsOff framing (object.script registry).octets fun frame =>
      ofFrame registry frame = (∅, .ok (some (object.enabled registry))) := by
  obtain ⟨registered, fits, checked, contents, value, whole⟩ :=
    script_ok.mp (Script.toExcept_of_failure written)
  have length := ObjectValue.length_script value
  have aligned := length_mod readable value
  rw [length_of_mod aligned] at fits
  rw [whole, octets_of_mod aligned value]
  refine cutsOff_header (ObjectValue.objectType_le checked) (by omega) (by omega) fun start offset => ?_
  exact ofFrame_script canonical readable registered checked value start offset

theorem scanAll_script (canonical : registry.Canonical) {objects : List Object}
    (readable : ∀ object ∈ objects, object.Readable registry)
    (runs : ∀ object ∈ objects, (object.script registry).failure = none) (offset : Nat) :
    scanAll registry ⟨offset, objects.flatMap fun object => (object.script registry).octets⟩ =
      (∅, .ok (objects.map (enabled registry),
        ⟨offset + (objects.flatMap fun object => (object.script registry).octets).length, []⟩)) := by
  have cutsOff := fun object member =>
    cutsOff_script canonical (readable object member) (runs object member)
  rw [← List.filterMap_eq_map]
  exact Scan.elements_flatMap cutsOff offset

theorem length_flatMap_script {objects : List Object}
    (runs : ∀ object ∈ objects, (object.script registry).failure = none) :
    (objects.flatMap fun object => (object.script registry).octets).length =
      totalLength registry objects :=
  length_flatMap_eq fun object member => length_script (runs object member)

/-! ## Objects that were read -/

theorem script_of_value (flags : ObjectFlags) {value : ObjectValue} {limit : Nat}
    (registered : value.isRegistered registry = true) (checked : value.check = none)
    (fits : value.length registry ≤ limit) (whole : limit % 4 = 0) (short : 4 + limit ≤ 65535) :
    Object.length registry ⟨flags, value⟩ ≤ 4 + limit ∧
      ((value.script registry).failure = none →
        (Object.script registry ⟨flags, value⟩).failure = none) := by
  have length : Object.length registry ⟨flags, value⟩ ≤ 4 + limit := by
    rw [Object.length, unpaddedLength, ← padded_of_mod (by omega : (4 + limit) % 4 = 0)]
    exact padded_mono (Nat.add_le_add_left fits 4)
  refine ⟨length, fun writes => ?_⟩
  exact (Script.toExcept_ok.mp (script_ok.mpr ⟨registered, Nat.le_trans length short, checked, _,
    Script.toExcept_of_failure writes, rfl⟩)).1

/-- An object that was read with a body of some length: it is read back as it is once it is written, and
writing it needs no more octets and cannot fail but for segments without an identifier. -/
structure Rewritable (registry : Registry) (length : Nat) (object : Object) : Prop where
  readable : object.Readable registry
  enabled_eq : object.enabled registry = object
  writes : object.Identified → (object.script registry).failure = none
  length_le : object.length registry ≤ 4 + length

theorem rewritable_of_body {kind : ObjectKind} {limit : Nat} {body : ObjectBody} (flags : ObjectFlags)
    (known : registry.object? kind.codes = some kind) (whole : limit % 4 = 0)
    (short : 4 + limit ≤ 65535) (rewritable : body.Rewritable registry kind limit) :
    Rewritable registry limit ⟨flags, .known body⟩ := by
  have registered : (ObjectValue.known body).isRegistered registry = true := by
    rw [ObjectValue.isRegistered, rewritable.kind_eq, known, Option.isSome_some]
  obtain ⟨length, writes⟩ :=
    script_of_value flags registered rewritable.checked rewritable.length_le whole short
  refine ⟨rewritable.readable, ?_, fun identified => writes ?_, length⟩
  · rw [enabled, ObjectValue.enabled, rewritable.enabled_eq]
  · have tail := Script.toExcept_of_failure (rewritable.writes identified)
    exact (Script.toExcept_ok.mp (Script.emit_append_ok.mpr ⟨_, tail, rfl⟩)).1

theorem rewritable_of_unknown {flags : ObjectFlags} {codes : ObjectCodes} {error : DocumentedError}
    (small : codes.objectType.toNat ≤ 15) (whole : octets.length % 4 = 0)
    (short : 4 + octets.length ≤ 65535)
    (echoed : ∀ start offset, ofFrame registry ⟨start, ⟨codes, flags⟩, ⟨offset, octets⟩⟩ =
      (∅, .ok (some ⟨flags, .unknown ⟨codes, error, octets⟩⟩))) :
    Rewritable registry octets.length ⟨flags, .unknown ⟨codes, error, octets⟩⟩ := by
  have checked : (ObjectValue.unknown ⟨codes, error, octets⟩).check = none := by
    rw [ObjectValue.check, ite_eq_right_iff]
    intro large
    exact absurd (UInt8.lt_iff_toNat_lt.mp large) (Nat.not_lt_of_le small)
  have registered : (ObjectValue.unknown ⟨codes, error, octets⟩).isRegistered registry = true := rfl
  obtain ⟨length, writes⟩ := script_of_value flags registered checked (Nat.le_refl _) whole short
  exact ⟨⟨whole, echoed⟩, rfl, fun _ => writes rfl, length⟩

theorem rewritable_of_frame (canonical : registry.Canonical) {frame : Frame ObjectHeader}
    {ignored : Ignored} (cut : framing.cut slice = .ok (frame, rest))
    (found : ofFrame registry frame = (ignored, .ok (some object))) :
    object.Rewritable registry frame.value.octets.length := by
  obtain ⟨-, short, whole, small⟩ := cut_ok cut
  obtain ⟨start, ⟨codes, flags⟩, value⟩ := frame
  rw [records_ofFrame.apply] at found
  dsimp only at found short whole small ⊢
  split at found
  · next kind known =>
    obtain rfl : kind.codes = codes := canonical.objects codes kind known
    split at found
    · cases found
    · next later result behind scanned =>
      cases found
      rw [(ObjectValue.records_scan kind).apply] at scanned
      dsimp only at scanned
      split at scanned
      · cases scanned
      · next enough =>
        split at scanned
        · next error taken refused =>
          -- An opening of another version, or a class type that is too large.
          cases scanned
          refine rewritable_of_unknown small whole short fun start offset => ?_
          rw [records_ofFrame.apply]
          simp only [known, (ObjectValue.records_scan kind).apply, enough, if_false, refused]
        · next accepted =>
          split at scanned
          · cases scanned
          · next body after answer =>
            cases scanned
            refine rewritable_of_body flags known whole short ?_
            exact ObjectBody.rewritable_of_scan canonical (by omega) whole (Nat.le_of_not_lt enough)
              accepted answer
  · next absent =>
    split at found
    · next processing =>
      cases found
      rw [ObjectValue.ofUnregistered]
      refine rewritable_of_unknown small whole short fun start offset => ?_
      rw [records_ofFrame.apply]
      simp only [absent, processing, if_true]
      rfl
    · cases found

theorem objects_of_scan (canonical : registry.Canonical) {objects : List Object} {ignored : Ignored}
    (found : scanAll registry slice = (ignored, .ok (objects, rest))) :
    (∀ object ∈ objects, object.Readable registry ∧ object.enabled registry = object ∧
      (object.Identified → (object.script registry).failure = none)) ∧
      totalLength registry objects ≤ slice.octets.length := by
  constructor
  · refine Scan.forall_mem_of_elements (Nat.le_refl _) ?_ found
    intro inner rest frame ignored object _ cut answer
    have rewritable := rewritable_of_frame canonical cut answer
    exact ⟨rewritable.readable, rewritable.enabled_eq, rewritable.writes⟩
  · refine Scan.sum_le_of_elements id ?_ ?_ found
    · intro inner rest frame cut
      exact Nat.le_of_lt (framing.shrinks cut)
    · intro inner rest frame ignored object cut answer
      obtain ⟨length, -⟩ := cut_ok cut
      have fits := (rewritable_of_frame canonical cut answer).length_le
      dsimp only [id]
      omega

end Object
end RouteWire.Pcep
