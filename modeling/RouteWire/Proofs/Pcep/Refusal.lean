import RouteWire.Proofs.Pcep.Announced
import RouteWire.Proofs.Pcep.Sequence
/-!
Writes that are refused. A TLV is checked before its header is written, and what is checked behind the
header cannot fail any more, so a write that fails has written nothing. So it is with the hops of a
route, but for a segment without identifiers: that is noticed when its header is written already.

Main statements: `refused_tlv_unwritten`, `refused_hop_unwritten_unless_lacking`.
-/
namespace RouteWire

namespace Script
variable {ε : Type} [SinkFull ε] {first second : Option ε} {header : List UInt8} {rest : Script ε}
  {error : ε}

/-! ## Two checks in front of a header -/

theorem failure_guarded :
    (check first ++ (check second ++ (emit header ++ rest))).failure =
      (first <|> second <|> rest.failure) := by
  simp only [failure_append, failure_emit]
  cases rest.failure <;> rfl

theorem octets_refused (refused : (first <|> second) = some error) :
    (check first ++ (check second ++ (emit header ++ rest))).octets = [] := by
  cases first with
  | some cause => rfl
  | none =>
    cases second with
    | some cause => rfl
    | none => cases refused

theorem octets_passed (passed : (first <|> second) = none) :
    (check first ++ (check second ++ (emit header ++ rest))).octets = header ++ rest.octets := by
  cases first with
  | some cause => cases passed
  | none =>
    cases second with
    | some cause => cases passed
    | none =>
      show (emit header ++ rest).octets = _
      rw [octets_append, octets_emit]
      rfl

end Script

namespace Pcep
variable {registry : Registry}

/-! ## TLVs -/

namespace Tlv
variable {tlv : Tlv} {error : TlvWriteError}

theorem failure_script (registered : tlv.isRegistered registry = true) :
    (tlv.script registry).failure = (tlv.check <|> lengthCheck tlv.valueLength) := by
  rw [script, if_pos registered, Script.failure_guarded]
  congr 1
  cases fits : lengthCheck tlv.valueLength with
  | some cause => rfl
  | none =>
    rw [Script.failure_append, valueScript_of_short (lengthCheck_eq_none.mp fits)]
    rfl

theorem run_failed {octets : List UInt8} :
    (tlv.script registry).run none = (octets, some error) ↔ tlv.isRegistered registry = true ∧
      (tlv.check <|> lengthCheck tlv.valueLength) = some error ∧ octets = [] := by
  rw [Script.run, Prod.mk.injEq]
  constructor
  · rintro ⟨rfl, failed⟩
    cases registered : tlv.isRegistered registry with
    | false =>
      rw [script_of_unregistered registered] at failed
      cases failed
    | true =>
      rw [failure_script registered] at failed
      refine ⟨rfl, failed, ?_⟩
      rw [script, if_pos registered]
      exact Script.octets_refused failed
  · rintro ⟨registered, refused, rfl⟩
    rw [failure_script registered, script, if_pos registered]
    exact ⟨Script.octets_refused refused, refused⟩

end Tlv

/-! ## Information of enterprises as an object -/

def Object.refusal (registry : Registry) (object : Object) : Option ObjectWriteError :=
  if object.value.isRegistered registry then
    (lengthCheck (object.length registry) <|> object.value.check)
  else
    some (.unregistered object.value.codes)

namespace VendorInformation
variable {information : VendorInformation} {flags : ObjectFlags} {error : ObjectWriteError}

def object (information : VendorInformation) (flags : ObjectFlags) : Object :=
  ⟨flags, .known (.vendorInformation information)⟩

theorem length_object :
    (information.object flags).length registry = padded (4 + information.valueLength) := by
  show padded (4 + (0 + information.valueLength)) = _
  rw [Nat.zero_add]

theorem script_of_object_fits (fits : (information.object flags).length registry ≤ 65535) :
    information.script.failure = none := by
  rw [length_object, padded] at fits
  apply Tlv.vendorScript_of_short
  omega

theorem failure_object :
    ((information.object flags).script registry).failure =
      Object.refusal registry (information.object flags) := by
  rw [Object.script, Object.refusal]
  split
  · rw [Script.failure_guarded]
    cases fits : Object.lengthCheck ((information.object flags).length registry) with
    | some cause => rfl
    | none =>
      have runs := script_of_object_fits (Object.lengthCheck_eq_none.mp fits)
      simp [Script.failure_append, object, ObjectValue.script, ObjectBody.tail,
        ObjectBody.Tail.script, runs]
  · rfl

theorem run_object_failed {octets : List UInt8} :
    ((information.object flags).script registry).run none = (octets, some error) ↔
      Object.refusal registry (information.object flags) = some error ∧ octets = [] := by
  have unwritten (refused : Object.refusal registry (information.object flags) = some error) :
      ((information.object flags).script registry).octets = [] := by
    rw [Object.refusal] at refused
    rw [Object.script]
    by_cases registered : (information.object flags).value.isRegistered registry
    · rw [if_pos registered] at refused ⊢
      exact Script.octets_refused refused
    · rw [if_neg registered]
      rfl
  rw [Script.run, Prod.mk.injEq, failure_object]
  constructor
  · rintro ⟨rfl, refused⟩
    exact ⟨refused, unwritten refused⟩
  · rintro ⟨refused, rfl⟩
    exact ⟨unwritten refused, refused⟩

end VendorInformation

/-! ## The statement for TLVs -/

theorem refused_tlv_unwritten (registry : Registry) :
    (∀ (tlv : Tlv) (octets : List UInt8) (error : TlvWriteError),
      (tlv.script registry).run none = (octets, some error) ↔ tlv.isRegistered registry = true ∧
        (tlv.check <|> Tlv.lengthCheck tlv.valueLength) = some error ∧ octets = []) ∧
    (∀ (information : VendorInformation) (flags : ObjectFlags) (octets : List UInt8)
      (error : ObjectWriteError),
      ((information.object flags).script registry).run none = (octets, some error) ↔
        Object.refusal registry (information.object flags) = some error ∧ octets = []) ∧
    ∀ (information : VendorInformation) (flags : ObjectFlags),
      (information.valueLength ≤ 65535 → information.script.failure = none) ∧
      ((information.object flags).length registry ≤ 65535 → information.script.failure = none) := by
  refine ⟨?_, ?_, ?_⟩
  · intro tlv octets error
    exact Tlv.run_failed
  · intro information flags octets error
    exact VendorInformation.run_object_failed
  · intro information flags
    exact ⟨Tlv.vendorScript_of_short, VendorInformation.script_of_object_fits⟩

def VendorInformation.single (octets : List UInt8) : VendorInformation := ⟨9, .subTlvs [⟨1, octets⟩]⟩

theorem VendorInformation.valueLength_single (octets : List UInt8) :
    (single octets).valueLength = 4 + tlvLength octets.length := rfl

def VendorInformation.overlong : VendorInformation := .single (zeros 65536)

theorem refused_tlv_unwritten_overlong :
    ((Tlv.vendorInformation .overlong).script .full).run none =
      ([], some (.valueLengthOverflow 65544)) ∧
    ((VendorInformation.overlong.object ⟨false, false⟩).script .full).run none =
      ([], some (.lengthOverflow 65548)) ∧
    (VendorInformation.single [2, 3, 4]).script.failure = none := by
  -- The octets are not looked at, so that there is no need to have all of them.
  have length : VendorInformation.overlong.valueLength = 65544 := by
    rw [VendorInformation.overlong, VendorInformation.valueLength_single, length_zeros]
    rfl
  obtain ⟨tlvs, objects, records⟩ := refused_tlv_unwritten .full
  refine ⟨(tlvs _ _ _).mpr ⟨by decide +kernel, ?_, rfl⟩, (objects _ _ _ _).mpr ⟨?_, rfl⟩, ?_⟩
  · rw [Tlv.valueLength, length]
    rfl
  · have registered :
        (VendorInformation.overlong.object ⟨false, false⟩).value.isRegistered .full = true := by
      decide +kernel
    rw [Object.refusal, if_pos registered, VendorInformation.length_object, length]
    rfl
  · exact (records _ ⟨false, false⟩).1 (by decide)

/-! ## Hops -/

theorem Label.check_ne_sidAndNaiAbsent (label : Label) : label.check ≠ some .sidAndNaiAbsent := by
  cases label with
  | generalized octets =>
    rw [check]
    split <;> simp
  | _ =>
    intro failed
    cases failed

theorem EroValue.check_ne_sidAndNaiAbsent (value : EroValue) : value.check ≠ some .sidAndNaiAbsent := by
  cases value with
  | label _ label => exact label.check_ne_sidAndNaiAbsent
  | _ =>
    intro failed
    cases failed

theorem RroSubobject.check_ne_sidAndNaiAbsent (hop : RroSubobject) :
    hop.check ≠ some .sidAndNaiAbsent := by
  cases hop with
  | label _ _ label => exact label.check_ne_sidAndNaiAbsent
  | _ =>
    intro failed
    cases failed

theorem Subobject.lengthCheck_ne_sidAndNaiAbsent (length : Nat) :
    lengthCheck length ≠ some .sidAndNaiAbsent := by
  rw [lengthCheck]
  split <;> simp

/-- A write that fails leaves nothing, unless a hop lacks its identifiers: then it leaves the header. -/
structure UnwrittenUnless (lacking : Prop) (header : List UInt8) (script : Script SubobjectWriteError) :
    Prop where
  lacks : script.run none = (header, some .sidAndNaiAbsent) ↔ lacking
  failed : ∀ octets error, script.run none = (octets, some error) → (octets = [] ↔ ¬lacking)

namespace UnwrittenUnless
variable {lacking : Prop} {first second : Option SubobjectWriteError} {header : List UInt8}
  {script value : Script SubobjectWriteError}

theorem of_unwritten (enough : ¬lacking) (other : script.failure ≠ some .sidAndNaiAbsent)
    (unwritten : script.failure ≠ none → script.octets = []) : UnwrittenUnless lacking header script where
  lacks := iff_of_false (fun failed => other (congrArg Prod.snd failed)) enough
  failed := by
    intro octets error failed
    rw [Script.run, Prod.mk.injEq] at failed
    obtain ⟨rfl, failure⟩ := failed
    exact iff_of_true (unwritten (failure.trans_ne (Option.some_ne_none _))) enough

theorem of_enough (enough : ¬lacking) (runs : value.failure = none)
    (firstOther : first ≠ some .sidAndNaiAbsent) (secondOther : second ≠ some .sidAndNaiAbsent) :
    UnwrittenUnless lacking header (.check first ++ (.check second ++ (.emit header ++ value))) := by
  cases first with
  | some error => exact of_unwritten enough firstOther fun _ => rfl
  | none =>
    cases second with
    | some error => exact of_unwritten enough secondOther fun _ => rfl
    | none =>
      have all : Script.failure (.check none ++ (.check none ++ (.emit header ++ value))) = none := by
        rw [Script.failure_guarded, runs]
        rfl
      apply of_unwritten enough
      · rw [all]
        exact (Option.some_ne_none _).symm
      · intro failed
        exact absurd all failed

theorem of_lacking (lacks : lacking) (nonempty : header ≠ []) (refused : value = .fail .sidAndNaiAbsent) :
    UnwrittenUnless lacking header (.check none ++ (.check none ++ (.emit header ++ value))) := by
  have failed : Script.run (.check none ++ (.check none ++ (.emit header ++ value))) none =
      (header, some .sidAndNaiAbsent) := by
    rw [Script.run, Script.failure_guarded, Script.octets_passed rfl, refused]
    simp
  refine ⟨iff_of_true failed lacks, fun octets error other => ?_⟩
  rw [failed, Prod.mk.injEq] at other
  exact iff_of_false (other.1 ▸ nonempty) (not_not_intro lacks)

theorem of_checked {identified : Prop} (nonempty : header ≠ [])
    (firstOther : first ≠ some .sidAndNaiAbsent) (secondOther : second ≠ some .sidAndNaiAbsent)
    (runs : identified → value.failure = none)
    (refused : ¬identified → first = none ∧ second = none ∧ value = .fail .sidAndNaiAbsent) :
    UnwrittenUnless (¬identified) header
      (.check first ++ (.check second ++ (.emit header ++ value))) := by
  by_cases is : identified
  · exact of_enough (not_not_intro is) (runs is) firstOther secondOther
  · obtain ⟨rfl, rfl, rfl⟩ := refused is
    exact of_lacking is nonempty rfl

theorem of_registered {registered : Prop} [Decidable registered] {other : Script SubobjectWriteError}
    (enabled : UnwrittenUnless lacking header script) (differs : other.failure ≠ some .sidAndNaiAbsent)
    (unwritten : other.octets = []) :
    UnwrittenUnless (registered ∧ lacking) header (if registered then script else other) := by
  by_cases is : registered
  · rw [if_pos is, and_iff_right is]
    exact enabled
  · rw [if_neg is]
    exact of_unwritten (fun both => is both.1) differs fun _ => unwritten

end UnwrittenUnless

theorem Segment.length_of_lacking {segment : Segment} (lacking : ¬segment.Identified) :
    segment.length = 2 := by
  obtain ⟨sid, nai⟩ := not_identified_iff.mp lacking
  rw [length, Option.isNone_iff_eq_none.mp sid, Option.isNone_iff_eq_none.mp nai]
  rfl

theorem Srv6Segment.length_of_lacking {segment : Srv6Segment} (lacking : ¬segment.Identified) :
    segment.length ≤ 14 := by
  obtain ⟨sid, nai⟩ := not_identified_iff.mp lacking
  rw [length, Option.isNone_iff_eq_none.mp sid, Option.isNone_iff_eq_none.mp nai]
  cases segment.parts <;> simp [optionalLength]

theorem EroValue.refused_of_lacking {value : EroValue} (lacking : ¬value.Identified) :
    value.check = none ∧ value.length ≤ 14 ∧ value.script = .fail .sidAndNaiAbsent := by
  cases value with
  | segmentRouting segment =>
    refine ⟨rfl, ?_, if_pos (not_identified_iff.mp lacking)⟩
    rw [length, Segment.length_of_lacking lacking]
    decide
  | srv6 segment =>
    exact ⟨rfl, Srv6Segment.length_of_lacking lacking,
      if_pos (not_identified_iff.mp lacking)⟩
  | _ => exact absurd trivial lacking

theorem RroSubobject.refused_of_lacking {hop : RroSubobject} (lacking : ¬hop.Identified) :
    hop.check = none ∧ hop.valueLength ≤ 14 ∧ hop.valueScript = .fail .sidAndNaiAbsent := by
  cases hop with
  | segmentRouting segment =>
    refine ⟨rfl, ?_, if_pos (not_identified_iff.mp lacking)⟩
    rw [valueLength, Segment.length_of_lacking lacking]
    decide
  | _ => exact absurd trivial lacking

theorem EroSubobject.unwrittenUnless (registry : Registry) (hop : EroSubobject) :
    UnwrittenUnless ((registry.ero? hop.code).isSome ∧ ¬hop.value.Identified)
      (Subobject.header hop.loose hop.code hop.length) (hop.script registry) := by
  rw [script]
  apply UnwrittenUnless.of_registered
  · apply UnwrittenUnless.of_checked (List.cons_ne_nil _ _)
    · exact EroValue.check_ne_sidAndNaiAbsent _
    · exact Subobject.lengthCheck_ne_sidAndNaiAbsent _
    · exact EroValue.identified_iff.mpr
    · intro lacking
      obtain ⟨checked, short, refused⟩ := EroValue.refused_of_lacking lacking
      refine ⟨checked, ?_, refused⟩
      rw [Subobject.lengthCheck_eq_none, length]
      omega
  · rw [Script.failure_fail]
    simp
  · rfl

theorem XroSubobject.unwritten {registry : Registry} {hop : XroSubobject} {octets : List UInt8}
    {error : SubobjectWriteError} (failed : (hop.script registry).run none = (octets, some error)) :
    octets = [] := by
  rw [script] at failed
  split at failed
  · cases long : Subobject.lengthCheck hop.length <;> rw [long] at failed <;> cases failed
    rfl
  · cases failed
    rfl

theorem RroSubobject.unwrittenUnless (registry : Registry) (hop : RroSubobject) :
    UnwrittenUnless (hop.isRegistered registry = true ∧ ¬hop.Identified)
      (Subobject.header false hop.code (2 + hop.valueLength)) (hop.script registry) := by
  rw [script]
  apply UnwrittenUnless.of_registered
  · apply UnwrittenUnless.of_checked (List.cons_ne_nil _ _)
    · exact RroSubobject.check_ne_sidAndNaiAbsent hop
    · exact Subobject.lengthCheck_ne_sidAndNaiAbsent _
    · exact RroSubobject.identified_iff.mpr
    · intro lacking
      obtain ⟨checked, short, refused⟩ := RroSubobject.refused_of_lacking lacking
      refine ⟨checked, ?_, refused⟩
      rw [Subobject.lengthCheck_eq_none]
      omega
  · rw [Script.failure_done]
    simp
  · rfl

/-! ## The statement for hops -/

theorem refused_hop_unwritten_unless_lacking (registry : Registry) :
    (∀ hop : EroSubobject, UnwrittenUnless ((registry.ero? hop.code).isSome ∧ ¬hop.value.Identified)
      (Subobject.header hop.loose hop.code hop.length) (hop.script registry)) ∧
    (∀ (hop : XroSubobject) (octets : List UInt8) (error : SubobjectWriteError),
      (hop.script registry).run none = (octets, some error) → octets = []) ∧
    ∀ hop : RroSubobject, UnwrittenUnless (hop.isRegistered registry = true ∧ ¬hop.Identified)
      (Subobject.header false hop.code (2 + hop.valueLength)) (hop.script registry) := by
  refine ⟨?_, ?_, ?_⟩
  · exact EroSubobject.unwrittenUnless registry
  · intro hop octets error failed
    exact XroSubobject.unwritten failed
  · exact RroSubobject.unwrittenUnless registry

/-- A segment that says neither what it is called nor where it leads. -/
def EroSubobject.lacking : EroSubobject := ⟨false, .segmentRouting ⟨.absent, false, false, none, none⟩⟩

theorem refused_hop_unwritten_unless_lacking_full :
    (EroSubobject.lacking.script .full).run none = ([36, 4], some .sidAndNaiAbsent) ∧
    (([36, 4] : List UInt8) = [] ↔
      ¬((Registry.full.ero? EroSubobject.lacking.code).isSome ∧ ¬EroSubobject.lacking.value.Identified)) ∧
    ((XroSubobject.script .empty ⟨false, .asNumber 7⟩).run none).1 = [] := by
  have lacks : (Registry.full.ero? EroSubobject.lacking.code).isSome ∧
      ¬EroSubobject.lacking.value.Identified := by
    refine ⟨by decide +kernel, ?_⟩
    rintro (sid | nai)
    · exact sid rfl
    · exact nai rfl
  obtain ⟨routes, -, -⟩ := refused_hop_unwritten_unless_lacking .full
  obtain ⟨-, avoided, -⟩ := refused_hop_unwritten_unless_lacking .empty
  have left : (EroSubobject.lacking.script .full).run none = ([36, 4], some .sidAndNaiAbsent) :=
    (routes EroSubobject.lacking).lacks.mpr lacks
  have refused : (XroSubobject.script .empty ⟨false, .asNumber 7⟩).run none =
      (_, some (.unregistered 32)) := Prod.ext rfl (by decide +kernel)
  exact ⟨left, (routes EroSubobject.lacking).failed _ _ left, avoided _ _ _ refused⟩

theorem not_unwritten_of_refused :
    ¬∀ (registry : Registry) (hop : EroSubobject) (octets : List UInt8) (error : SubobjectWriteError),
      (hop.script registry).run none = (octets, some error) → octets = [] := by
  intro unwritten
  have failed : (EroSubobject.lacking.script .full).run none = ([36, 4], some .sidAndNaiAbsent) := by
    decide +kernel
  cases unwritten _ _ _ _ failed

end Pcep
end RouteWire
