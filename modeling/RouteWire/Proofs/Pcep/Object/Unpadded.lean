import RouteWire.Proofs.Pcep.Object.Frame
/-!
Padding of objects. Objects are padded to four octets, and the zeros count as part of them, so a reader of
TLVs or of a route would take the zeros for the header of one more element. Everything that is made of
elements fills whole groups of four octets by itself, so there are no zeros behind it. They stand only
behind octets that are not in elements, which is what `uncut` gives of a value.

Main statements: `Object.padding_eq`, `contents_unpadded`.
-/
namespace RouteWire.Pcep
variable {registry : Registry} {octets : List UInt8}

namespace ObjectValue
variable {value : ObjectValue}

def uncut : ObjectValue → List UInt8
  | known body => body.tail.uncut
  | unknown body => body.octets

theorem length_mod_uncut (written : (value.script registry).toExcept = .ok octets) :
    value.length registry % 4 = value.uncut.length % 4 := by
  cases value with
  | unknown body => rfl
  | known body =>
    obtain ⟨back, tail, -⟩ := Script.emit_append_ok.mp written
    have front := body.fixedLength_mod
    have behind := ObjectBody.Tail.length_mod_uncut (Script.toExcept_ok.mp tail).1
    rw [length, uncut]
    omega

/-- Values whose octets can end anywhere: information of an enterprise without structure, and a body that
was kept as it came. -/
inductive Formless : ObjectValue → Prop
  | information (enterprise : UInt32) (octets : List UInt8) :
      Formless (.known (.vendorInformation ⟨enterprise, .unstructured octets⟩))
  | unknown (body : UnknownBody) : Formless (.unknown body)

theorem uncut_eq_nil (formed : ¬value.Formless) : value.uncut = [] := by
  cases value with
  | unknown body => exact absurd (.unknown body) formed
  | known body =>
    cases body with
    | vendorInformation information =>
      obtain ⟨enterprise, payload⟩ := information
      cases payload with
      | subTlvs records => rfl
      | unstructured octets => exact absurd (.information enterprise octets) formed
    | _ => rfl

end ObjectValue

namespace Object
variable {object : Object}

theorem padding_eq (written : (object.script registry).toExcept = .ok octets) :
    padding (object.unpaddedLength registry) = padding object.value.uncut.length := by
  obtain ⟨-, -, -, contents, value, -⟩ := script_ok.mp written
  rw [unpaddedLength, padding_four_add, padding, ObjectValue.length_mod_uncut value, padding]

example : padding (unpaddedLength .full ⟨⟨false, false⟩, .known (.vendorInformation
    ⟨9, .unstructured [7]⟩)⟩) = 3 := by decide

/-- The octets of an object are its header and its contents, in whole groups of four, and the contents are
what is cut off as such when the octets are read. -/
structure Unpadded (registry : Registry) (object : Object) (octets : List UInt8) : Prop where
  whole : object.value.length registry % 4 = 0
  padding_eq : padding (object.unpaddedLength registry) = 0
  parts : ∃ contents, (object.value.script registry).run none = (contents, none) ∧
    contents.length = object.value.length registry ∧
      octets = object.header (4 + contents.length) ++ contents ∧
        Framing.CutsOff framing octets fun frame => frame.value.octets = contents

theorem unpadded (written : (object.script registry).toExcept = .ok octets)
    (formed : ¬object.value.Formless) : object.Unpadded registry octets := by
  have nothing := padding_eq written
  rw [ObjectValue.uncut_eq_nil formed] at nothing
  obtain ⟨-, fits, checked, contents, value, rfl⟩ := script_ok.mp written
  have length := ObjectValue.length_script value
  have whole := ObjectValue.length_mod_uncut value
  rw [ObjectValue.uncut_eq_nil formed] at whole
  rw [length_of_mod whole] at fits
  refine ⟨whole, nothing, contents, Script.run_none_iff.mpr value, length, octets_of_mod whole value, ?_⟩
  rw [octets_of_mod whole value]
  -- The length in the header counts the header and the contents alone, so nothing behind them is cut off.
  apply cutsOff_header (ObjectValue.objectType_le checked)
  · omega
  · rw [length]
    exact whole
  · intro start offset
    rfl

end Object

def WritesGroups {ε : Type} (script : Script ε) (length : Nat) : Prop :=
  ∀ octets, script.run none = (octets, none) → octets.length = length ∧ length % 4 = 0

theorem writesGroups {ε : Type} {script : Script ε} {length : Nat}
    (total : script.failure = none → script.octets.length = length)
    (whole : script.failure = none → length % 4 = 0) : WritesGroups script length := by
  intro octets written
  obtain ⟨runs, rfl⟩ := Script.toExcept_ok.mp (Script.run_none_iff.mp written)
  exact ⟨total runs, whole runs⟩

/-- No zeros follow the contents of an object, unless they are octets that are not taken apart. -/
theorem contents_unpadded (registry : Registry) :
    (∀ (object : Object) (octets : List UInt8), (object.script registry).run none = (octets, none) →
      ¬object.value.Formless → object.Unpadded registry octets) ∧
    (∀ subobject : EroSubobject, WritesGroups (subobject.script registry) subobject.length) ∧
    (∀ subobject : XroSubobject, WritesGroups (subobject.script registry) subobject.length) ∧
    ∀ subobject : RroSubobject,
      WritesGroups (subobject.script registry) (subobject.length registry) := by
  refine ⟨fun object octets written formed => ?_, fun subobject => ?_, fun subobject => ?_,
    fun subobject => ?_⟩
  · exact Object.unpadded (Script.run_none_iff.mp written) formed
  · exact writesGroups EroSubobject.length_script EroSubobject.length_mod
  · exact writesGroups XroSubobject.length_script fun _ => subobject.length_mod
  · exact writesGroups RroSubobject.length_script RroSubobject.length_mod

/-- A record of one octet, and labels that take up a group of four. -/
theorem contents_unpadded_oddRecord :
    let information : Object :=
      ⟨⟨true, false⟩, .known (.vendorInformation ⟨9, .subTlvs [⟨1, [7]⟩]⟩)⟩
    let octets : List UInt8 := [34, 18, 0, 16, 0, 0, 0, 9, 0, 1, 0, 1, 7, 0, 0, 0]
    let explicit : EroSubobject := ⟨false, .label true (.generalized [1, 2, 3, 4])⟩
    let excluded : XroSubobject := ⟨false, .srlg 5 .node⟩
    let reported : RroSubobject := .label false true (.generalized [1, 2, 3, 4])
    (information.script .full).run none = (octets, none) ∧ ¬information.value.Formless ∧
      information.Unpadded .full octets ∧
    (explicit.script .full).run none = ([3, 8, 128, 2, 1, 2, 3, 4], none) ∧
      8 = explicit.length ∧ explicit.length % 4 = 0 ∧
    (excluded.script .full).run none = ([34, 8, 0, 0, 0, 5, 0, 1], none) ∧
      8 = excluded.length ∧ excluded.length % 4 = 0 ∧
    (reported.script .full).run none = ([3, 8, 1, 2, 1, 2, 3, 4], none) ∧
      8 = reported.length .full ∧ reported.length .full % 4 = 0 := by
  intro information octets explicit excluded reported
  have object : (information.script .full).run none = (octets, none) := by decide +kernel
  have formed : ¬information.value.Formless := by
    rintro ⟨⟩
  have ero : (explicit.script .full).run none = ([3, 8, 128, 2, 1, 2, 3, 4], none) := by decide +kernel
  have xro : (excluded.script .full).run none = ([34, 8, 0, 0, 0, 5, 0, 1], none) := by decide +kernel
  have rro : (reported.script .full).run none = ([3, 8, 1, 2, 1, 2, 3, 4], none) := by decide +kernel
  obtain ⟨unpadded, explicits, excludeds, reporteds⟩ := contents_unpadded .full
  obtain ⟨explicitLength, explicitWhole⟩ := explicits explicit _ ero
  obtain ⟨excludedLength, excludedWhole⟩ := excludeds excluded _ xro
  obtain ⟨reportedLength, reportedWhole⟩ := reporteds reported _ rro
  exact ⟨object, formed, unpadded information octets object formed, ero, explicitLength, explicitWhole, xro,
    excludedLength, excludedWhole, rro, reportedLength, reportedWhole⟩

end RouteWire.Pcep
