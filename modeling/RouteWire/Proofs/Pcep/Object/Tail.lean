import RouteWire.Proofs.Pcep.Subobject.Route
import RouteWire.Proofs.Pcep.TlvSet
/-!
What follows the fixed part of a body: TLVs, a route, or the information of an enterprise. Whatever is
written there has the length that is computed beforehand, and fills whole groups of four octets, but for
octets of an enterprise that are not in records.

Main statements: `Tail.length_script`, `Tail.length_mod_uncut`, `Tail.length_mod`.
-/
namespace RouteWire.Pcep
variable {registry : Registry} {octets : List UInt8}

theorem Nai.length_mod (nai : Nai) : nai.length % 4 = 0 := by
  cases nai <;> simp [length]

theorem Label.length_mod {label : Label} (checked : label.check = none) : label.length % 4 = 2 := by
  cases label with
  | type1 | wavebandSwitching => simp [length]
  | generalized octets =>
    rw [check, ite_eq_right_iff] at checked
    have lengths : ¬(octets.length = 0 ∨ octets.length % 4 ≠ 0) := fun wrong => by cases checked wrong
    rw [length]
    omega

theorem Segment.length_mod (segment : Segment) : segment.length % 4 = 2 := by
  rw [length]
  cases segment.sid <;> cases segment.nai <;> simp only [optionalLength]
  all_goals first
    | rfl
    | next nai =>
      have := nai.length_mod
      omega

theorem Srv6Segment.length_mod (segment : Srv6Segment) : segment.length % 4 = 2 := by
  rw [length]
  cases segment.sid <;> cases segment.parts <;> cases segment.nai <;> simp only [optionalLength]
  all_goals first
    | rfl
    | next nai =>
      have := nai.length_mod
      omega

theorem EroSubobject.length_mod {subobject : EroSubobject}
    (written : (subobject.script registry).failure = none) : subobject.length % 4 = 0 := by
  obtain ⟨-, checked, -⟩ := script_ok.mp (Script.toExcept_of_failure written)
  obtain ⟨loose, value⟩ := subobject
  rw [length]
  cases value with
  | label backward label =>
    have := label.length_mod checked
    rw [EroValue.length]
    omega
  | segmentRouting segment =>
    have := segment.length_mod
    rw [EroValue.length]
    omega
  | srv6 segment =>
    have := segment.length_mod
    rw [EroValue.length]
    omega
  | _ => simp [EroValue.length]

theorem XroSubobject.length_mod (subobject : XroSubobject) : subobject.length % 4 = 0 := by
  obtain ⟨mandatory, value⟩ := subobject
  cases value <;> simp [length, XroValue.length]

theorem RroSubobject.length_mod {subobject : RroSubobject}
    (written : (subobject.script registry).failure = none) :
    subobject.length registry % 4 = 0 := by
  rw [length]
  split
  · next registered =>
    obtain ⟨checked, -⟩ := (script_ok registered).mp (Script.toExcept_of_failure written)
    cases subobject with
    | label backward wide label =>
      have := label.length_mod checked
      rw [valueLength]
      omega
    | segmentRouting segment =>
      have := segment.length_mod
      rw [valueLength]
      omega
    | _ => simp [valueLength]
  · rfl

namespace ObjectBody.Tail

/-- What reading needs to find besides the octets. The information of an enterprise is not followed by
padding that could be told from it, so it must need none; information in records never does. -/
def Readable (registry : Registry) : Tail → Prop
  | nothing | excludedRoute _ => True
  | tlvs list => ∀ tlv ∈ list, tlv.Readable registry
  | explicitRoute route => ∀ subobject ∈ route, subobject.value.Consistent
  | reportedRoute route => ∀ subobject ∈ route, subobject.Consistent
  | vendorInformation information =>
    information.Structured registry ∧ information.valueLength % 4 = 0

def Identified : Tail → Prop
  | explicitRoute route => ∀ subobject ∈ route, subobject.value.Identified
  | reportedRoute route => ∀ subobject ∈ route, subobject.Identified
  | nothing | tlvs _ | excludedRoute _ | vendorInformation _ => True

theorem length_script {tail : Tail} (written : (tail.script registry).toExcept = .ok octets) :
    octets.length = tail.length registry := by
  cases tail with
  | nothing => rw [Script.done_ok.mp written]; rfl
  | tlvs list => exact Tlv.length_scriptAll (Script.mapError_ok.mp written)
  | explicitRoute route => exact Subobject.length_eroScript (Script.mapError_ok.mp written)
  | reportedRoute route => exact Subobject.length_rroScript (Script.mapError_ok.mp written)
  | excludedRoute route => exact Subobject.length_xroScript (Script.mapError_ok.mp written)
  | vendorInformation information => exact Tlv.length_vendorScript (Script.mapError_ok.mp written)

/-- The octets of a tail that are not in elements, each with a length of its own. -/
def uncut : Tail → List UInt8
  | vendorInformation information => information.uncut
  | nothing | tlvs _ | explicitRoute _ | reportedRoute _ | excludedRoute _ => []

theorem length_mod_uncut {tail : Tail} (written : (tail.script registry).failure = none) :
    tail.length registry % 4 = tail.uncut.length % 4 := by
  have ran := Script.toExcept_of_failure written
  cases tail with
  | nothing => rfl
  | tlvs list => exact sum_mod_of_mem fun tlv _ => Tlv.length_mod registry tlv
  | explicitRoute route =>
    obtain ⟨-, runs, -⟩ := Subobject.routeScript_ok.mp (Script.mapError_ok.mp ran)
    exact sum_mod_of_mem fun subobject member => EroSubobject.length_mod (runs _ member)
  | reportedRoute route =>
    obtain ⟨runs, -⟩ := Script.concat_map_ok.mp (Script.mapError_ok.mp ran)
    exact sum_mod_of_mem fun subobject member => RroSubobject.length_mod (runs _ member)
  | excludedRoute route => exact sum_mod_of_mem fun subobject _ => subobject.length_mod
  | vendorInformation information => exact information.valueLength_mod

theorem length_mod {tail : Tail} (readable : tail.Readable registry)
    (written : (tail.script registry).failure = none) : tail.length registry % 4 = 0 := by
  cases tail with
  | vendorInformation information => exact readable.2
  | _ => exact length_mod_uncut written

end ObjectBody.Tail
end RouteWire.Pcep
