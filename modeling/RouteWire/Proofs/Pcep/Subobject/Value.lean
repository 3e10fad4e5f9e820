import Mathlib.Order.Nat
import RouteWire.Proofs.Pcep.Subobject.Part
import RouteWire.Proofs.Pcep.Subobject.Segment
/-!
The contents of subobjects, written and read. A value that is written is read back, and a value that
was read passes the checks of writing and is not longer than what it was read from. A segment without
any identifier is the exception: it can be read but not written.

Main statements: `readEroValue_script`, `readXroValue_octets`, `readRroValue_script`, and
`eroValue_of_read`, `xroValue_of_read`, `rroValue_of_read`.
-/
namespace RouteWire.Pcep
open Reader
variable {slice rest : Slice} {octets : List UInt8}

namespace EroValue

def Consistent : EroValue → Prop
  | segmentRouting segment => segment.Consistent
  | srv6 segment => segment.Consistent
  | _ => True

def Identified : EroValue → Prop
  | segmentRouting segment => segment.Identified
  | srv6 segment => segment.Identified
  | _ => True

theorem identified_of_kind {value : EroValue} (segment : value.kind ≠ .segmentRouting)
    (srv6 : value.kind ≠ .srv6) : value.Identified := by
  cases value with
  | segmentRouting _ => exact absurd rfl segment
  | srv6 _ => exact absurd rfl srv6
  | _ => trivial

theorem identified_iff {value : EroValue} : value.script.failure = none ↔ value.Identified := by
  cases value with
  | segmentRouting segment =>
    constructor
    · intro runs
      exact (Segment.script_ok.mp (Script.toExcept_of_failure runs)).1
    · intro identified
      exact (Script.toExcept_ok.mp (Segment.script_ok.mpr ⟨identified, rfl⟩)).1
  | srv6 segment =>
    constructor
    · intro runs
      exact (Srv6Segment.script_ok.mp (Script.toExcept_of_failure runs)).1
    · intro identified
      exact (Script.toExcept_ok.mp (Srv6Segment.script_ok.mpr ⟨identified, rfl⟩)).1
  | _ => simp [script, Identified]

end EroValue

namespace RroSubobject

def Consistent : RroSubobject → Prop
  | segmentRouting segment => segment.Consistent
  | _ => True

def Identified : RroSubobject → Prop
  | segmentRouting segment => segment.Identified
  | _ => True

theorem identified_of_kind {subobject : RroSubobject} (segment : subobject.kind ≠ .segmentRouting) :
    subobject.Identified := by
  cases subobject with
  | segmentRouting _ => exact absurd rfl segment
  | _ => trivial

theorem identified_iff {subobject : RroSubobject} :
    subobject.valueScript.failure = none ↔ subobject.Identified := by
  cases subobject with
  | segmentRouting segment =>
    constructor
    · intro runs
      exact (Segment.script_ok.mp (Script.toExcept_of_failure runs)).1
    · intro identified
      exact (Script.toExcept_ok.mp (Segment.script_ok.mpr ⟨identified, rfl⟩)).1
  | _ => simp [valueScript, Identified]

end RroSubobject

theorem Label.length_octets (label : Label) : label.octets.length + 1 = label.length := by
  cases label <;> simp [Label.octets, length]
  omega

@[simp] theorem PathKey.length_octets {α : Type} (address : α → List UInt8) (key : PathKey α) :
    (key.octets address).length = 2 + (address key.pceId).length := by
  simp [PathKey.octets]

@[simp] theorem UnnumberedInterface.length_octets (hop : UnnumberedInterface) :
    hop.octets.length = 8 := by
  simp [UnnumberedInterface.octets]

@[simp] theorem Ipv4Network.length_octets (network : Ipv4Network) : network.octets.length = 5 := by
  simp [Ipv4Network.octets]

@[simp] theorem Ipv6Network.length_octets (network : Ipv6Network) : network.octets.length = 17 := by
  simp [Ipv6Network.octets]

theorem EroValue.length_script {value : EroValue} (written : value.script.toExcept = .ok octets) :
    octets.length = value.length := by
  cases value with
  | segmentRouting segment =>
    obtain ⟨-, rfl⟩ := Segment.script_ok.mp written
    exact segment.length_octets
  | srv6 segment =>
    obtain ⟨-, rfl⟩ := Srv6Segment.script_ok.mp written
    exact segment.length_octets
  | label backward label =>
    rw [script, Script.emit_ok] at written
    rw [written, List.length_cons]
    exact label.length_octets
  | _ =>
    rw [script, Script.emit_ok] at written
    simp [written, length]

theorem XroValue.length_octets (value : XroValue) : value.octets.length = value.length := by
  cases value <;> simp [XroValue.octets, length]

theorem RroSubobject.length_valueScript {subobject : RroSubobject}
    (written : subobject.valueScript.toExcept = .ok octets) :
    octets.length = subobject.valueLength := by
  cases subobject with
  | segmentRouting segment =>
    obtain ⟨-, rfl⟩ := Segment.script_ok.mp written
    exact segment.length_octets
  | label backward wide label =>
    rw [valueScript, Script.emit_ok] at written
    rw [written, List.length_cons]
    exact label.length_octets
  | _ =>
    rw [valueScript, Script.emit_ok] at written
    simp [written, valueLength]

namespace Subobject

theorem withAttribute_code {α : Type} (network : α) (aspect : XroAttribute) :
    withAttribute (network, CodePoint.code aspect) = .ok (network, aspect) := by
  rw [withAttribute, attributeOfCode, CodePoint.ofCode_ok.mpr rfl]

theorem readEroValue_script {value : EroValue} (checked : value.check = none)
    (consistent : value.Consistent) (written : value.script.toExcept = .ok octets)
    (behind : Behind slice octets rest) (nothing : rest.octets = []) :
    readEroValue value.kind slice = .ok (value, rest) := by
  have length := length_of_behind behind nothing
  rw [EroValue.length_script written] at length
  cases value with
  | segmentRouting segment =>
    obtain ⟨identified, rfl⟩ := Segment.script_ok.mp written
    exact Reader.bind_ok.mpr ⟨_, _, readSegment_octets consistent identified behind, rfl⟩
  | srv6 segment =>
    obtain ⟨identified, rfl⟩ := Srv6Segment.script_ok.mp written
    exact Reader.bind_ok.mpr ⟨_, _, readSrv6Segment_octets consistent identified behind, rfl⟩
  | ipv4Prefix network =>
    rw [EroValue.script, Script.emit_ok] at written
    rw [written] at behind
    simp only [EroValue.kind, readEroValue, Reader.bind_ok]
    exact ⟨(network, 0), _, readIpv4Network_ok.mpr ⟨length, behind⟩, rfl⟩
  | ipv6Prefix network =>
    rw [EroValue.script, Script.emit_ok] at written
    rw [written] at behind
    simp only [EroValue.kind, readEroValue, Reader.bind_ok]
    exact ⟨(network, 0), _, readIpv6Network_ok.mpr ⟨length, behind⟩, rfl⟩
  | label backward label =>
    rw [EroValue.script, Script.emit_ok] at written
    rw [written] at behind
    obtain ⟨_, flags, contents⟩ := behind_cons_iff.mp behind
    simp only [EroValue.kind, readEroValue, Reader.bind_ok]
    refine ⟨_, _, octet_ok.mpr flags, _, _, readLabel_ok.mpr ⟨contents, nothing, checked⟩, ?_⟩
    cases backward <;> rfl
  | unnumberedInterface hop =>
    rw [EroValue.script, Script.emit_ok] at written
    rw [written] at behind
    obtain ⟨_, reserved, contents⟩ := behind_append_iff.mp behind
    simp only [EroValue.kind, readEroValue, Reader.bind_ok]
    exact ⟨(), _, exactLength_ok.mpr ⟨length, rfl⟩, 0, _, word16_ok.mpr reserved, _, _,
      readUnnumberedInterface_ok.mpr contents, rfl⟩
  | asNumber number =>
    rw [EroValue.script, Script.emit_ok] at written
    rw [written] at behind
    exact Reader.bind_ok.mpr ⟨_, _, readAsNumber_ok.mpr ⟨length, behind⟩, rfl⟩
  | pathKeyIpv4 key =>
    rw [EroValue.script, Script.emit_ok] at written
    rw [written] at behind
    exact Reader.bind_ok.mpr ⟨_, _, readPathKeyIpv4_ok.mpr ⟨length, behind⟩, rfl⟩
  | pathKeyIpv6 key =>
    rw [EroValue.script, Script.emit_ok] at written
    rw [written] at behind
    exact Reader.bind_ok.mpr ⟨_, _, readPathKeyIpv6_ok.mpr ⟨length, behind⟩, rfl⟩

theorem readXroValue_octets {value : XroValue} (behind : Behind slice value.octets rest)
    (nothing : rest.octets = []) : readXroValue value.kind slice = .ok (value, rest) := by
  have length := length_of_behind behind nothing
  rw [XroValue.length_octets] at length
  cases value with
  | ipv4Prefix network aspect =>
    simp only [XroValue.kind, readXroValue, Reader.bind_ok, convert_ok]
    exact ⟨(network, aspect), _, ⟨_, readIpv4Network_ok.mpr ⟨length, behind⟩,
      withAttribute_code network aspect⟩, rfl⟩
  | ipv6Prefix network aspect =>
    simp only [XroValue.kind, readXroValue, Reader.bind_ok, convert_ok]
    exact ⟨(network, aspect), _, ⟨_, readIpv6Network_ok.mpr ⟨length, behind⟩,
      withAttribute_code network aspect⟩, rfl⟩
  | unnumberedInterface aspect hop =>
    obtain ⟨_, front, contents⟩ := behind_append_iff.mp behind
    obtain ⟨_, reserved, code⟩ := behind_cons_iff.mp front
    simp only [XroValue.kind, readXroValue, Reader.bind_ok]
    exact ⟨(), _, exactLength_ok.mpr ⟨length, rfl⟩, _, _, octet_ok.mpr reserved, _, _,
      readCode_ok.mpr code, _, _, readUnnumberedInterface_ok.mpr contents, rfl⟩
  | asNumber number =>
    exact Reader.bind_ok.mpr ⟨_, _, readAsNumber_ok.mpr ⟨length, behind⟩, rfl⟩
  | srlg id aspect =>
    obtain ⟨_, number, back⟩ := behind_append_iff.mp behind
    obtain ⟨_, reserved, code⟩ := behind_cons_iff.mp back
    simp only [XroValue.kind, readXroValue, Reader.bind_ok]
    exact ⟨(), _, exactLength_ok.mpr ⟨length, rfl⟩, _, _, word32_ok.mpr number, _, _,
      octet_ok.mpr reserved, _, _, readCode_ok.mpr code, rfl⟩
  | pathKeyIpv4 key =>
    exact Reader.bind_ok.mpr ⟨_, _, readPathKeyIpv4_ok.mpr ⟨length, behind⟩, rfl⟩
  | pathKeyIpv6 key =>
    exact Reader.bind_ok.mpr ⟨_, _, readPathKeyIpv6_ok.mpr ⟨length, behind⟩, rfl⟩

theorem readRroValue_script {subobject : RroSubobject} (checked : subobject.check = none)
    (consistent : subobject.Consistent) (written : subobject.valueScript.toExcept = .ok octets)
    (behind : Behind slice octets rest) (nothing : rest.octets = []) :
    readRroValue subobject.kind slice = .ok (subobject, rest) := by
  have length := length_of_behind behind nothing
  rw [RroSubobject.length_valueScript written] at length
  cases subobject with
  | segmentRouting segment =>
    obtain ⟨identified, rfl⟩ := Segment.script_ok.mp written
    exact Reader.bind_ok.mpr ⟨_, _, readSegment_octets consistent identified behind, rfl⟩
  | ipv4Prefix network protection =>
    rw [RroSubobject.valueScript, Script.emit_ok] at written
    rw [written] at behind
    simp only [RroSubobject.kind, readRroValue, Reader.bind_ok, pure_ok]
    exact ⟨(network, protection.flags), _, readIpv4Network_ok.mpr ⟨length, behind⟩,
      by rw [Protection.ofFlags_flags], rfl⟩
  | ipv6Prefix network protection =>
    rw [RroSubobject.valueScript, Script.emit_ok] at written
    rw [written] at behind
    simp only [RroSubobject.kind, readRroValue, Reader.bind_ok, pure_ok]
    exact ⟨(network, protection.flags), _, readIpv6Network_ok.mpr ⟨length, behind⟩,
      by rw [Protection.ofFlags_flags], rfl⟩
  | label backward wide label =>
    rw [RroSubobject.valueScript, Script.emit_ok] at written
    rw [written] at behind
    obtain ⟨_, flags, contents⟩ := behind_cons_iff.mp behind
    simp only [RroSubobject.kind, readRroValue, Reader.bind_ok]
    refine ⟨_, _, octet_ok.mpr flags, _, _, readLabel_ok.mpr ⟨contents, nothing, checked⟩, ?_⟩
    cases backward <;> cases wide <;> rfl
  | unnumberedInterface protection hop =>
    rw [RroSubobject.valueScript, Script.emit_ok] at written
    rw [written] at behind
    obtain ⟨_, front, contents⟩ := behind_append_iff.mp behind
    obtain ⟨_, flags, reserved⟩ := behind_cons_iff.mp front
    simp only [RroSubobject.kind, readRroValue, Reader.bind_ok, pure_ok]
    exact ⟨(), _, exactLength_ok.mpr ⟨length, rfl⟩, _, _, octet_ok.mpr flags, _, _,
      octet_ok.mpr reserved, _, _, readUnnumberedInterface_ok.mpr contents,
      by rw [Protection.ofFlags_flags], rfl⟩
  | pathKeyIpv4 key =>
    rw [RroSubobject.valueScript, Script.emit_ok] at written
    rw [written] at behind
    exact Reader.bind_ok.mpr ⟨_, _, readPathKeyIpv4_ok.mpr ⟨length, behind⟩, rfl⟩
  | pathKeyIpv6 key =>
    rw [RroSubobject.valueScript, Script.emit_ok] at written
    rw [written] at behind
    exact Reader.bind_ok.mpr ⟨_, _, readPathKeyIpv6_ok.mpr ⟨length, behind⟩, rfl⟩

/-! ## Values that were read -/

theorem length_of_readLabel {label : Label} {flags : UInt8} {mid : Slice}
    (first : Behind slice [flags] mid) (found : readLabel mid = .ok (label, rest)) :
    label.length = slice.octets.length := by
  obtain ⟨contents, nothing, -⟩ := readLabel_ok.mp found
  rw [first.length, contents.length, nothing, ← label.length_octets]
  exact Nat.add_comm ..

theorem eroValue_of_read {kind : EroKind} {value : EroValue}
    (found : readEroValue kind slice = .ok (value, rest)) :
    value.kind = kind ∧ value.check = none ∧ value.Consistent ∧ value.length ≤ slice.octets.length ∧
      (kind ≠ .segmentRouting → kind ≠ .srv6 → value.length = slice.octets.length) := by
  cases kind with
  | ipv4Prefix =>
    simp only [readEroValue, Reader.bind_ok, pure_ok] at found
    obtain ⟨⟨network, _⟩, _, network, rfl, -⟩ := found
    have length := (readIpv4Network_ok.mp network).1
    exact ⟨rfl, rfl, trivial, length.ge, fun _ _ => length.symm⟩
  | ipv6Prefix =>
    simp only [readEroValue, Reader.bind_ok, pure_ok] at found
    obtain ⟨⟨network, _⟩, _, network, rfl, -⟩ := found
    have length := (readIpv6Network_ok.mp network).1
    exact ⟨rfl, rfl, trivial, length.ge, fun _ _ => length.symm⟩
  | label =>
    simp only [readEroValue, Reader.bind_ok, octet_ok, pure_ok] at found
    obtain ⟨_, _, flags, label, _, readLabel, rfl, rfl⟩ := found
    have length := length_of_readLabel flags readLabel
    exact ⟨rfl, (readLabel_ok.mp readLabel).2.2, trivial, length.le, fun _ _ => length⟩
  | unnumberedInterface =>
    simp only [readEroValue, Reader.bind_ok, exactLength_ok, pure_ok] at found
    obtain ⟨_, _, ⟨length, -⟩, _, _, -, _, _, -, rfl, -⟩ := found
    exact ⟨rfl, rfl, trivial, length.ge, fun _ _ => length.symm⟩
  | asNumber =>
    simp only [readEroValue, Reader.bind_ok, pure_ok] at found
    obtain ⟨_, _, number, rfl, -⟩ := found
    have length := (readAsNumber_ok.mp number).1
    exact ⟨rfl, rfl, trivial, length.ge, fun _ _ => length.symm⟩
  | segmentRouting =>
    simp only [readEroValue, Reader.bind_ok, pure_ok] at found
    obtain ⟨_, _, segment, rfl, -⟩ := found
    obtain ⟨consistent, length⟩ := segment_of_read segment
    exact ⟨rfl, rfl, consistent, length ▸ Nat.le_add_right .., fun other => absurd rfl other⟩
  | srv6 =>
    simp only [readEroValue, Reader.bind_ok, pure_ok] at found
    obtain ⟨_, _, segment, rfl, -⟩ := found
    obtain ⟨consistent, length⟩ := srv6Segment_of_read segment
    exact ⟨rfl, rfl, consistent, length ▸ Nat.le_add_right .., fun _ other => absurd rfl other⟩
  | pathKeyIpv4 =>
    simp only [readEroValue, Reader.bind_ok, pure_ok] at found
    obtain ⟨_, _, key, rfl, -⟩ := found
    have length := (readPathKeyIpv4_ok.mp key).1
    exact ⟨rfl, rfl, trivial, length.ge, fun _ _ => length.symm⟩
  | pathKeyIpv6 =>
    simp only [readEroValue, Reader.bind_ok, pure_ok] at found
    obtain ⟨_, _, key, rfl, -⟩ := found
    have length := (readPathKeyIpv6_ok.mp key).1
    exact ⟨rfl, rfl, trivial, length.ge, fun _ _ => length.symm⟩

theorem xroValue_of_read {kind : XroKind} {value : XroValue}
    (found : readXroValue kind slice = .ok (value, rest)) :
    value.kind = kind ∧ value.length = slice.octets.length := by
  cases kind with
  | ipv4Prefix =>
    simp only [readXroValue, Reader.bind_ok, convert_ok, pure_ok] at found
    obtain ⟨_, _, ⟨⟨_, _⟩, network, -⟩, rfl, -⟩ := found
    exact ⟨rfl, (readIpv4Network_ok.mp network).1.symm⟩
  | ipv6Prefix =>
    simp only [readXroValue, Reader.bind_ok, convert_ok, pure_ok] at found
    obtain ⟨_, _, ⟨⟨_, _⟩, network, -⟩, rfl, -⟩ := found
    exact ⟨rfl, (readIpv6Network_ok.mp network).1.symm⟩
  | unnumberedInterface =>
    simp only [readXroValue, Reader.bind_ok, exactLength_ok, pure_ok] at found
    obtain ⟨_, _, ⟨length, -⟩, _, _, -, _, _, -, _, _, -, rfl, -⟩ := found
    exact ⟨rfl, length.symm⟩
  | asNumber =>
    simp only [readXroValue, Reader.bind_ok, pure_ok] at found
    obtain ⟨_, _, number, rfl, -⟩ := found
    exact ⟨rfl, (readAsNumber_ok.mp number).1.symm⟩
  | srlg =>
    simp only [readXroValue, Reader.bind_ok, exactLength_ok, pure_ok] at found
    obtain ⟨_, _, ⟨length, -⟩, _, _, -, _, _, -, _, _, -, rfl, -⟩ := found
    exact ⟨rfl, length.symm⟩
  | pathKeyIpv4 =>
    simp only [readXroValue, Reader.bind_ok, pure_ok] at found
    obtain ⟨_, _, key, rfl, -⟩ := found
    exact ⟨rfl, (readPathKeyIpv4_ok.mp key).1.symm⟩
  | pathKeyIpv6 =>
    simp only [readXroValue, Reader.bind_ok, pure_ok] at found
    obtain ⟨_, _, key, rfl, -⟩ := found
    exact ⟨rfl, (readPathKeyIpv6_ok.mp key).1.symm⟩

theorem rroValue_of_read {kind : RroKind} {subobject : RroSubobject}
    (found : readRroValue kind slice = .ok (subobject, rest)) :
    subobject.kind = kind ∧ subobject.check = none ∧ subobject.Consistent ∧
      subobject.valueLength ≤ slice.octets.length := by
  cases kind with
  | ipv4Prefix =>
    simp only [readRroValue, Reader.bind_ok, pure_ok] at found
    obtain ⟨⟨network, _⟩, _, network, rfl, -⟩ := found
    exact ⟨rfl, rfl, trivial, (readIpv4Network_ok.mp network).1.ge⟩
  | ipv6Prefix =>
    simp only [readRroValue, Reader.bind_ok, pure_ok] at found
    obtain ⟨⟨network, _⟩, _, network, rfl, -⟩ := found
    exact ⟨rfl, rfl, trivial, (readIpv6Network_ok.mp network).1.ge⟩
  | label =>
    simp only [readRroValue, Reader.bind_ok, octet_ok, pure_ok] at found
    obtain ⟨_, _, flags, label, _, readLabel, rfl, rfl⟩ := found
    exact ⟨rfl, (readLabel_ok.mp readLabel).2.2, trivial, (length_of_readLabel flags readLabel).le⟩
  | unnumberedInterface =>
    simp only [readRroValue, Reader.bind_ok, exactLength_ok, pure_ok] at found
    obtain ⟨_, _, ⟨length, -⟩, _, _, -, _, _, -, _, _, -, rfl, -⟩ := found
    exact ⟨rfl, rfl, trivial, length.ge⟩
  | segmentRouting =>
    simp only [readRroValue, Reader.bind_ok, pure_ok] at found
    obtain ⟨_, _, segment, rfl, -⟩ := found
    obtain ⟨consistent, length⟩ := segment_of_read segment
    exact ⟨rfl, rfl, consistent, length ▸ Nat.le_add_right ..⟩
  | pathKeyIpv4 =>
    simp only [readRroValue, Reader.bind_ok, pure_ok] at found
    obtain ⟨_, _, key, rfl, -⟩ := found
    exact ⟨rfl, rfl, trivial, (readPathKeyIpv4_ok.mp key).1.ge⟩
  | pathKeyIpv6 =>
    simp only [readRroValue, Reader.bind_ok, pure_ok] at found
    obtain ⟨_, _, key, rfl, -⟩ := found
    exact ⟨rfl, rfl, trivial, (readPathKeyIpv6_ok.mp key).1.ge⟩

end Subobject
end RouteWire.Pcep
