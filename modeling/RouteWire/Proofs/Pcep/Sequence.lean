import Mathlib.Algebra.Order.BigOperators.Group.List
import Mathlib.Algebra.Order.Group.Nat
import RouteWire.Proofs.Pcep.Subobject.Route
import RouteWire.Proofs.Pcep.Tlv.Value
/-!
Sequences that are written and read on their own, outside any object. TLVs of registered kinds are read
back as they are, alone before any octets and all of them up to the end. The hops of a route are read
back in order, each with its flag; of a reported route those are that the registry knows.

Main statements: `Tlv.tlvs_read_back`, `Subobject.routes_read_back`.
-/
namespace RouteWire.Pcep
open Framing

namespace Tlv
variable {registry : Registry} {tlv : Tlv}

/-- A record is not longer than the information that it is in, so no check inside can fail first. -/
theorem vendorScript_of_short {information : VendorInformation}
    (short : information.valueLength ≤ 65535) : information.script.failure = none := by
  obtain ⟨enterprise, payload⟩ := information
  cases payload with
  | unstructured octets =>
    have written : (⟨enterprise, .unstructured octets⟩ : VendorInformation).script.toExcept = .ok _ :=
      vendorScript_ok.mpr ⟨_, rfl, rfl⟩
    exact (Script.toExcept_ok.mp written).1
  | subTlvs records =>
    have fits : ∀ record ∈ records, record.value.length ≤ 65535 := by
      intro record member
      calc record.value.length
        _ ≤ tlvLength record.value.length :=
          Nat.le_trans (Nat.le_add_left _ 4) (Nat.le_add_right ..)
        _ ≤ (records.map fun record => tlvLength record.value.length).sum :=
          List.le_sum_of_mem (List.mem_map_of_mem member)
        _ ≤ 65535 := Nat.le_trans (Nat.le_add_left _ 4) short
    have written : (⟨enterprise, .subTlvs records⟩ : VendorInformation).script.toExcept = .ok _ :=
      vendorScript_ok.mpr ⟨_, rfl, fits, rfl⟩
    exact (Script.toExcept_ok.mp written).1

theorem valueScript_of_short (short : tlv.valueLength ≤ 65535) : tlv.valueScript.failure = none := by
  cases tlv with
  | vendorInformation information => exact vendorScript_of_short short
  | _ => rfl

theorem failure_script_eq_none (registered : tlv.isRegistered registry = true) :
    (tlv.script registry).failure = none ↔ tlv.check = none ∧ tlv.valueLength ≤ 65535 := by
  constructor
  · intro runs
    obtain ⟨checked, short, -⟩ := (script_ok registered).mp (Script.toExcept_of_failure runs)
    exact ⟨checked, short⟩
  · intro ⟨checked, short⟩
    have value := Script.toExcept_of_failure (valueScript_of_short short)
    have written := (script_ok registered).mpr ⟨checked, short, _, value, rfl⟩
    exact (Script.toExcept_ok.mp written).1

theorem scan_script (canonical : registry.Canonical) (registered : tlv.isRegistered registry = true)
    (readable : tlv.Readable registry) {octets : List UInt8}
    (written : (tlv.script registry).toExcept = .ok octets) (suffix : List UInt8) :
    scan registry (.whole (octets ++ suffix)) =
      (∅, .ok (some tlv, ⟨octets.length, suffix⟩)) := by
  obtain ⟨runs, rfl⟩ := Script.toExcept_ok.mp written
  obtain ⟨frame, cut, found⟩ := cutsOff_script canonical registered readable runs 0 suffix
  rw [Nat.zero_add] at cut
  exact Scan.element_ok.mpr ⟨frame, cut, found⟩

theorem tlvs_read_back {session : Session} (assembled : session.registry.Assembled)
    {tlvs : List Tlv} {octets : Tlv → List UInt8}
    (registered : ∀ tlv ∈ tlvs, tlv.isRegistered session.registry = true)
    (readable : ∀ tlv ∈ tlvs, tlv.Readable session.registry)
    (written : ∀ tlv ∈ tlvs, (tlv.script session.registry).run none = (octets tlv, none)) :
    session.read Tlv.scanAll (tlvs.flatMap octets) =
        (.ok (tlvs, ⟨(tlvs.flatMap octets).length, []⟩), session) ∧
      (∀ tlv ∈ tlvs, ∀ suffix, session.read Tlv.scan (octets tlv ++ suffix) =
        (.ok (some tlv, ⟨(octets tlv).length, suffix⟩), session)) ∧
      ∀ tlv : Tlv, tlv.isRegistered session.registry = true →
        ((∃ octets, (tlv.script session.registry).run none = (octets, none)) ↔
          tlv.check = none ∧ tlv.valueLength ≤ 65535) := by
  have canonical := assembled.canonical
  have runs tlv (member : tlv ∈ tlvs) := Script.run_none_iff.mp (written tlv member)
  refine ⟨?_, ?_, ?_⟩
  · have all : (scriptAll session.registry tlvs).toExcept = .ok (tlvs.flatMap octets) := by
      refine Script.concat_map_ok.mpr ⟨fun tlv member => (Script.toExcept_ok.mp (runs tlv member)).1, ?_⟩
      apply List.flatMap_congr
      intro tlv member
      exact (Script.toExcept_ok.mp (runs tlv member)).2.symm
    have whole : scanAll session.registry (.whole _) = _ := scanAll_script canonical readable all
    rw [List.filter_eq_self.mpr registered, Nat.zero_add] at whole
    exact Session.read_of_scan whole
  · intro tlv member suffix
    exact Session.read_of_scan
      (scan_script canonical (registered tlv member) (readable tlv member) (runs tlv member) suffix)
  · intro tlv known
    rw [← failure_script_eq_none known]
    constructor
    · rintro ⟨octets, ends⟩
      exact congrArg Prod.snd ends
    · intro ends
      exact ⟨_, Script.run_none_iff.mpr (Script.toExcept_of_failure ends)⟩

def informed : Session := .start (Registry.full.registerVendor 9)

/-- TLVs with records inside, some of which are padded and one of which is not known. -/
def nested : List Tlv :=
  [.pathSetupTypeCapability ⟨[0, 1], [.srPceCapability ⟨true, false, 10⟩, .unknown 5 [7]]⟩,
    .vendorInformation ⟨9, .subTlvs [⟨1, [2, 3, 4]⟩, ⟨6, []⟩]⟩]

theorem tlvs_read_back_nested :
    informed.read Tlv.scanAll
        [0, 34, 0, 24, 0, 0, 0, 2, 0, 1, 0, 0, 0, 26, 0, 4, 0, 0, 2, 10, 0, 5, 0, 1, 7, 0, 0, 0,
          0, 7, 0, 16, 0, 0, 0, 9, 0, 1, 0, 3, 2, 3, 4, 0, 0, 6, 0, 0] =
      (.ok (nested, ⟨48, []⟩), informed) ∧
    informed.read Tlv.scan (tlvOctets 17 (zeros 65535) ++ [9]) =
      (.ok (some (.symbolicPathName (zeros 65535)), ⟨65540, [9]⟩), informed) := by
  have assembled : informed.registry.Assembled := .vendor 9 Registry.assembled_full
  constructor
  · have registered : ∀ tlv ∈ nested, tlv.isRegistered informed.registry = true := by decide +kernel
    have readable : ∀ tlv ∈ nested, tlv.Readable informed.registry := by
      intro tlv member
      obtain rfl | rfl := List.mem_pair.mp member
      · intro record inside
        obtain rfl | rfl := List.mem_pair.mp inside
        · trivial
        · exact (by decide : (5 : UInt16) ≠ 26)
      · exact (by decide : informed.registry.hasVendor 9 = true)
    have runs : ∀ tlv ∈ nested, (tlv.script informed.registry).failure = none := by decide +kernel
    exact (tlvs_read_back assembled registered readable fun tlv member => Prod.ext rfl (runs tlv member)).1
  · have registered : (symbolicPathName (zeros 65535)).isRegistered informed.registry = true := by
      decide +kernel
    have written : ((symbolicPathName (zeros 65535)).script informed.registry).run none =
        (tlvOctets 17 (zeros 65535), none) := by
      refine Script.run_none_iff.mpr ((script_ok registered).mpr ⟨rfl, ?_, _, Script.emit_ok.mpr rfl, rfl⟩)
      rw [valueLength, length_zeros]
    have length : (tlvOctets 17 (zeros 65535)).length = 65540 := by
      rw [length_tlvOctets, length_zeros]
      rfl
    have found := (@tlvs_read_back informed assembled [_] (fun _ => tlvOctets 17 (zeros 65535))
      (List.forall_mem_singleton.mpr registered) (List.forall_mem_singleton.mpr trivial)
      (List.forall_mem_singleton.mpr written)).2.1 _ (List.mem_singleton.mpr rfl) [9]
    rwa [length] at found

end Tlv

namespace Subobject
variable {registry : Registry}

theorem unflagged_idem (header : UInt8) : header % 128 % 128 = header % 128 := by grind

theorem eroOfFrame_flag (frame : Frame UInt8) :
    eroOfFrame registry frame =
      (eroOfFrame registry { frame with header := frame.header % 128 }).map fun subobject =>
        { subobject with loose := frame.header.toNat.testBit 7 } := by
  rw [eroOfFrame, eroOfFrame]
  dsimp only
  rw [unflagged_idem]
  cases registry.ero? (frame.header % 128) with
  | none => rfl
  | some kind =>
    dsimp only
    cases (readEroValue kind).inside frame.value <;> rfl

theorem xroOfFrame_flag (frame : Frame UInt8) :
    xroOfFrame registry frame =
      (xroOfFrame registry { frame with header := frame.header % 128 }).map fun subobject =>
        { subobject with mandatory := frame.header.toNat.testBit 7 } := by
  rw [xroOfFrame, xroOfFrame]
  dsimp only
  rw [unflagged_idem]
  cases registry.xro? (frame.header % 128) with
  | none => rfl
  | some kind =>
    dsimp only
    cases (readXroValue kind).inside frame.value <;> rfl

theorem routes_read_back {session : Session} (assembled : session.registry.Assembled) :
    (∀ (route : List EroSubobject) (octets : List UInt8),
      (∀ subobject ∈ route, subobject.value.Consistent) →
        (eroScript session.registry route).run none = (octets, none) →
          session.read (.ofReader readEro) octets =
            (.ok (route, ⟨octets.length, []⟩), session)) ∧
    (∀ (route : List XroSubobject) (octets : List UInt8),
      (xroScript session.registry route).run none = (octets, none) →
        session.read (.ofReader readXro) octets =
          (.ok (route, ⟨octets.length, []⟩), session)) ∧
    (∀ (route : List RroSubobject) (octets : List UInt8),
      (∀ subobject ∈ route, subobject.Consistent) →
        (rroScript session.registry route).run none = (octets, none) →
          session.read scanRro octets =
            (.ok (route.filter (RroSubobject.isRegistered session.registry), ⟨octets.length, []⟩),
              session)) ∧
    ∀ frame : Frame UInt8,
      (eroOfFrame session.registry frame =
        (eroOfFrame session.registry { frame with header := frame.header % 128 }).map fun subobject =>
          { subobject with loose := frame.header.toNat.testBit 7 }) ∧
      (xroOfFrame session.registry frame =
        (xroOfFrame session.registry { frame with header := frame.header % 128 }).map fun subobject =>
          { subobject with mandatory := frame.header.toNat.testBit 7 }) := by
  have canonical := assembled.canonical
  refine ⟨?_, ?_, ?_, fun frame => ⟨eroOfFrame_flag frame, xroOfFrame_flag frame⟩⟩
  · intro route octets consistent written
    have found : readEro session.registry (.whole octets) = .ok _ :=
      readEro_script canonical consistent (Script.run_none_iff.mp written)
    rw [Nat.zero_add] at found
    exact Session.read_of_scan (Scan.ofReader_ok.mpr ⟨rfl, found⟩)
  · intro route octets written
    have found : readXro session.registry (.whole octets) = .ok _ :=
      readXro_script canonical (Script.run_none_iff.mp written)
    rw [Nat.zero_add] at found
    exact Session.read_of_scan (Scan.ofReader_ok.mpr ⟨rfl, found⟩)
  · intro route octets consistent written
    have found : scanRro session.registry (.whole octets) = _ :=
      scanRro_script canonical consistent (Script.run_none_iff.mp written)
    rw [Nat.zero_add] at found
    exact Session.read_of_scan found

/-- A session of the base extension, which knows no segments. -/
def unsegmented : Session := .start (Registry.empty.enable .base)

theorem routes_read_back_unsegmented :
    unsegmented.read (.ofReader readEro)
        [129, 8, 10, 1, 0, 0, 16, 0, 32, 4, 252, 0, 131, 8, 128, 2, 1, 2, 3, 4] =
      (.ok ([⟨true, .ipv4Prefix ⟨⟨0x0A010000⟩, 16⟩⟩, ⟨false, .asNumber 64512⟩,
        ⟨true, .label true (.generalized [1, 2, 3, 4])⟩], ⟨20, []⟩), unsegmented) ∧
    unsegmented.read (.ofReader readXro) [162, 8, 0, 0, 0, 7, 0, 2] =
      (.ok ([⟨true, .srlg 7 .srlg⟩], ⟨8, []⟩), unsegmented) ∧
    unsegmented.read scanRro [64, 8, 0, 9, 1, 2, 3, 4] =
      (.ok ([.pathKeyIpv4 ⟨9, ⟨0x01020304⟩⟩], ⟨8, []⟩), unsegmented) ∧
    eroOfFrame unsegmented.registry ⟨.whole [], 160, .whole [252, 0]⟩ = .ok ⟨true, .asNumber 64512⟩ := by
  have assembled : unsegmented.registry.Assembled := .base .empty
  obtain ⟨ero, xro, rro, flags⟩ := routes_read_back assembled
  refine ⟨ero _ _ ?_ (by decide +kernel), xro _ _ (by decide +kernel), ?_, ?_⟩
  · intro subobject member
    rcases List.mem_cons.mp member with rfl | behind
    · trivial
    · obtain rfl | rfl := List.mem_pair.mp behind <;> trivial
  · refine rro [.segmentRouting ⟨.ipv4NodeId, false, true, some 4096, some (.ipv4NodeId ⟨5⟩)⟩,
      .pathKeyIpv4 ⟨9, ⟨0x01020304⟩⟩] _ ?_ (by decide +kernel)
    intro subobject member
    obtain rfl | rfl := List.mem_pair.mp member
    · rintro nai ⟨⟩
      rfl
    · trivial
  · rw [(flags _).1]
    decide +kernel

end Subobject
end RouteWire.Pcep
