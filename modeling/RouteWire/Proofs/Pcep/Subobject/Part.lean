import Mathlib.Logic.Basic
import RouteWire.Pcep.Subobject.Decode
import RouteWire.Pcep.Subobject.Encode
import RouteWire.Proofs.Reading
import RouteWire.Proofs.Writing
/-!
The parts of subobjects: networks, labels, interfaces and keys. Their readers accept exactly the octets
that are written for a value.

Main statements: `readIpv4Network_ok`, `readLabel_ok` and their companions.
-/
namespace RouteWire
open Reader
variable {slice rest : Slice}

namespace Pcep

namespace Subobject

theorem exactLength_ok {code : UInt16} {length : Nat} {value : Unit} :
    exactLength code length slice = .ok (value, rest) ↔ slice.octets.length = length ∧ rest = slice :=
  exactly_ok

theorem readIpv4Network_ok {network : Ipv4Network} {trailer : UInt8} :
    readIpv4Network slice = .ok ((network, trailer), rest) ↔
      slice.octets.length = 6 ∧ Behind slice (network.octets ++ [trailer]) rest := by
  simp only [readIpv4Network, Reader.bind_ok, exactLength_ok, convert_ok, ipv4_ok, octet_ok, pure_ok,
    Ipv4Network.octets, behind_append_iff]
  constructor
  · rintro ⟨_, _, ⟨length, rfl⟩, _, ⟨_, _, address, octet, _, bits, _, _, last, rfl, rfl⟩, found⟩
    dsimp only at found
    split at found
    · next bound lookup =>
      cases found
      rw [lengthOfOctet?] at lookup
      split at lookup
      · cases lookup
        refine ⟨length, _, ⟨_, address, ?_⟩, last⟩
        rwa [lengthOctet, UInt8.ofNat_toNat]
      · cases lookup
    · cases found
  · rintro ⟨length, _, ⟨_, address, bits⟩, last⟩
    refine ⟨(), _, ⟨length, rfl⟩, _, ⟨_, _, address, _, _, bits, _, _, last, rfl, rfl⟩, ?_⟩
    dsimp only
    rw [lengthOfOctet?_lengthOctet (by decide)]

theorem readIpv6Network_ok {network : Ipv6Network} {trailer : UInt8} :
    readIpv6Network slice = .ok ((network, trailer), rest) ↔
      slice.octets.length = 18 ∧ Behind slice (network.octets ++ [trailer]) rest := by
  simp only [readIpv6Network, Reader.bind_ok, exactLength_ok, convert_ok, ipv6_ok, octet_ok, pure_ok,
    Ipv6Network.octets, behind_append_iff]
  constructor
  · rintro ⟨_, _, ⟨length, rfl⟩, _, ⟨_, _, address, octet, _, bits, _, _, last, rfl, rfl⟩, found⟩
    dsimp only at found
    split at found
    · next bound lookup =>
      cases found
      rw [lengthOfOctet?] at lookup
      split at lookup
      · cases lookup
        refine ⟨length, _, ⟨_, address, ?_⟩, last⟩
        rwa [lengthOctet, UInt8.ofNat_toNat]
      · cases lookup
    · cases found
  · rintro ⟨length, _, ⟨_, address, bits⟩, last⟩
    refine ⟨(), _, ⟨length, rfl⟩, _, ⟨_, _, address, _, _, bits, _, _, last, rfl, rfl⟩, ?_⟩
    dsimp only
    rw [lengthOfOctet?_lengthOctet (by decide)]

theorem readUnnumberedInterface_ok {hop : UnnumberedInterface} :
    readUnnumberedInterface slice = .ok (hop, rest) ↔ Behind slice hop.octets rest := by
  simp only [readUnnumberedInterface, Reader.bind_ok, ipv4_ok, word32_ok, pure_ok,
    UnnumberedInterface.octets, behind_append_iff]
  constructor
  · rintro ⟨_, _, router, _, _, interface, rfl, rfl⟩
    exact ⟨_, router, interface⟩
  · rintro ⟨_, router, interface⟩
    exact ⟨_, _, router, _, _, interface, rfl, rfl⟩

theorem readAsNumber_ok {number : UInt16} :
    readAsNumber slice = .ok (number, rest) ↔
      slice.octets.length = 2 ∧ Behind slice (word16 number) rest := by
  simp only [readAsNumber, Reader.bind_ok, exactLength_ok, word16_ok]
  constructor
  · rintro ⟨_, _, ⟨length, rfl⟩, behind⟩
    exact ⟨length, behind⟩
  · rintro ⟨length, behind⟩
    exact ⟨(), _, ⟨length, rfl⟩, behind⟩

theorem readPathKeyIpv4_ok {key : PathKey Ipv4} :
    readPathKeyIpv4 slice = .ok (key, rest) ↔
      slice.octets.length = 6 ∧ Behind slice (key.octets Ipv4.octets) rest := by
  simp only [readPathKeyIpv4, Reader.bind_ok, exactLength_ok, word16_ok, ipv4_ok, pure_ok,
    PathKey.octets, behind_append_iff]
  constructor
  · rintro ⟨_, _, ⟨length, rfl⟩, _, _, number, _, _, address, rfl, rfl⟩
    exact ⟨length, _, number, address⟩
  · rintro ⟨length, _, number, address⟩
    exact ⟨(), _, ⟨length, rfl⟩, _, _, number, _, _, address, rfl, rfl⟩

theorem readPathKeyIpv6_ok {key : PathKey Ipv6} :
    readPathKeyIpv6 slice = .ok (key, rest) ↔
      slice.octets.length = 18 ∧ Behind slice (key.octets Ipv6.octets) rest := by
  simp only [readPathKeyIpv6, Reader.bind_ok, exactLength_ok, word16_ok, ipv6_ok, pure_ok,
    PathKey.octets, behind_append_iff]
  constructor
  · rintro ⟨_, _, ⟨length, rfl⟩, _, _, number, _, _, address, rfl, rfl⟩
    exact ⟨length, _, number, address⟩
  · rintro ⟨length, _, number, address⟩
    exact ⟨(), _, ⟨length, rfl⟩, _, _, number, _, _, address, rfl, rfl⟩

theorem readCode_ok {α : Type} [CodePoint α UInt8] [LawfulCodePoint α UInt8]
    {undefined : UInt8 → SubobjectReadError} {value : α} :
    Reader.octet.convert (CodePoint.ofCode undefined) slice = .ok (value, rest) ↔
      Behind slice [CodePoint.code value] rest := by
  simp only [convert_ok, octet_ok, CodePoint.ofCode_ok]
  exact ⟨by rintro ⟨_, first, rfl⟩; exact first, fun first => ⟨_, first, rfl⟩⟩

theorem readLabel_ok {label : Label} :
    readLabel slice = .ok (label, rest) ↔
      Behind slice label.octets rest ∧ rest.octets = [] ∧ label.check = none := by
  simp only [readLabel, Reader.bind_ok, readCode_ok]
  constructor
  · rintro ⟨type, mid, first, contents⟩
    cases type with
    | type1 =>
      simp only [Reader.bind_ok, exactLength_ok, word32_ok, pure_ok] at contents
      obtain ⟨_, _, ⟨length, rfl⟩, word, _, value, rfl, rfl⟩ := contents
      refine ⟨behind_append_iff.mpr ⟨_, first, value⟩, ?_, rfl⟩
      rw [value.length, length_word32] at length
      exact List.eq_nil_of_length_eq_zero (by omega)
    | generalized =>
      simp only [Reader.bind_ok, left_ok, require_ok, remaining_ok, pure_ok,
        decide_eq_true_eq] at contents
      obtain ⟨_, _, ⟨rfl, rfl⟩, _, _, ⟨⟨something, words⟩, rfl⟩, _, _, ⟨rfl, rfl⟩, rfl, rfl⟩ := contents
      refine ⟨behind_append_iff.mpr ⟨_, first, (List.append_nil _).symm, rfl⟩, rfl, ?_⟩
      rw [Label.check, if_neg]
      omega
    | wavebandSwitching =>
      simp only [Reader.bind_ok, exactLength_ok, word32_ok, pure_ok] at contents
      obtain ⟨_, _, ⟨length, rfl⟩, _, _, id, _, _, start, _, _, finish, rfl, rfl⟩ := contents
      refine ⟨behind_append_iff.mpr ⟨_, first, behind_append_iff.mpr
        ⟨_, behind_append_iff.mpr ⟨_, id, start⟩, finish⟩⟩, ?_, rfl⟩
      rw [id.length, start.length, finish.length, length_word32, length_word32,
        length_word32] at length
      exact List.eq_nil_of_length_eq_zero (by omega)
  · rintro ⟨whole, nothing, checked⟩
    rw [Label.octets.eq_def, ← List.singleton_append] at whole
    obtain ⟨mid, first, contents⟩ := behind_append_iff.mp whole
    refine ⟨_, mid, first, ?_⟩
    cases label with
    | type1 word =>
      simp only [Label.type, Reader.bind_ok, exactLength_ok, word32_ok, pure_ok]
      have length := contents.length
      rw [nothing, length_word32] at length
      exact ⟨(), _, ⟨length, rfl⟩, word, _, contents, rfl, rfl⟩
    | generalized octets =>
      simp only [Label.type, Reader.bind_ok, left_ok, require_ok, remaining_ok, pure_ok,
        decide_eq_true_eq]
      have same : mid.octets = octets := by rw [contents.1, nothing, List.append_nil]
      rw [Label.check, ite_eq_right_iff] at checked
      have lengths : ¬(mid.octets.length = 0 ∨ mid.octets.length % 4 ≠ 0) := by
        rw [same]
        exact fun wrong => by cases checked wrong
      refine ⟨_, _, ⟨rfl, rfl⟩, (), _, ⟨by omega, rfl⟩, _, _, ⟨rfl, rfl⟩, by rw [same], ?_⟩
      cases rest
      simp only at nothing contents
      rw [Slice.finish, same, Slice.mk.injEq]
      exact ⟨contents.2, nothing⟩
    | wavebandSwitching id start finish =>
      simp only [Label.type, Reader.bind_ok, exactLength_ok, word32_ok, pure_ok]
      have length := contents.length
      rw [nothing, List.length_append, List.length_append, length_word32, length_word32,
        length_word32] at length
      obtain ⟨_, front, third⟩ := behind_append_iff.mp contents
      obtain ⟨_, first, second⟩ := behind_append_iff.mp front
      exact ⟨(), _, ⟨length, rfl⟩, _, _, first, _, _, second, _, _, third, rfl, rfl⟩

end Subobject
end Pcep
end RouteWire
