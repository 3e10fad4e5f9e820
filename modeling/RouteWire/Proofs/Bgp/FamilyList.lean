import RouteWire.Proofs.Bgp.Capability
import RouteWire.Proofs.Wire
/-!
Lists of families, read. The entries of a list are its octets, four at a time; what is read are those
whose codes are registered, in their order, each with the flags of its own entry.

Main statement: `family_lists_filtered`.
-/
namespace RouteWire.Bgp.Capability
open Framing

structure FamilyEntry where
  codes : FamilyCodes
  about : UInt8

namespace FamilyEntry

def octets (entry : FamilyEntry) : List UInt8 := entryOctets entry.codes entry.about

theorem length_octets (entry : FamilyEntry) : entry.octets.length = 4 :=
  length_entryOctets entry.codes entry.about

def split : List UInt8 → List FamilyEntry
  | high :: low :: safi :: about :: others =>
    ⟨⟨UInt16.ofNat (beValue [high, low]), safi⟩, about⟩ :: split others
  | _ => []

theorem octets_of_four (high low safi about : UInt8) :
    octets ⟨⟨UInt16.ofNat (beValue [high, low]), safi⟩, about⟩ = [high, low, safi, about] := by
  have two : [high, low].length = 2 := rfl
  have front : word16 (UInt16.ofNat (beValue [high, low])) = [high, low] := by
    rw [word16, UInt16.toNat_ofNat_of_lt' (beValue_lt_pow two), beOctets_beValue two]
  rw [octets, entryOctets, front]
  rfl

theorem split_octets_append (entry : FamilyEntry) (others : List UInt8) :
    split (entry.octets ++ others) = entry :: split others := by
  obtain ⟨⟨afi, safi⟩, about⟩ := entry
  obtain ⟨high, low, front⟩ := List.length_eq_two.mp (length_word16 afi)
  have code : UInt16.ofNat (beValue [high, low]) = afi := by
    rw [← front, ofNat_beValue_word16]
  rw [octets, entryOctets, front]
  simp only [List.cons_append, List.nil_append, split, code]

theorem split_flatMap (entries : List FamilyEntry) : split (entries.flatMap octets) = entries := by
  induction entries with
  | nil => rfl
  | cons entry entries ih => rw [List.flatMap_cons, split_octets_append, ih]

theorem length_flatMap_mod (entries : List FamilyEntry) : (entries.flatMap octets).length % 4 = 0 := by
  rw [length_flatMap_of_width length_octets]
  exact Nat.mul_mod_right 4 _

theorem flatMap_split {list : List UInt8} (whole : list.length % 4 = 0) :
    (split list).flatMap octets = list := by
  fun_induction split list with
  | case1 high low safi about others ih =>
    have rest : others.length % 4 = 0 := by
      simp only [List.length_cons] at whole
      omega
    rw [List.flatMap_cons, octets_of_four, ih rest]
    rfl
  | case2 list short =>
    match list, whole, short with
    | [], _, _ => rfl
    | [_], whole, _ | [_, _], whole, _ | [_, _, _], whole, _ => cases whole
    | _ :: _ :: _ :: _ :: _, _, short => exact absurd rfl (short _ _ _ _ _)

theorem of_cut {slice rest : Slice} {frame : Frame Unit}
    (found : (ofWidth 4 (by decide) : Framing Unit CapabilityReadError).cut slice = .ok (frame, rest)) :
    ∃ entry : FamilyEntry, slice.octets = entry.octets ++ rest.octets ∧
      frame.value.octets = entry.octets := by
  simp only [ofWidth] at found
  split at found
  · next value behind cut =>
    cases found
    obtain ⟨whole, length, -, -⟩ := Slice.octets_of_split? cut
    obtain ⟨high, low, safi, about, parts⟩ := List.length_eq_four.mp length
    rw [parts] at whole
    refine ⟨⟨⟨UInt16.ofNat (beValue [high, low]), safi⟩, about⟩, ?_, ?_⟩
    · rw [octets_of_four, whole]
    · rw [octets_of_four, parts]
  · cases found

end FamilyEntry

section Families
variable {α : Type} {entry : Reader CapabilityReadError (Option α)} {accepts : FamilyEntry → Prop}
  {family? : FamilyEntry → Option α} {families : List α} {slice rest : Slice}

theorem readFamilies_ok
    (reads : ∀ {slice rest : Slice} {found : Option α}, entry slice = .ok (found, rest) ↔
      ∃ wire, accepts wire ∧ Reader.Behind slice (FamilyEntry.octets wire) rest ∧ found = family? wire) :
    readFamilies entry slice = .ok (families, rest) ↔
      slice.octets.length % 4 = 0 ∧ (∀ wire ∈ FamilyEntry.split slice.octets, accepts wire) ∧
        families = (FamilyEntry.split slice.octets).filterMap family? ∧ rest = slice.finish := by
  simp only [readFamilies, Reader.bind_ok, Reader.pure_ok, readAll_ok]
  constructor
  · rintro ⟨found, _, ⟨⟨frames, tiles, answers⟩, rfl⟩, rfl, rfl⟩
    obtain ⟨wire, parts, shown⟩ := tiles.exists_wire FamilyEntry.of_cut
    -- The reader saw the octets of an entry only, so the entry that it found is the one on the wire.
    have each : List.Forall₂ (fun wire found => accepts wire ∧ family? wire = found) wire found := by
      refine forall₂_shown shown answers fun {frame wire found} shows answer => ?_
      obtain ⟨rest, read⟩ := Reader.inside_ok.mp answer
      obtain ⟨other, accepted, behind, rfl⟩ := reads.mp read
      have same := congrArg FamilyEntry.split behind.1
      rw [shows, FamilyEntry.split_octets_append, ← List.append_nil wire.octets,
        FamilyEntry.split_octets_append] at same
      rw [(List.cons.inj same).1]
      exact ⟨accepted, rfl⟩
    obtain ⟨accepted, given⟩ := (List.forall₂_and_left ..).mp each
    rw [← List.forall₂_map_left_iff, List.forall₂_eq_eq_eq] at given
    rw [parts, FamilyEntry.split_flatMap, ← given, List.filterMap_map]
    exact ⟨FamilyEntry.length_flatMap_mod wire, accepted, rfl, rfl⟩
  · rintro ⟨whole, accepted, rfl, rfl⟩
    have cutsOff : ∀ wire ∈ FamilyEntry.split slice.octets,
        CutsOff (ofWidth 4 (by decide) : Framing Unit CapabilityReadError) wire.octets
          fun frame => entry.inside frame.value = .ok (family? wire) := by
      intro wire member
      refine cutsOff_ofWidth wire.length_octets fun start offset => ?_
      exact Reader.inside_ok.mpr ⟨_, reads.mpr ⟨wire, accepted wire member, Reader.behind_whole, rfl⟩⟩
    obtain ⟨frames, tiles, answers⟩ := tiles_flatMap cutsOff slice.offset
    rw [FamilyEntry.flatMap_split whole] at tiles
    refine ⟨_, _, ⟨⟨frames, tiles, List.forall₂_map_right_iff.mpr answers⟩, rfl⟩, ?_, rfl⟩
    rw [List.filterMap_map]
    rfl

end Families

section Values
variable {registry : FamilyRegistry} {capability : Capability}

def FamilyEntry.restartFamily? (registry : FamilyRegistry) (entry : FamilyEntry) : Option RestartFamily :=
  (registry.typeOf? entry.codes).map fun type => ⟨entry.about.toNat.testBit 7, type⟩

def FamilyEntry.pathFamily? (registry : FamilyRegistry) (entry : FamilyEntry) : Option PathFamily :=
  (registry.typeOf? entry.codes).map fun type =>
    ⟨type, entry.about.toNat.testBit 1, entry.about.toNat.testBit 0⟩

def restartOf (registry : FamilyRegistry) (value : List UInt8) : GracefulRestart :=
  let header := beValue (value.take 2)
  { restart := header.testBit 15
    gracefulNotification := header.testBit 14
    time := UInt16.ofNat (header % 4096)
    families := (FamilyEntry.split (value.drop 2)).filterMap (FamilyEntry.restartFamily? registry) }

theorem readRestartFamilies_ok {slice rest : Slice} {families : List RestartFamily} :
    readFamilies (readRestartFamily registry) slice = .ok (families, rest) ↔
      slice.octets.length % 4 = 0 ∧ families = (FamilyEntry.split slice.octets).filterMap
        (FamilyEntry.restartFamily? registry) ∧ rest = slice.finish := by
  -- Nothing is asked of the octet about a family here: bits other than the flag are passed over.
  have reads {slice rest : Slice} {found : Option RestartFamily} :
      readRestartFamily registry slice = .ok (found, rest) ↔ ∃ wire : FamilyEntry, True ∧
        Reader.Behind slice wire.octets rest ∧ found = wire.restartFamily? registry := by
    rw [readRestartFamily_ok]
    constructor
    · rintro ⟨codes, about, behind, made⟩
      exact ⟨⟨codes, about⟩, trivial, behind, made⟩
    · rintro ⟨⟨codes, about⟩, -, behind, made⟩
      exact ⟨codes, about, behind, made⟩
  rw [readFamilies_ok reads]
  simp

theorem readPathFamilies_ok {slice rest : Slice} {families : List PathFamily} :
    readFamilies (readPathFamily registry) slice = .ok (families, rest) ↔
      slice.octets.length % 4 = 0 ∧ (∀ entry ∈ FamilyEntry.split slice.octets, entry.about ≤ 3) ∧
        families = (FamilyEntry.split slice.octets).filterMap (FamilyEntry.pathFamily? registry) ∧
          rest = slice.finish := by
  refine readFamilies_ok ?_
  intro slice rest found
  rw [readPathFamily_ok]
  constructor
  · rintro ⟨codes, about, small, behind, made⟩
    exact ⟨⟨codes, about⟩, small, behind, made⟩
  · rintro ⟨⟨codes, about⟩, small, behind, made⟩
    exact ⟨codes, about, small, behind, made⟩

theorem inside_gracefulRestart_ok {offset : Nat} {value : List UInt8} :
    (readValue registry .gracefulRestart).inside ⟨offset, value⟩ = .ok capability ↔
      2 ≤ value.length ∧ (value.length - 2) % 4 = 0 ∧
        capability = .gracefulRestart (restartOf registry value) := by
  simp only [readValue, Reader.inside_ok, Reader.mapError_ok, readGracefulRestart, Reader.bind_ok,
    Reader.pure_ok, Reader.word16_ok, readRestartFamilies_ok]
  constructor
  · rintro ⟨_, header, rest, ⟨whole, -⟩, families, _, ⟨fours, rfl, -⟩, rfl, -⟩
    dsimp only at whole
    have front : value.take 2 = word16 header := by rw [whole, List.take_left' (length_word16 header)]
    have back : value.drop 2 = rest.octets := by rw [whole, List.drop_left' (length_word16 header)]
    have length : value.length = 2 + rest.octets.length := by
      rw [whole, List.length_append, length_word16]
    refine ⟨by omega, by omega, ?_⟩
    rw [restartOf, front, back, beValue_word16]
  · rintro ⟨enough, fours, rfl⟩
    have two : (value.take 2).length = 2 := List.length_take_of_le enough
    have header : (UInt16.ofNat (beValue (value.take 2))).toNat = beValue (value.take 2) :=
      UInt16.toNat_ofNat_of_lt' (beValue_lt_pow two)
    have front : word16 (UInt16.ofNat (beValue (value.take 2))) = value.take 2 := by
      rw [word16, header, beOctets_beValue two]
    refine ⟨_, UInt16.ofNat (beValue (value.take 2)), ⟨offset + 2, value.drop 2⟩, ⟨?_, ?_⟩, _, _,
      ⟨?_, rfl, rfl⟩, ?_, rfl⟩
    · rw [front, List.take_append_drop]
    · rw [length_word16]
    · rwa [List.length_drop]
    · rw [restartOf, header]

theorem inside_addPath_ok {offset : Nat} {value : List UInt8} :
    (readValue registry .addPath).inside ⟨offset, value⟩ = .ok capability ↔
      value.length % 4 = 0 ∧ (∀ entry ∈ FamilyEntry.split value, entry.about ≤ 3) ∧
        capability = .addPath ((FamilyEntry.split value).filterMap (FamilyEntry.pathFamily? registry)) := by
  simp only [readValue, Reader.inside_ok, Reader.mapError_ok, Reader.bind_ok, Reader.pure_ok,
    readPathFamilies_ok]
  constructor
  · rintro ⟨_, _, _, ⟨fours, small, rfl, -⟩, rfl, -⟩
    exact ⟨fours, small, rfl⟩
  · rintro ⟨fours, small, rfl⟩
    exact ⟨_, _, _, ⟨fours, small, rfl, rfl⟩, rfl, rfl⟩

theorem read_unfixed_ok {kind : CapabilityCode} (unfixed : fixedLength? kind = none) {size : UInt8}
    {value : List UInt8} (length : value.length = size.toNat) (offset : Nat) (behind : List UInt8)
    {result : Capability × Slice} :
    read registry ⟨offset, CodePoint.code kind :: size :: (value ++ behind)⟩ = .ok result ↔
      ∃ capability, (readValue registry kind).inside ⟨offset + 2, value⟩ = .ok capability ∧
        result = (capability, ⟨offset + (2 + value.length), behind⟩) := by
  have split : Slice.split? ⟨offset + 1 + 1, value ++ behind⟩ size.toNat =
      some (⟨offset + 2, value⟩, ⟨offset + (2 + value.length), behind⟩) := by
    rw [← length, ← Nat.add_assoc]
    exact Slice.split?_append ..
  have contents : readContents (some kind) ⟨offset + 1, size :: (value ++ behind)⟩ =
      .ok (⟨offset + 2, value⟩, ⟨offset + (2 + value.length), behind⟩) := by
    refine readContents_ok.mpr ⟨size, _, ⟨rfl, rfl⟩, split, fun fixed always => ?_⟩
    rw [Option.bind_some, unfixed] at always
    cases always
  rw [read, Reader.bind_apply, Reader.octet_cons]
  dsimp only
  rw [CodePoint.ofCode?_code, Reader.bind_apply, contents]
  dsimp only
  cases (readValue registry kind).inside ⟨offset + 2, value⟩ with
  | error failure => simp
  | ok capability => simp [eq_comm]

/-- A list of families is read as the entries that are registered, in the order of the wire, and if it is
not a whole number of entries, or says of an entry what there is not, then it is not read. -/
theorem family_lists_filtered (registry : FamilyRegistry) (offset : Nat) {size : UInt8}
    {value : List UInt8} (length : value.length = size.toNat) (behind : List UInt8)
    (result : Capability × Slice) :
    (read registry ⟨offset, CodePoint.code CapabilityCode.gracefulRestart :: size :: (value ++ behind)⟩ =
        .ok result ↔
      2 ≤ value.length ∧ (value.length - 2) % 4 = 0 ∧
        result = (.gracefulRestart (restartOf registry value), ⟨offset + (2 + value.length), behind⟩)) ∧
    (read registry ⟨offset, CodePoint.code CapabilityCode.addPath :: size :: (value ++ behind)⟩ =
        .ok result ↔
      value.length % 4 = 0 ∧ (∀ entry ∈ FamilyEntry.split value, entry.about ≤ 3) ∧
        result = (.addPath ((FamilyEntry.split value).filterMap (FamilyEntry.pathFamily? registry)),
          ⟨offset + (2 + value.length), behind⟩)) := by
  rw [read_unfixed_ok rfl length, read_unfixed_ok rfl length]
  simp only [inside_gracefulRestart_ok, inside_addPath_ok]
  constructor
  · constructor
    · rintro ⟨_, ⟨enough, fours, rfl⟩, same⟩
      exact ⟨enough, fours, same⟩
    · rintro ⟨enough, fours, same⟩
      exact ⟨_, ⟨enough, fours, rfl⟩, same⟩
  · constructor
    · rintro ⟨_, ⟨fours, small, rfl⟩, same⟩
      exact ⟨fours, small, same⟩
    · rintro ⟨fours, small, same⟩
      exact ⟨_, ⟨fours, small, rfl⟩, same⟩

/-- IPv4 is registered and comes twice, and in between is a family that is not. -/
def mixedFamilies (about : UInt8) : List UInt8 := [0, 1, 1, 1, 0, 9, 9, about, 0, 1, 1, 2]

theorem family_lists_filtered_mixed :
    let registry := FamilyRegistry.empty.registerAssigned .ipv4Unicast
    read registry ⟨3, [64, 14, 64, 120] ++ mixedFamilies 255 ++ [7]⟩ =
        .ok (.gracefulRestart ⟨false, true, 120, [⟨false, .ipv4Unicast⟩, ⟨false, .ipv4Unicast⟩]⟩,
          ⟨19, [7]⟩) ∧
      read registry ⟨3, [69, 12] ++ mixedFamilies 3 ++ [7]⟩ =
        .ok (.addPath [⟨.ipv4Unicast, false, true⟩, ⟨.ipv4Unicast, true, false⟩], ⟨17, [7]⟩) ∧
      ∀ result, read registry ⟨3, [69, 12] ++ mixedFamilies 4 ++ [7]⟩ ≠ .ok result := by
  intro registry
  have restart : ([64, 120] ++ mixedFamilies 255).length = (14 : UInt8).toNat := rfl
  have paths (about : UInt8) : (mixedFamilies about).length = (12 : UInt8).toNat := rfl
  refine ⟨?_, ?_, fun result found => ?_⟩
  · exact (family_lists_filtered registry 3 restart [7] _).1.mpr
      ⟨by decide, by decide, by decide +kernel⟩
  · exact (family_lists_filtered registry 3 (paths 3) [7] _).2.mpr
      ⟨rfl, by decide, by decide +kernel⟩
  · have small := ((family_lists_filtered registry 3 (paths 4) [7] result).2.mp found).2.1
    exact absurd small (by decide)

end Values
end RouteWire.Bgp.Capability
