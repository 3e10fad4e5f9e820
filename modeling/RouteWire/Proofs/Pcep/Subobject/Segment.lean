import Mathlib.Logic.Basic
import RouteWire.Pcep.Subobject.Decode
import RouteWire.Pcep.Subobject.Encode
import RouteWire.Proofs.Reading
import RouteWire.Proofs.Writing
/-!
Segments. The first two octets of a segment announce which parts of it follow, and a segment is read from
exactly the parts that are announced, whatever is behind them. So it is read back if its type of
identifier is that of its identifier, and every segment that was read is such.

Main statements: `readSegment_ok` and `readSrv6Segment_ok`, which tell all that the readers accept;
`readSegment_octets` and `segment_of_read`, and their companions, are read off them.
-/
namespace RouteWire
open Reader
variable {slice rest : Slice}

namespace Pcep

/-! ## Identifiers -/

def NaiType.length : NaiType → Nat
  | .absent => 0
  | .ipv4NodeId => 4
  | .ipv6NodeId | .unnumberedAdjacency => 16
  | .ipv4Adjacency => 2 * 4
  | .ipv6GlobalAdjacency => 2 * 16
  | .ipv6LinkLocalAdjacency => 2 * 16 + 8

theorem Nai.length_type (nai : Nai) : nai.type.length = nai.length := by
  cases nai <;> rfl

theorem Nai.length_octets (nai : Nai) : nai.octets.length = nai.length := by
  cases nai <;> simp [octets, length]

theorem Nai.type_ne_absent (nai : Nai) : nai.type ≠ .absent := by
  cases nai <;> exact nofun

namespace Subobject

theorem readNai_some_ok {type : NaiType} {nai : Nai} :
    readNai type slice = .ok (some nai, rest) ↔ nai.type = type ∧ Behind slice nai.octets rest := by
  cases type <;> cases nai <;>
    simp only [readNai, Reader.bind_ok, ipv4_ok, ipv6_ok, word32_ok, pure_ok, Nai.type, Nai.octets,
      behind_append_iff, Option.some.injEq, reduceCtorEq, false_and, and_false, exists_false,
      true_and, Nai.ipv4NodeId.injEq, Nai.ipv6NodeId.injEq, Nai.ipv4Adjacency.injEq,
      Nai.ipv6GlobalAdjacency.injEq, Nai.unnumberedAdjacency.injEq,
      Nai.ipv6LinkLocalAdjacency.injEq]
  case ipv4NodeId.ipv4NodeId | ipv6NodeId.ipv6NodeId =>
    exact ⟨by rintro ⟨_, _, node, rfl, rfl⟩; exact node, fun node => ⟨_, _, node, rfl, rfl⟩⟩
  case ipv4Adjacency.ipv4Adjacency | ipv6GlobalAdjacency.ipv6GlobalAdjacency =>
    constructor
    · rintro ⟨_, _, near, _, _, far, ⟨rfl, rfl⟩, rfl⟩
      exact ⟨_, near, far⟩
    · rintro ⟨_, near, far⟩
      exact ⟨_, _, near, _, _, far, ⟨rfl, rfl⟩, rfl⟩
  case unnumberedAdjacency.unnumberedAdjacency | ipv6LinkLocalAdjacency.ipv6LinkLocalAdjacency =>
    constructor
    · rintro ⟨_, _, a, _, _, b, _, _, c, _, _, d, ⟨rfl, rfl, rfl, rfl⟩, rfl⟩
      exact ⟨_, ⟨_, ⟨_, a, b⟩, c⟩, d⟩
    · rintro ⟨_, ⟨_, ⟨_, a, b⟩, c⟩, d⟩
      exact ⟨_, _, a, _, _, b, _, _, c, _, _, d, ⟨rfl, rfl, rfl, rfl⟩, rfl⟩

theorem readNai_none_ok {type : NaiType} :
    readNai type slice = .ok (none, rest) ↔ type = .absent ∧ rest = slice := by
  cases type <;>
    simp [readNai, Reader.bind_ok, pure_ok, -pure_apply]

theorem readUnless_ok {α : Type} {absent : Bool} {reader : Reader SubobjectReadError α}
    {value? : Option α} :
    readUnless absent reader slice = .ok (value?, rest) ↔
      (absent = true ∧ value? = none ∧ rest = slice) ∨
        (absent = false ∧ ∃ value, value? = some value ∧ reader slice = .ok (value, rest)) := by
  cases absent with
  | true => simp [readUnless, pure_ok, -pure_apply]
  | false =>
    simp only [readUnless, Bool.false_eq_true, if_false, Reader.bind_ok, pure_ok, false_and, true_and,
      false_or]
    constructor
    · rintro ⟨value, _, found, rfl, rfl⟩
      exact ⟨value, rfl, found⟩
    · rintro ⟨value, rfl, found⟩
      exact ⟨value, _, found, rfl, rfl⟩

theorem readUnless_part_ok {α : Type} {absent : Bool} {octets : α → List UInt8} {value? : Option α}
    {reader : Reader SubobjectReadError α}
    (reads : ∀ {value}, reader slice = .ok (value, rest) ↔ Behind slice (octets value) rest) :
    readUnless absent reader slice = .ok (value?, rest) ↔
      absent = value?.isNone ∧ Behind slice (optionalOctets octets value?) rest := by
  rw [readUnless_ok]
  cases value? with
  | none => simp [optionalOctets, behind_nil_iff]
  | some value => simp [optionalOctets, reads]

theorem readUnless_nai_ok {absent : Bool} {type : NaiType} {nai? : Option Nai} :
    (∃ found, readUnless absent (readNai type) slice = .ok (found, rest) ∧ nai? = found.join) ↔
      (absent || type = .absent) = nai?.isNone ∧ (∀ nai, nai? = some nai → nai.type = type) ∧
        Behind slice (optionalOctets Nai.octets nai?) rest := by
  constructor
  · rintro ⟨found, read, rfl⟩
    -- It is flagged as absent, or of the type that says so, or there.
    rcases readUnless_ok.mp read with ⟨rfl, rfl, rfl⟩ | ⟨rfl, nai | nai, rfl, inner⟩
    · exact ⟨rfl, nofun, behind_nil_iff.mpr rfl⟩
    · obtain ⟨rfl, rfl⟩ := readNai_none_ok.mp inner
      exact ⟨rfl, nofun, behind_nil_iff.mpr rfl⟩
    · obtain ⟨rfl, behind⟩ := readNai_some_ok.mp inner
      exact ⟨decide_eq_false nai.type_ne_absent, by rintro _ ⟨⟩; rfl, behind⟩
  · rintro ⟨said, consistent, behind⟩
    cases nai? with
    | none =>
      have nothing := behind_nil_iff.mp behind
      cases absent with
      | true => exact ⟨none, readUnless_ok.mpr (.inl ⟨rfl, rfl, nothing⟩), rfl⟩
      | false =>
        have type : type = .absent := of_decide_eq_true said
        exact ⟨some none, readUnless_ok.mpr
          (.inr ⟨rfl, none, rfl, readNai_none_ok.mpr ⟨type, nothing⟩⟩), rfl⟩
    | some nai =>
      have present : absent = false := (Bool.or_eq_false_iff.mp said).1
      exact ⟨some (some nai), readUnless_ok.mpr
        (.inr ⟨present, _, rfl, readNai_some_ok.mpr ⟨consistent _ rfl, behind⟩⟩), rfl⟩

/-! ## The first two octets -/

theorem readSegmentHeader_ok {noSid noNai flags : Nat} {type : NaiType} :
    readSegmentHeader noSid noNai slice = .ok ((type, flags), rest) ↔
      ∃ first second : UInt8, Behind slice [first, second] rest ∧ CodePoint.code type = first / 16 ∧
        flags = second.toNat ∧ ¬(flags.testBit noSid = true ∧ flags.testBit noNai = true) := by
  have split (first second : UInt8) : [first, second] = [first] ++ [second] := rfl
  simp only [readSegmentHeader, convert_ok, Reader.bind_ok, octet_ok, CodePoint.ofCode_ok, pure_ok,
    split, behind_append_iff]
  constructor
  · rintro ⟨_, ⟨_, _, ⟨first, behind, known⟩, second, _, later, rfl, rfl⟩, found⟩
    dsimp only at found
    split at found
    · cases found
    · next one =>
      cases found
      exact ⟨first, second, ⟨_, behind, later⟩, known, rfl, one⟩
  · rintro ⟨first, second, ⟨_, behind, later⟩, known, rfl, one⟩
    exact ⟨_, ⟨_, _, ⟨first, behind, known⟩, second, _, later, rfl, rfl⟩, if_neg one⟩

theorem upperHalf_div (type : NaiType) : type.upperHalf / 16 = CodePoint.code type := by
  cases type <;> rfl

theorem readSegmentHeader_octets {noSid noNai : Nat} {type : NaiType} {flags : List Bool}
    (short : flags.length ≤ 8)
    (one : ¬(flags.getD noSid false = true ∧ flags.getD noNai false = true))
    (behind : Behind slice [type.upperHalf, UInt8.ofNat (bitsValue flags)] rest) :
    readSegmentHeader noSid noNai slice = .ok ((type, bitsValue flags), rest) :=
  readSegmentHeader_ok.mpr ⟨_, _, behind, (upperHalf_div type).symm,
    (toNat_bitsOctet short).symm, by rwa [testBit_bitsValue, testBit_bitsValue]⟩

end Subobject

section Parts
variable {σ : Type} {sid? : Option σ} {nai? : Option Nai} {naiType : NaiType}

theorem not_identified_iff :
    ¬(sid? ≠ none ∨ nai? ≠ none) ↔ sid?.isNone = true ∧ nai?.isNone = true := by
  simp

theorem script_identified_ok {written octets : List UInt8} {error : SubobjectWriteError} :
    (if sid?.isNone ∧ nai?.isNone then .fail error
      else .emit written : Script SubobjectWriteError).toExcept = .ok octets ↔
        (sid? ≠ none ∨ nai? ≠ none) ∧ octets = written := by
  split
  · next absent => simp [not_identified_iff.mpr absent]
  · next present =>
    rw [← not_identified_iff, not_not] at present
    simp [present]

theorem Nai.flagged_of_consistent (consistent : ∀ nai, nai? = some nai → nai.type = naiType) :
    (nai?.isNone || naiType = .absent) = nai?.isNone := by
  cases nai? with
  | none => rfl
  | some nai => exact decide_eq_false (consistent nai rfl ▸ nai.type_ne_absent)

end Parts

/-- The first two octets of a segment: the type of its node or adjacency identifier, and flags. -/
structure SegmentHead where
  naiType : NaiType
  flags : Nat
  deriving DecidableEq

namespace SegmentHead

def of? : List UInt8 → Option SegmentHead
  | first :: second :: _ =>
    (CodePoint.ofCode? (first / 16)).map fun naiType => ⟨naiType, second.toNat⟩
  | _ => none

/-- The segment identifier is flagged as absent, and of the other identifier the type says that it is. -/
def lacksIdentifiers (noSid : Nat) (head : SegmentHead) : Bool :=
  head.flags.testBit noSid && head.naiType = .absent

def naiLength (noNai : Nat) (head : SegmentHead) : Nat :=
  if head.flags.testBit noNai then 0 else head.naiType.length

def length (head : SegmentHead) : Nat :=
  2 + (if head.flags.testBit 2 then 0 else 4) + head.naiLength 3

def srv6Length (head : SegmentHead) : Nat :=
  6 + (if head.flags.testBit 0 then 0 else 16) + (if head.flags.testBit 2 then 8 else 0) +
    head.naiLength 1

theorem of?_cons {naiType : NaiType} {first second : UInt8} {others : List UInt8}
    (type : CodePoint.code naiType = first / 16) :
    of? (first :: second :: others) = some ⟨naiType, second.toNat⟩ := by
  rw [of?, CodePoint.ofCode?_eq_some_iff.mpr type]
  rfl

theorem naiLength_eq {naiType : NaiType} {nai? : Option Nai} {flags noNai : Nat}
    (said : (flags.testBit noNai || naiType = .absent) = nai?.isNone)
    (consistent : ∀ nai, nai? = some nai → nai.type = naiType) :
    naiLength noNai ⟨naiType, flags⟩ = optionalLength Nai.length nai? := by
  rw [naiLength]
  cases nai? with
  | none =>
    rw [Option.isNone_none, Bool.or_eq_true, decide_eq_true_eq] at said
    rcases said with flagged | rfl
    · exact if_pos flagged
    · exact ite_self 0
  | some nai =>
    have unflagged := (Bool.or_eq_false_iff.mp said).1
    rw [unflagged, if_neg Bool.false_ne_true, ← consistent nai rfl]
    exact nai.length_type

/-- Unless both flags are set, there is an identifier of one or the other sort exactly if it is not said
that the one is absent and that the other has no type. -/
theorem identified_iff {σ : Type} {sid? : Option σ} {nai? : Option Nai} {naiType : NaiType}
    {noSid noNai flags : Nat} (sid : flags.testBit noSid = sid?.isNone)
    (nai : (flags.testBit noNai || naiType = .absent) = nai?.isNone)
    (one : ¬(flags.testBit noSid = true ∧ flags.testBit noNai = true)) :
    (sid? ≠ none ∨ nai? ≠ none) ↔ lacksIdentifiers noSid ⟨naiType, flags⟩ = false := by
  rw [← not_iff_not, not_identified_iff, lacksIdentifiers, ← sid, ← nai]
  simp only [Bool.not_eq_false, Bool.and_eq_true, Bool.or_eq_true, decide_eq_true_eq]
  constructor
  · rintro ⟨flagged, also | absent⟩
    · exact absurd ⟨flagged, also⟩ one
    · exact ⟨flagged, absent⟩
  · rintro ⟨flagged, absent⟩
    exact ⟨flagged, .inr absent⟩

end SegmentHead

/-! ## Segments with a label or an index -/

/-- The type of identifier is that of the identifier, if there is one. -/
def Segment.Consistent (segment : Segment) : Prop :=
  ∀ nai, segment.nai = some nai → nai.type = segment.naiType

/-- The segment has an identifier of one or the other sort. -/
def Segment.Identified (segment : Segment) : Prop := segment.sid ≠ none ∨ segment.nai ≠ none

theorem Segment.script_ok {segment : Segment} {octets : List UInt8} :
    segment.script.toExcept = .ok octets ↔ segment.Identified ∧ octets = segment.octets := by
  rw [script]
  exact script_identified_ok

def Segment.octetsWith (first second : UInt8) (segment : Segment) : List UInt8 :=
  [first, second] ++ optionalOctets word32 segment.sid ++ optionalOctets Nai.octets segment.nai

/-- The first two octets of a segment announce what there is of it. -/
structure Segment.AnnouncedBy (first second : UInt8) (segment : Segment) : Prop where
  type : CodePoint.code segment.naiType = first / 16
  mplsLabel : second.toNat.testBit 0 = segment.mplsLabel
  controlWord : second.toNat.testBit 1 = segment.controlWord
  sid : second.toNat.testBit 2 = segment.sid.isNone
  nai : (second.toNat.testBit 3 || segment.naiType = .absent) = segment.nai.isNone
  one : ¬(second.toNat.testBit 2 = true ∧ second.toNat.testBit 3 = true)

namespace Segment
variable {segment : Segment} {first second : UInt8}

theorem length_octetsWith (first second : UInt8) (segment : Segment) :
    (segment.octetsWith first second).length = segment.length := by
  rw [octetsWith, length]
  cases segment.sid <;> cases segment.nai <;>
    simp [optionalOctets, optionalLength, Nai.length_octets] <;> omega

theorem length_octets (segment : Segment) : segment.octets.length = segment.length :=
  segment.length_octetsWith _ _

theorem announcedBy_octets (consistent : segment.Consistent) (identified : segment.Identified) :
    segment.AnnouncedBy segment.naiType.upperHalf (UInt8.ofNat (bitsValue
      [segment.mplsLabel, segment.controlWord, segment.sid.isNone, segment.nai.isNone])) := by
  have bit := @testBit_bitsOctet
    [segment.mplsLabel, segment.controlWord, segment.sid.isNone, segment.nai.isNone] (by simp)
  refine ⟨(Subobject.upperHalf_div _).symm, bit 0, bit 1, bit 2, ?_, ?_⟩
  · rw [bit 3]
    exact Nai.flagged_of_consistent consistent
  · rw [bit 2, bit 3]
    exact fun both => not_identified_iff.mpr both identified

theorem AnnouncedBy.head (announced : segment.AnnouncedBy first second) (consistent : segment.Consistent)
    (others : List UInt8) :
    ∃ head, SegmentHead.of? (segment.octetsWith first second ++ others) = some head ∧
      segment.length = head.length ∧ (segment.Identified ↔ head.lacksIdentifiers 2 = false) := by
  refine ⟨_, SegmentHead.of?_cons announced.type, ?_,
    SegmentHead.identified_iff announced.sid announced.nai announced.one⟩
  rw [SegmentHead.length, SegmentHead.naiLength_eq announced.nai consistent, announced.sid,
    Segment.length]
  cases segment.sid <;> rfl

end Segment

namespace Subobject

theorem readSegment_ok {segment : Segment} :
    readSegment slice = .ok (segment, rest) ↔
      segment.Consistent ∧ ∃ first second, segment.AnnouncedBy first second ∧
        Behind slice (segment.octetsWith first second) rest := by
  simp only [readSegment, Reader.bind_ok, pure_ok]
  constructor
  · rintro ⟨⟨type, flags⟩, mid, header, sid, back, readSid, nai, _, readNai, rfl, rfl⟩
    obtain ⟨first, second, headerOctets, code, rfl, one⟩ := readSegmentHeader_ok.mp header
    obtain ⟨noSid, sidOctets⟩ := (readUnless_part_ok word32_ok).mp readSid
    obtain ⟨noNai, consistent, naiOctets⟩ := readUnless_nai_ok.mp ⟨nai, readNai, rfl⟩
    exact ⟨consistent, first, second, ⟨code, rfl, rfl, noSid, noNai, one⟩,
      behind_append_iff.mpr ⟨back, behind_append_iff.mpr ⟨mid, headerOctets, sidOctets⟩, naiOctets⟩⟩
  · rintro ⟨consistent, first, second, announced, behind⟩
    obtain ⟨back, front, naiOctets⟩ := behind_append_iff.mp behind
    obtain ⟨mid, header, sidOctets⟩ := behind_append_iff.mp front
    obtain ⟨nai, readNai, found⟩ := readUnless_nai_ok.mpr ⟨announced.nai, consistent, naiOctets⟩
    refine ⟨⟨segment.naiType, second.toNat⟩, mid, readSegmentHeader_ok.mpr
      ⟨first, second, header, announced.type, rfl, announced.one⟩, segment.sid, back,
      (readUnless_part_ok word32_ok).mpr ⟨announced.sid, sidOctets⟩, nai, rest, readNai, ?_, rfl⟩
    rw [announced.mplsLabel, announced.controlWord, ← found]

theorem readSegment_octets {segment : Segment} (consistent : segment.Consistent)
    (identified : segment.Identified) (behind : Behind slice segment.octets rest) :
    readSegment slice = .ok (segment, rest) :=
  readSegment_ok.mpr ⟨consistent, _, _, Segment.announcedBy_octets consistent identified, behind⟩

theorem segment_of_read {segment : Segment} (found : readSegment slice = .ok (segment, rest)) :
    segment.Consistent ∧ slice.octets.length = segment.length + rest.octets.length := by
  obtain ⟨consistent, _, _, -, behind⟩ := readSegment_ok.mp found
  exact ⟨consistent, by rw [behind.length, segment.length_octetsWith]⟩

end Subobject

/-! ## Segments with an address -/

def Srv6Segment.Consistent (segment : Srv6Segment) : Prop :=
  ∀ nai, segment.nai = some nai → nai.type = segment.naiType

def Srv6Segment.Identified (segment : Srv6Segment) : Prop := segment.sid ≠ none ∨ segment.nai ≠ none

theorem Srv6Segment.script_ok {segment : Srv6Segment} {octets : List UInt8} :
    segment.script.toExcept = .ok octets ↔ segment.Identified ∧ octets = segment.octets := by
  rw [script]
  exact script_identified_ok

/-- The octets of a segment behind whatever its first two octets are, and with any others in the places
that are reserved. -/
def Srv6Segment.octetsWith (first second : UInt8) (reserved : UInt16) (partsReserved : UInt32)
    (segment : Srv6Segment) : List UInt8 :=
  [first, second] ++ word16 reserved ++ word16 segment.behavior ++
    optionalOctets Ipv6.octets segment.sid ++
    optionalOctets (fun parts => parts.octets ++ word32 partsReserved) segment.parts ++
    optionalOctets Nai.octets segment.nai

structure Srv6Segment.AnnouncedBy (first second : UInt8) (segment : Srv6Segment) : Prop where
  type : CodePoint.code segment.naiType = first / 16
  sid : second.toNat.testBit 0 = segment.sid.isNone
  nai : (second.toNat.testBit 1 || segment.naiType = .absent) = segment.nai.isNone
  parts : second.toNat.testBit 2 = segment.parts.isSome
  verification : second.toNat.testBit 3 = segment.verification
  one : ¬(second.toNat.testBit 0 = true ∧ second.toNat.testBit 1 = true)

namespace Srv6Segment
variable {segment : Srv6Segment} {first second : UInt8} {reserved : UInt16} {partsReserved : UInt32}

theorem length_octetsWith (first second : UInt8) (reserved : UInt16) (partsReserved : UInt32)
    (segment : Srv6Segment) :
    (segment.octetsWith first second reserved partsReserved).length = segment.length := by
  rw [octetsWith, length]
  cases segment.sid <;> cases segment.parts <;> cases segment.nai <;>
    simp [optionalOctets, optionalLength, Nai.length_octets, SidStructure.octets] <;> omega

theorem length_octets (segment : Srv6Segment) : segment.octets.length = segment.length :=
  segment.length_octetsWith _ _ 0 0

theorem announcedBy_octets (consistent : segment.Consistent) (identified : segment.Identified) :
    segment.AnnouncedBy segment.naiType.upperHalf (UInt8.ofNat (bitsValue
      [segment.sid.isNone, segment.nai.isNone, segment.parts.isSome, segment.verification])) := by
  have bit := @testBit_bitsOctet
    [segment.sid.isNone, segment.nai.isNone, segment.parts.isSome, segment.verification] (by simp)
  refine ⟨(Subobject.upperHalf_div _).symm, bit 0, ?_, bit 2, bit 3, ?_⟩
  · rw [bit 1]
    exact Nai.flagged_of_consistent consistent
  · rw [bit 0, bit 1]
    exact fun both => not_identified_iff.mpr both identified

theorem AnnouncedBy.head (announced : segment.AnnouncedBy first second) (consistent : segment.Consistent)
    (others : List UInt8) :
    ∃ head,
      SegmentHead.of? (segment.octetsWith first second reserved partsReserved ++ others) = some head ∧
      segment.length = head.srv6Length ∧ (segment.Identified ↔ head.lacksIdentifiers 0 = false) := by
  refine ⟨_, SegmentHead.of?_cons announced.type, ?_,
    SegmentHead.identified_iff announced.sid announced.nai announced.one⟩
  rw [SegmentHead.srv6Length, SegmentHead.naiLength_eq announced.nai consistent, announced.sid,
    announced.parts, Srv6Segment.length]
  cases segment.sid <;> cases segment.parts <;> rfl

end Srv6Segment

namespace Subobject

theorem readSidStructure_ok {parts : SidStructure} :
    readSidStructure slice = .ok (parts, rest) ↔
      ∃ reserved : UInt32, Behind slice (parts.octets ++ word32 reserved) rest := by
  simp only [readSidStructure, Reader.bind_ok, SidStructure.read_ok, word32_ok, pure_ok,
    behind_append_iff]
  constructor
  · rintro ⟨_, _, found, reserved, _, others, rfl, rfl⟩
    exact ⟨reserved, _, found, others⟩
  · rintro ⟨reserved, _, found, others⟩
    exact ⟨_, _, found, reserved, _, others, rfl, rfl⟩

theorem readUnless_parts_ok {absent : Bool} {parts? : Option SidStructure} :
    readUnless absent readSidStructure slice = .ok (parts?, rest) ↔
      absent = parts?.isNone ∧ ∃ reserved : UInt32,
        Behind slice (optionalOctets (fun parts => parts.octets ++ word32 reserved) parts?) rest := by
  rw [readUnless_ok]
  cases parts? with
  | none => simp [optionalOctets, behind_nil_iff]
  | some parts => simp [optionalOctets, readSidStructure_ok]

theorem readSrv6Segment_ok {segment : Srv6Segment} :
    readSrv6Segment slice = .ok (segment, rest) ↔
      segment.Consistent ∧ ∃ first second reserved partsReserved, segment.AnnouncedBy first second ∧
        Behind slice (segment.octetsWith first second reserved partsReserved) rest := by
  simp only [readSrv6Segment, Reader.bind_ok, pure_ok, word16_ok]
  constructor
  · rintro ⟨⟨type, flags⟩, afterHeader, header, reserved, afterReserved, reservedOctets, behavior,
      afterBehavior, behaviorOctets, sid, afterSid, readSid, parts, afterParts, readParts, nai, _,
      readNai, rfl, rfl⟩
    obtain ⟨first, second, headerOctets, code, rfl, one⟩ := readSegmentHeader_ok.mp header
    obtain ⟨noSid, sidOctets⟩ := (readUnless_part_ok ipv6_ok).mp readSid
    obtain ⟨noParts, partsReserved, partsOctets⟩ := readUnless_parts_ok.mp readParts
    obtain ⟨noNai, consistent, naiOctets⟩ := readUnless_nai_ok.mp ⟨nai, readNai, rfl⟩
    rw [← Option.not_isSome, Bool.not_inj_iff] at noParts
    have front := behind_append_iff.mpr ⟨_, headerOctets, reservedOctets⟩
    have front := behind_append_iff.mpr ⟨_, front, behaviorOctets⟩
    have front := behind_append_iff.mpr ⟨_, front, sidOctets⟩
    have front := behind_append_iff.mpr ⟨_, front, partsOctets⟩
    exact ⟨consistent, first, second, reserved, partsReserved,
      ⟨code, noSid, noNai, noParts, rfl, one⟩, behind_append_iff.mpr ⟨_, front, naiOctets⟩⟩
  · rintro ⟨consistent, first, second, reserved, partsReserved, announced, behind⟩
    obtain ⟨afterParts, front, naiOctets⟩ := behind_append_iff.mp behind
    obtain ⟨afterSid, front, partsOctets⟩ := behind_append_iff.mp front
    obtain ⟨afterBehavior, front, sidOctets⟩ := behind_append_iff.mp front
    obtain ⟨afterReserved, front, behaviorOctets⟩ := behind_append_iff.mp front
    obtain ⟨afterHeader, header, reservedOctets⟩ := behind_append_iff.mp front
    obtain ⟨nai, readNai, found⟩ := readUnless_nai_ok.mpr ⟨announced.nai, consistent, naiOctets⟩
    have noParts : (!second.toNat.testBit 2) = segment.parts.isNone := by
      rw [announced.parts, Option.not_isSome]
    refine ⟨⟨segment.naiType, second.toNat⟩, afterHeader, readSegmentHeader_ok.mpr
      ⟨first, second, header, announced.type, rfl, announced.one⟩, reserved, afterReserved,
      reservedOctets, segment.behavior, afterBehavior, behaviorOctets, segment.sid, afterSid,
      (readUnless_part_ok ipv6_ok).mpr ⟨announced.sid, sidOctets⟩, segment.parts, afterParts,
      readUnless_parts_ok.mpr ⟨noParts, partsReserved, partsOctets⟩, nai, rest, readNai, ?_, rfl⟩
    rw [announced.verification, ← found]

theorem readSrv6Segment_octets {segment : Srv6Segment} (consistent : segment.Consistent)
    (identified : segment.Identified) (behind : Behind slice segment.octets rest) :
    readSrv6Segment slice = .ok (segment, rest) :=
  readSrv6Segment_ok.mpr
    ⟨consistent, _, _, 0, 0, Srv6Segment.announcedBy_octets consistent identified, behind⟩

theorem srv6Segment_of_read {segment : Srv6Segment}
    (found : readSrv6Segment slice = .ok (segment, rest)) :
    segment.Consistent ∧ slice.octets.length = segment.length + rest.octets.length := by
  obtain ⟨consistent, _, _, _, _, -, behind⟩ := readSrv6Segment_ok.mp found
  exact ⟨consistent, by rw [behind.length, segment.length_octetsWith]⟩

end Subobject
end Pcep
end RouteWire
