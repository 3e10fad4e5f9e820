import RouteWire.Proofs.Pcep.Subobject.Route
/-!
Segments whose identifier is not of the type that is written with it. Type and identifier are written
each on its own, but the reader goes by the type: it takes an identifier of that type from the octets of
the other, or does not find enough of them.

Main statement: `segments_reread`.
-/
namespace RouteWire

/-! ## Readers of so many octets -/

namespace Reader
variable {ε α β : Type} [EndOfInput ε] {reader : Reader ε α} {width more : Nat}

/-- The reader makes something of any octets, if there are so many, and otherwise says that the input
ends. -/
def Wants (width : Nat) (reader : Reader ε α) : Prop :=
  ∀ slice : Slice,
    (width ≤ slice.octets.length → ∃ value rest, reader slice = .ok (value, rest) ∧
      slice.octets.length = width + rest.octets.length) ∧
    (slice.octets.length < width → ∃ failure, reader slice = .error failure ∧
      failure.error = EndOfInput.endOfInput)

theorem wants_pure (value : α) : (pure value : Reader ε α).Wants 0 := by
  intro slice
  exact ⟨fun _ => ⟨value, slice, rfl, (Nat.zero_add _).symm⟩, fun short => absurd short (Nat.not_lt_zero _)⟩

theorem wants_take (width : Nat) : (take width : Reader ε (List UInt8)).Wants width := by
  intro slice
  rw [take]
  cases cut : slice.split? width with
  | none =>
    have short := Slice.split?_eq_none_iff.mp cut
    exact ⟨fun enough => absurd short (Nat.not_lt_of_le enough), fun _ => ⟨_, rfl, rfl⟩⟩
  | some parts =>
    obtain ⟨head, rest⟩ := parts
    obtain ⟨whole, length, -, -⟩ := Slice.octets_of_split? cut
    have size : slice.octets.length = width + rest.octets.length := by
      rw [whole, List.length_append, length]
    exact ⟨fun _ => ⟨_, _, rfl, size⟩, fun short => by omega⟩

theorem Wants.bind {next : α → Reader ε β} (first : reader.Wants width)
    (later : ∀ value, (next value).Wants more) : (reader >>= next).Wants (width + more) := by
  intro slice
  constructor
  · intro enough
    obtain ⟨value, mid, found, size⟩ := (first slice).1 (by omega)
    obtain ⟨result, rest, last, sizeMid⟩ := (later value mid).1 (by omega)
    exact ⟨result, rest, bind_ok.mpr ⟨value, mid, found, last⟩, by omega⟩
  · intro short
    by_cases here : slice.octets.length < width
    · obtain ⟨failure, failed, ends⟩ := (first slice).2 here
      exact ⟨failure, bind_error.mpr (.inl failed), ends⟩
    · obtain ⟨value, mid, found, size⟩ := (first slice).1 (Nat.le_of_not_lt here)
      obtain ⟨failure, failed, ends⟩ := (later value mid).2 (by omega)
      exact ⟨failure, bind_error.mpr (.inr ⟨value, mid, found, failed⟩), ends⟩

theorem wants_word32 : (word32 : Reader ε UInt32).Wants 4 :=
  ((wants_take 4).bind fun _ => wants_pure _).bind fun _ => wants_pure _

theorem wants_ipv4 : (Ipv4.read : Reader ε Ipv4).Wants 4 := (wants_take 4).bind fun _ => wants_pure _

theorem wants_ipv6 : (Ipv6.read : Reader ε Ipv6).Wants 16 := (wants_take 16).bind fun _ => wants_pure _

omit [EndOfInput ε] in
theorem map_map {γ : Type} (answer : Except ε α) (first : α → β) (second : β → γ) :
    (answer.map first).map second = answer.map fun value => second (first value) := by
  cases answer <;> rfl

end Reader

namespace Pcep
open Framing Reader
variable {α : Type} {registry : Registry} {slice rest : Slice} {octets : List UInt8}

/-! ## Identifiers -/

theorem Subobject.wants_readNai (type : NaiType) : (readNai type).Wants type.length := by
  cases type with
  | absent => exact wants_pure none
  | ipv4NodeId => exact wants_ipv4.bind fun _ => wants_pure _
  | ipv6NodeId => exact wants_ipv6.bind fun _ => wants_pure _
  | ipv4Adjacency => exact wants_ipv4.bind fun _ => wants_ipv4.bind fun _ => wants_pure _
  | ipv6GlobalAdjacency => exact wants_ipv6.bind fun _ => wants_ipv6.bind fun _ => wants_pure _
  | unnumberedAdjacency =>
    exact wants_word32.bind fun _ => wants_word32.bind fun _ => wants_word32.bind fun _ =>
      wants_word32.bind fun _ => wants_pure _
  | ipv6LinkLocalAdjacency =>
    exact wants_ipv6.bind fun _ => wants_word32.bind fun _ => wants_ipv6.bind fun _ =>
      wants_word32.bind fun _ => wants_pure _

/-- What a route of one hop is read as that was written with a type of identifier and perhaps an
identifier; `hop` is that hop with any identifier in its place. -/
structure Nai.Reread (type : NaiType) (nai? : Option Nai) (hop : Option Nai → α) (finish : Slice)
    (answer : Except (Failure SubobjectReadError) (List α × Slice)) : Prop where
  back : answer = .ok ([hop nai?], finish) ↔ ∀ nai, nai? = some nai → nai.type = type
  /-- An identifier of another type that has no more octets is read from the first of them. -/
  changed : ∀ nai, nai? = some nai → nai.type ≠ type → type.length ≤ nai.length → ∃ other,
    answer = .ok ([hop other], finish) ∧ other ≠ nai? ∧ (∀ found, other = some found → found.type = type) ∧
      optionalOctets Nai.octets other = nai.octets.take type.length
  refused : ∀ nai, nai? = some nai → nai.length < type.length →
    ∃ failure, answer = .error failure ∧ failure.error = .endOfInput

theorem Nai.octets_of_read {type : NaiType} {nai : Nai} {found : Option Nai}
    (whole : slice.octets = nai.octets) (read : Subobject.readNai type slice = .ok (found, rest)) :
    (∀ other, found = some other → other.type = type) ∧
      optionalOctets Nai.octets found = nai.octets.take type.length := by
  cases found with
  | none =>
    obtain ⟨rfl, -⟩ := Subobject.readNai_none_ok.mp read
    exact ⟨nofun, rfl⟩
  | some other =>
    obtain ⟨rfl, behind⟩ := Subobject.readNai_some_ok.mp read
    refine ⟨by rintro _ ⟨⟩; rfl, ?_⟩
    rw [← whole, behind.1, Nai.length_type, ← Nai.length_octets, List.take_left]
    rfl

theorem Nai.read_back_iff {type : NaiType} {nai : Nai} {found : Option Nai}
    (whole : slice.octets = nai.octets) (read : Subobject.readNai type slice = .ok (found, rest)) :
    found = some nai ↔ nai.type = type := by
  constructor
  · rintro rfl
    exact (octets_of_read whole read).1 nai rfl
  · intro same
    have behind : Behind slice nai.octets ⟨slice.offset + nai.octets.length, []⟩ :=
      ⟨by rw [whole, List.append_nil], rfl⟩
    have again := Subobject.readNai_some_ok.mpr ⟨same, behind⟩
    rw [read] at again
    exact (Prod.mk.inj (Except.ok.inj again)).1

section
variable {type : NaiType} {nai : Nai} {hop : Option Nai → α} {finish : Slice}

theorem Nai.reread_refused {failure : Failure SubobjectReadError} (short : nai.length < type.length)
    (ends : failure.error = .endOfInput) : Reread type (some nai) hop finish (.error failure) := by
  refine ⟨iff_of_false (by simp) fun same => ?_, ?_, ?_⟩
  · rw [← same nai rfl, nai.length_type] at short
    exact Nat.lt_irrefl _ short
  · rintro _ ⟨⟩ - enough
    exact absurd short (Nat.not_lt_of_le enough)
  · rintro _ ⟨⟩ -
    exact ⟨failure, rfl, ends⟩

theorem Nai.reread_found {found : Option Nai} (enough : type.length ≤ nai.length)
    (whole : slice.octets = nai.octets) (read : Subobject.readNai type slice = .ok (found, rest))
    (injective : Function.Injective hop) :
    Reread type (some nai) hop finish (.ok ([hop found], finish)) := by
  have back := read_back_iff whole read
  obtain ⟨typed, front⟩ := octets_of_read whole read
  refine ⟨⟨?_, ?_⟩, ?_, ?_⟩
  · rintro same _ ⟨⟩
    exact back.mp (injective (List.singleton_inj.mp (Prod.mk.inj (Except.ok.inj same)).1))
  · intro same
    rw [back.mpr (same nai rfl)]
  · rintro _ ⟨⟩ differs -
    exact ⟨found, rfl, fun same => differs (back.mp same), typed, front⟩
  · rintro _ ⟨⟩ short
    exact absurd short (Nat.not_lt_of_le enough)

end

theorem Nai.reread {type : NaiType} {nai? : Option Nai} {hop : Option Nai → α} {finish tail : Slice}
    (whole : tail.octets = optionalOctets Nai.octets nai?) (injective : Function.Injective hop) :
    Reread type nai? hop finish
      (((Subobject.readUnless nai?.isNone (Subobject.readNai type)).inside tail).map
        fun found => ([hop found.join], finish)) := by
  cases nai? with
  | none => exact ⟨iff_of_true rfl (by simp), by simp, by simp⟩
  | some nai =>
    have size : tail.octets.length = nai.length := by rw [whole]; exact nai.length_octets
    have step : (Subobject.readUnless (some nai).isNone (Subobject.readNai type)).inside tail =
        ((Subobject.readNai type).inside tail).map some := inside_bind_pure ..
    rw [step, Reader.inside]
    rcases Nat.lt_or_ge nai.length type.length with short | enough
    · obtain ⟨failure, failed, ends⟩ := (Subobject.wants_readNai type tail).2 (by omega)
      rw [failed]
      exact reread_refused short ends
    · obtain ⟨found, rest, read, -⟩ := (Subobject.wants_readNai type tail).1 (by omega)
      rw [read]
      exact reread_found enough whole read injective

/-! ## Segments -/

namespace Subobject

theorem readSegment_tail {segment : Segment} (identified : segment.Identified) (offset : Nat) :
    ∃ tail, tail.octets = optionalOctets Nai.octets segment.nai ∧
      readSegment.inside ⟨offset, segment.octets⟩ =
        ((readUnless segment.nai.isNone (readNai segment.naiType)).inside tail).map
          fun nai => { segment with nai := nai.join } := by
  have one : ¬([segment.mplsLabel, segment.controlWord, segment.sid.isNone, segment.nai.isNone].getD 2
      false = true ∧ [segment.mplsLabel, segment.controlWord, segment.sid.isNone,
        segment.nai.isNone].getD 3 false = true) :=
    fun both => not_identified_iff.mpr both identified
  have whole : Behind ⟨offset, segment.octets⟩ segment.octets _ := behind_whole
  obtain ⟨tail, front, naiOctets⟩ := behind_append_iff.mp whole
  obtain ⟨afterHeader, header, sidOctets⟩ := behind_append_iff.mp front
  refine ⟨tail, by rw [naiOctets.1, List.append_nil], ?_⟩
  -- What is in front of the identifier goes by the flags, which are those of the segment.
  have readHeader := readSegmentHeader_octets (by simp) one header
  have readSid := (readUnless_part_ok word32_ok).mpr ⟨rfl, sidOctets⟩
  rw [← inside_bind_pure, Reader.inside, Reader.inside]
  simp only [readSegment, bind_apply, readHeader, testBit_bitsValue, List.getD_cons_succ,
    List.getD_cons_zero, readSid]

theorem readSrv6Segment_tail {segment : Srv6Segment} (identified : segment.Identified) (offset : Nat) :
    ∃ tail, tail.octets = optionalOctets Nai.octets segment.nai ∧
      readSrv6Segment.inside ⟨offset, segment.octets⟩ =
        ((readUnless segment.nai.isNone (readNai segment.naiType)).inside tail).map
          fun nai => { segment with nai := nai.join } := by
  have one : ¬([segment.sid.isNone, segment.nai.isNone, segment.parts.isSome,
      segment.verification].getD 0 false = true ∧ [segment.sid.isNone, segment.nai.isNone,
        segment.parts.isSome, segment.verification].getD 1 false = true) :=
    fun both => not_identified_iff.mpr both identified
  have whole : Behind ⟨offset, segment.octets⟩ segment.octets _ := behind_whole
  obtain ⟨tail, front, naiOctets⟩ := behind_append_iff.mp whole
  obtain ⟨afterSid, front, partsOctets⟩ := behind_append_iff.mp front
  obtain ⟨afterBehavior, front, sidOctets⟩ := behind_append_iff.mp front
  obtain ⟨afterReserved, front, behaviorOctets⟩ := behind_append_iff.mp front
  obtain ⟨afterHeader, header, reservedOctets⟩ := behind_append_iff.mp front
  refine ⟨tail, by rw [naiOctets.1, List.append_nil], ?_⟩
  have readHeader := readSegmentHeader_octets (by simp) one header
  have readReserved : (Reader.word16 : Reader SubobjectReadError UInt16) afterHeader =
      .ok (0, afterReserved) := word16_ok.mpr reservedOctets
  have readBehavior : (Reader.word16 : Reader SubobjectReadError UInt16) afterReserved = _ :=
    word16_ok.mpr behaviorOctets
  have readSid := (readUnless_part_ok ipv6_ok).mpr ⟨rfl, sidOctets⟩
  have readParts : readUnless (!segment.parts.isSome) readSidStructure afterSid = _ :=
    readUnless_parts_ok.mpr ⟨Option.not_isSome _, 0, partsOctets⟩
  rw [← inside_bind_pure, Reader.inside, Reader.inside]
  simp only [readSrv6Segment, bind_apply, readHeader, testBit_bitsValue, List.getD_cons_succ,
    List.getD_cons_zero, readReserved, readBehavior, readSid, readParts]

end Subobject

/-! ## Routes of one hop -/

namespace Subobject

theorem readRoute_one {read : Frame UInt8 → Except (Failure SubobjectReadError) α} {frame : Frame UInt8}
    (cut : framing.cut slice = .ok (frame, slice.finish)) :
    readRoute read slice = (read frame).map fun hop => ([hop], slice.finish) := by
  have something : ¬slice.octets.isEmpty = true := by
    rw [List.isEmpty_iff]
    exact List.ne_nil_of_length_pos (Nat.zero_lt_of_lt (framing.shrinks cut))
  rw [readRoute, if_neg something, readAll, (Tiles.cons cut (.nil rfl)).cutAll]
  dsimp only
  rw [Framing.collect]
  cases read frame <;> rfl

theorem scan_one {read : FrameReader UInt8 SubobjectReadError (Option α)} [read.Logs]
    {frame : Frame UInt8} {answer : Except (Failure SubobjectReadError) α}
    (cut : framing.cut slice = .ok (frame, slice.finish))
    (found : read registry frame = (∅, answer.map some)) :
    Scan.elements framing read registry slice = (∅, answer.map fun hop => ([hop], slice.finish)) := by
  rw [(Scan.records_elements framing read).apply, (Tiles.cons cut (.nil rfl)).cutAll]
  dsimp only
  rw [Scan.collected, found]
  cases answer with
  | error failure => rfl
  | ok hop => exact congrArg (Prod.mk · _) (Ignored.empty_append ∅)

theorem cut_one {contents : List UInt8} (flag : Bool) (code : UInt8) (fits : 2 + contents.length ≤ 255) :
    ∃ frame offset, framing.cut (.whole (header flag code (2 + contents.length) ++ contents)) =
        .ok (frame, (Slice.whole (header flag code (2 + contents.length) ++ contents)).finish) ∧
      frame.header = (if flag then 128 + code else code) ∧ frame.value = ⟨offset, contents⟩ := by
  have cutsOff : CutsOff framing (header flag code (2 + contents.length) ++ contents) fun frame =>
      ∃ offset, frame.header = (if flag then 128 + code else code) ∧ frame.value = ⟨offset, contents⟩ :=
    cutsOff_header fits fun _ offset => ⟨offset, rfl, rfl⟩
  obtain ⟨frame, cut, offset, shown⟩ := cutsOff 0 []
  rw [List.append_nil] at cut
  exact ⟨frame, offset, cut, shown⟩

theorem readEro_one (canonical : registry.Canonical) {hop : EroSubobject}
    (written : (eroScript registry [hop]).toExcept = .ok octets) :
    ∃ offset contents, hop.value.script.toExcept = .ok contents ∧
      readEro registry (.whole octets) =
        ((readEroValue hop.value.kind).inside ⟨offset, contents⟩).map
          fun value => ([⟨hop.loose, value⟩], ⟨octets.length, []⟩) := by
  obtain ⟨-, runs, whole⟩ := routeScript_ok.mp written
  obtain ⟨registered, -, fits, contents, value, parts⟩ := EroSubobject.script_ok.mp
    (Script.toExcept_of_failure (runs hop List.mem_cons_self))
  rw [List.flatMap_singleton, parts, ← EroValue.length_script value] at whole
  rw [← EroValue.length_script value] at fits
  obtain ⟨frame, offset, cut, head, contained⟩ := cut_one hop.loose hop.code fits
  obtain ⟨code, flag⟩ := code_flag hop.value.kind.code_lt hop.loose
  refine ⟨offset, contents, value, ?_⟩
  rw [← Slice.finish_whole, whole, readEro, readRoute_one cut, eroOfFrame, head, EroSubobject.code, code,
    canonical.ero?_eq registered, flag, contained]
  dsimp only
  cases (readEroValue hop.value.kind).inside ⟨offset, contents⟩ <;> rfl

theorem scanRro_one (canonical : registry.Canonical) {hop : RroSubobject}
    (registered : hop.isRegistered registry = true)
    (written : (rroScript registry [hop]).toExcept = .ok octets) :
    ∃ offset contents, hop.valueScript.toExcept = .ok contents ∧
      scanRro registry (.whole octets) =
        (∅, ((readRroValue hop.kind).inside ⟨offset, contents⟩).map
          fun hop => ([hop], ⟨octets.length, []⟩)) := by
  obtain ⟨runs, whole⟩ := Script.concat_map_ok.mp written
  obtain ⟨-, fits, contents, value, parts⟩ := (RroSubobject.script_ok registered).mp
    (Script.toExcept_of_failure (runs hop List.mem_cons_self))
  rw [List.flatMap_singleton, parts, ← RroSubobject.length_valueScript value] at whole
  rw [← RroSubobject.length_valueScript value] at fits
  obtain ⟨frame, offset, cut, head, contained⟩ := cut_one false hop.code fits
  refine ⟨offset, contents, value, ?_⟩
  rw [← Slice.finish_whole, whole]
  refine scan_one cut ?_
  rw [records_rroOfFrame.apply, head, if_neg Bool.false_ne_true, RroSubobject.code,
    canonical.rro?_eq registered, contained]
  dsimp only
  cases (readRroValue hop.kind).inside ⟨offset, contents⟩ <;> rfl

end Subobject

/-! ## The statement -/

/-- A segment that was written is read back just if its identifier, if it has one, is of the type that was
written with it. Otherwise all but the identifier is read back, and in its place one of the other type; or
nothing, if that type has more octets. -/
theorem segments_reread (octets : List UInt8) :
    (∀ (loose : Bool) (segment : Segment),
      (Subobject.eroScript .full [⟨loose, .segmentRouting segment⟩]).run none = (octets, none) →
      Nai.Reread segment.naiType segment.nai
        (fun nai => (⟨loose, .segmentRouting { segment with nai }⟩ : EroSubobject)) ⟨octets.length, []⟩
        (Subobject.readEro .full (.whole octets))) ∧
    (∀ (loose : Bool) (segment : Srv6Segment),
      (Subobject.eroScript .full [⟨loose, .srv6 segment⟩]).run none = (octets, none) →
      Nai.Reread segment.naiType segment.nai
        (fun nai => (⟨loose, .srv6 { segment with nai }⟩ : EroSubobject)) ⟨octets.length, []⟩
        (Subobject.readEro .full (.whole octets))) ∧
    ∀ segment : Segment,
      (Subobject.rroScript .full [.segmentRouting segment]).run none = (octets, none) →
      ∃ answer, Subobject.scanRro .full (.whole octets) = (∅, answer) ∧
        Nai.Reread segment.naiType segment.nai
          (fun nai => RroSubobject.segmentRouting { segment with nai }) ⟨octets.length, []⟩ answer := by
  have canonical := Registry.assembled_full.canonical
  refine ⟨?_, ?_, ?_⟩
  · intro loose segment written
    obtain ⟨offset, contents, value, found⟩ :=
      Subobject.readEro_one canonical (Script.run_none_iff.mp written)
    obtain ⟨identified, rfl⟩ := Segment.script_ok.mp value
    obtain ⟨tail, whole, same⟩ := Subobject.readSegment_tail identified offset
    have inner : (Subobject.readEroValue .segmentRouting).inside ⟨offset, segment.octets⟩ =
        (Subobject.readSegment.inside ⟨offset, segment.octets⟩).map .segmentRouting := inside_bind_pure ..
    rw [found, EroValue.kind, inner, same, map_map, map_map]
    exact Nai.reread whole fun _ _ same => by simpa using same
  · intro loose segment written
    obtain ⟨offset, contents, value, found⟩ :=
      Subobject.readEro_one canonical (Script.run_none_iff.mp written)
    obtain ⟨identified, rfl⟩ := Srv6Segment.script_ok.mp value
    obtain ⟨tail, whole, same⟩ := Subobject.readSrv6Segment_tail identified offset
    have inner : (Subobject.readEroValue .srv6).inside ⟨offset, segment.octets⟩ =
        (Subobject.readSrv6Segment.inside ⟨offset, segment.octets⟩).map .srv6 := inside_bind_pure ..
    rw [found, EroValue.kind, inner, same, map_map, map_map]
    exact Nai.reread whole fun _ _ same => by simpa using same
  · intro segment written
    have registered : RroSubobject.isRegistered .full (.segmentRouting segment) = true := by
      rw [RroSubobject.isRegistered, RroSubobject.code, RroSubobject.kind]
      decide +kernel
    obtain ⟨offset, contents, value, found⟩ :=
      Subobject.scanRro_one canonical registered (Script.run_none_iff.mp written)
    obtain ⟨identified, rfl⟩ := Segment.script_ok.mp value
    obtain ⟨tail, whole, same⟩ := Subobject.readSegment_tail identified offset
    have inner : (Subobject.readRroValue .segmentRouting).inside ⟨offset, segment.octets⟩ =
        (Subobject.readSegment.inside ⟨offset, segment.octets⟩).map .segmentRouting := inside_bind_pure ..
    refine ⟨_, found, ?_⟩
    rw [RroSubobject.kind, inner, same, map_map, map_map]
    exact Nai.reread whole fun _ _ same => by simpa using same

/-- A segment whose identifier is an IPv6 node, where its type says that it is an IPv4 node. -/
def mistyped : Segment :=
  ⟨.ipv4NodeId, false, true, some 7, some (.ipv6NodeId (.ofOctets [32, 1, 13, 184, 0, 0, 0, 0, 0, 0, 0, 0,
    0, 0, 0, 1]))⟩

def mistypedContents : List UInt8 :=
  [16, 1, 0, 0, 0, 7, 32, 1, 13, 184, 0, 0, 0, 0, 0, 0, 0, 0, 0, 0, 0, 1]

def mistypedSrv6 : Srv6Segment :=
  ⟨.ipv6GlobalAdjacency, true, 1, none, none, some (.ipv4NodeId (.ofOctets [192, 0, 2, 1]))⟩

theorem segments_reread_mistyped :
    (∃ other, Subobject.readEro .full (.whole (36 :: 24 :: mistypedContents)) =
        .ok ([⟨false, .segmentRouting { mistyped with nai := other }⟩], ⟨24, []⟩) ∧
      other ≠ mistyped.nai ∧ (∀ found, other = some found → found.type = .ipv4NodeId) ∧
        optionalOctets Nai.octets other = [32, 1, 13, 184]) ∧
    (∃ failure, Subobject.readEro .full (.whole [168, 12, 64, 9, 0, 0, 0, 1, 192, 0, 2, 1]) =
      .error failure ∧ failure.error = .endOfInput) ∧
    ∃ answer, Subobject.scanRro .full (.whole (36 :: 24 :: mistypedContents)) = (∅, answer) ∧
      answer ≠ .ok ([.segmentRouting mistyped], ⟨24, []⟩) := by
  have explicit : (Subobject.eroScript .full [⟨false, .segmentRouting mistyped⟩]).run none =
      (36 :: 24 :: mistypedContents, none) := by decide +kernel
  have explicitSrv6 : (Subobject.eroScript .full [⟨true, .srv6 mistypedSrv6⟩]).run none =
      ([168, 12, 64, 9, 0, 0, 0, 1, 192, 0, 2, 1], none) := by decide +kernel
  have reported : (Subobject.rroScript .full [.segmentRouting mistyped]).run none =
      (36 :: 24 :: mistypedContents, none) := by decide +kernel
  refine ⟨?_, ?_, ?_⟩
  · exact ((segments_reread _).1 _ _ explicit).changed _ rfl (by decide) (by decide)
  · exact ((segments_reread _).2.1 _ _ explicitSrv6).refused _ rfl (by decide)
  · obtain ⟨answer, found, reread⟩ := (segments_reread _).2.2 _ reported
    refine ⟨answer, found, fun same => ?_⟩
    cases reread.back.mp same _ rfl

theorem not_segment_read_back :
    ¬∀ (loose : Bool) (segment : Segment) (octets : List UInt8),
      (Subobject.eroScript .full [⟨loose, .segmentRouting segment⟩]).run none = (octets, none) →
      ∃ again rest, Subobject.readEro .full (.whole octets) =
          .ok ([⟨loose, .segmentRouting again⟩], rest) ∧
        again.sid = segment.sid ∧ again.nai = segment.nai ∧
          again.controlWord = segment.controlWord ∧ again.mplsLabel = segment.mplsLabel := by
  intro back
  have written : (Subobject.eroScript .full [⟨false, .segmentRouting mistyped⟩]).run none =
      (36 :: 24 :: mistypedContents, none) := by decide +kernel
  have found : Subobject.readEro .full (.whole (36 :: 24 :: mistypedContents)) =
      .ok ([⟨false, .segmentRouting { mistyped with
        nai := some (.ipv4NodeId (.ofOctets [32, 1, 13, 184])) }⟩], ⟨24, []⟩) := by decide +kernel
  obtain ⟨again, rest, read, -, nai, -⟩ := back _ _ _ written
  rw [found] at read
  cases read
  cases nai

end Pcep
end RouteWire
