import RouteWire.Proofs.Pcep.Message
import RouteWire.Proofs.Pcep.Relocation
import RouteWire.Proofs.Wire
/-!
Accounts of what was read. Octets that were read are elements of the wire, laid end to end; each element
was either read, in its place and as its octets alone say, or recorded as passed over.

Main statement: `wire_accounted`.
-/
namespace RouteWire.Pcep

/-! ## TLVs -/

theorem Tlv.ofFrame_eq (registry : Registry) (frame : Frame UInt16) :
    ofFrame registry frame = Scan.asKnown ((registry.tlv? frame.header).map (readValue registry))
      (.of (.unknownTlv frame.header)) frame.value := by
  rw [records_ofFrame.apply]
  cases registry.tlv? frame.header with
  | none => rfl
  | some kind =>
    simp only [Option.map_some, Scan.asKnown]
    cases (readValue registry kind).inside frame.value <;> rfl

structure WireTlv where
  code : UInt16
  value : List UInt8
  padding : List UInt8

namespace WireTlv
variable {registry : Registry} {slice rest : Slice} {frame : Frame UInt16}

def octets (tlv : WireTlv) : List UInt8 :=
  word16 tlv.code ++ beOctets 2 tlv.value.length ++ tlv.value ++ tlv.padding

/-- Each value has a length that fits its field and is padded to four octets, the last one perhaps not
all the way. -/
structure Laid (tlvs : List WireTlv) : Prop where
  fits : ∀ tlv ∈ tlvs,
    tlv.value.length ≤ 65535 ∧ tlv.padding.length ≤ RouteWire.padding tlv.value.length
  filled : ∀ tlv ∈ tlvs.dropLast, tlv.padding.length = RouteWire.padding tlv.value.length

def isKnown (registry : Registry) (tlv : WireTlv) : Bool := (registry.tlv? tlv.code).isSome

/-- The value, by itself, is read as a TLV of the kind that is registered for the code. -/
def Decodes (registry : Registry) (wire : WireTlv) (tlv : Tlv) : Prop :=
  ∃ kind, registry.tlv? wire.code = some kind ∧
    (Tlv.readValue registry kind).inside (.whole wire.value) = .ok tlv

def SameButPadding (first second : WireTlv) : Prop :=
  second.code = first.code ∧ second.value = first.value ∧
    second.padding.length = first.padding.length

def ShownBy (frame : Frame UInt16) (tlv : WireTlv) : Prop :=
  frame.header = tlv.code ∧ frame.value.octets = tlv.value

theorem of_cut (found : Tlv.framing.cut slice = .ok (frame, rest)) :
    ∃ tlv : WireTlv, (tlv.value.length ≤ 65535 ∧
        tlv.padding.length ≤ RouteWire.padding tlv.value.length) ∧
      (rest.octets ≠ [] → tlv.padding.length = RouteWire.padding tlv.value.length) ∧
        slice.octets = tlv.octets ++ rest.octets ∧ ShownBy frame tlv := by
  have short := (Tlv.cut_ok found).1
  simp only [Tlv.framing] at found
  split at found
  · cases found
  · next header behind cut =>
    split at found
    · cases found
    · next value after cutValue =>
      cases found
      obtain ⟨whole, length, -, -⟩ := Slice.octets_of_split? cut
      obtain ⟨wholeBehind, lengthValue, -, -⟩ := Slice.octets_of_split? cutValue
      have codeLength : (header.octets.take 2).length = 2 := by rw [List.length_take, length]; rfl
      have sizeLength : (header.octets.drop 2).length = 2 := by rw [List.length_drop, length]
      have code : word16 (UInt16.ofNat (beValue (header.octets.take 2))) = header.octets.take 2 := by
        rw [word16, UInt16.toNat_ofNat_of_lt' (beValue_lt_pow codeLength), beOctets_beValue codeLength]
      have size : beOctets 2 value.octets.length = header.octets.drop 2 := by
        rw [lengthValue, beOctets_beValue sizeLength]
      dsimp only at short ⊢
      rw [Slice.skip, ← lengthValue]
      refine ⟨⟨_, value.octets, after.octets.take (RouteWire.padding value.octets.length)⟩,
        ⟨short, List.length_take_le ..⟩, fun more => ?_, ?_, rfl, rfl⟩
      · have longer := List.length_pos_of_ne_nil more
        rw [List.length_drop] at longer
        exact List.length_take_of_le (by omega)
      · rw [octets, code, size, List.take_append_drop, whole, wholeBehind]
        simp only [List.append_assoc, List.take_append_drop]

theorem cut_octets {tlv : WireTlv} {others : List UInt8} (offset : Nat)
    (fits : tlv.value.length ≤ 65535 ∧ tlv.padding.length ≤ RouteWire.padding tlv.value.length)
    (filled : others ≠ [] → tlv.padding.length = RouteWire.padding tlv.value.length) :
    ∃ frame, Tlv.framing.cut ⟨offset, tlv.octets ++ others⟩ =
        .ok (frame, ⟨offset + tlv.octets.length, others⟩) ∧ ShownBy frame tlv := by
  obtain ⟨code, value, padding⟩ := tlv
  have front : (word16 code ++ beOctets 2 value.length).take 2 = word16 code :=
    List.take_left' (length_word16 code)
  have back : (word16 code ++ beOctets 2 value.length).drop 2 = beOctets 2 value.length :=
    List.drop_left' (length_word16 code)
  have size : beValue (beOctets 2 value.length) = value.length :=
    beValue_beOctets_of_lt (Nat.lt_succ_of_le fits.1)
  have split : Slice.split? ⟨offset, octets ⟨code, value, padding⟩ ++ others⟩ 4 =
      some (⟨offset, word16 code ++ beOctets 2 value.length⟩,
        ⟨offset + 4, value ++ (padding ++ others)⟩) := by
    rw [Slice.split?_eq_some_iff]
    refine ⟨?_, by simp, rfl, rfl⟩
    simp only [octets, List.append_assoc]
  -- A padding that is cut short has nothing behind it.
  have skipped : Slice.skip ⟨offset + 4 + value.length, padding ++ others⟩
      (RouteWire.padding value.length) = ⟨offset + 4 + value.length + padding.length, others⟩ := by
    rw [Slice.skip]
    by_cases nothing : others = []
    · rw [nothing, List.append_nil, List.take_of_length_le fits.2, List.drop_eq_nil_of_le fits.2]
    · rw [List.take_left' (filled nothing), List.drop_left' (filled nothing)]
  refine ⟨⟨⟨offset, octets ⟨code, value, padding⟩ ++ others⟩, code, ⟨offset + 4, value⟩⟩, ?_, rfl, rfl⟩
  have length : (octets ⟨code, value, padding⟩).length = 4 + value.length + padding.length := by
    simp only [octets, List.length_append, length_word16, length_beOctets]
  simp only [Tlv.framing, split, front, back, size, beValue_word16, UInt16.ofNat_toNat,
    Slice.split?_append, skipped, length]
  simp only [Nat.add_assoc]

theorem ofFrame_shown {wire : WireTlv} {ignored : Ignored} {tlv? : Option Tlv}
    (shown : ShownBy frame wire) (answer : Tlv.ofFrame registry frame = (ignored, .ok tlv?)) :
    ignored = (if wire.isKnown registry then ∅ else .of (.unknownTlv wire.code)) ∧
      if wire.isKnown registry then ∃ tlv, tlv? = some tlv ∧ wire.Decodes registry tlv
      else tlv? = none := by
  rw [Tlv.ofFrame_eq, shown.1] at answer
  rw [isKnown]
  obtain ⟨absent, rfl, rfl⟩ | ⟨_, tlv, listed, found, rfl, rfl⟩ := Scan.asKnown_ok.mp answer
  · simp [Option.map_eq_none_iff.mp absent]
  · obtain ⟨kind, known, rfl⟩ := Option.map_eq_some_iff.mp listed
    rw [Reader.inside_iff_whole, shown.2] at found
    rw [known]
    exact ⟨rfl, tlv, rfl, kind, known, found⟩

theorem ofFrame_replaced {other : Frame UInt16} {ignored : Ignored} {tlv? : Option Tlv}
    (header : other.header = frame.header) (value : other.value.octets = frame.value.octets)
    (answer : Tlv.ofFrame registry frame = (ignored, .ok tlv?)) :
    Tlv.ofFrame registry other = (ignored, .ok tlv?) := by
  rw [Tlv.records_ofFrame.apply] at answer
  rw [Tlv.records_ofFrame.apply, header]
  split at answer
  · exact answer
  · next kind known =>
    split at answer
    · cases answer
    · next tlv found =>
      cases answer
      rw [Reader.inside_iff_whole, ← value, ← Reader.inside_iff_whole] at found
      rw [found]

theorem ofFrame_samePadding {other : Frame UInt16} {wire new : WireTlv} {ignored : Ignored}
    {tlv? : Option Tlv} (shown : ShownBy frame wire) (otherShown : ShownBy other new)
    (same : SameButPadding wire new) (answer : Tlv.ofFrame registry frame = (ignored, .ok tlv?)) :
    Tlv.ofFrame registry other = (ignored, .ok tlv?) :=
  ofFrame_replaced (by rw [otherShown.1, same.1, shown.1]) (by rw [otherShown.2, same.2.1, shown.2])
    answer

theorem Laid.samePadding {wire other : List WireTlv} (laid : Laid wire)
    (same : List.Forall₂ SameButPadding wire other) : Laid other := by
  have back : List.Forall₂ SameButPadding wire.dropLast other.dropLast := by
    rw [List.dropLast_eq_take, List.dropLast_eq_take, same.length_eq]
    exact List.forall₂_take _ same
  constructor
  · refine forall_mem_of_forall₂ same laid.fits fun ⟨_, value, padding⟩ fits => ?_
    rw [value, padding]
    exact fits
  · refine forall_mem_of_forall₂ back laid.filled fun ⟨_, value, padding⟩ filled => ?_
    rw [value, padding]
    exact filled

theorem length_samePadding {wire other : List WireTlv}
    (same : List.Forall₂ SameButPadding wire other) :
    (other.flatMap octets).length = (wire.flatMap octets).length := by
  induction same with
  | nil => rfl
  | cons first _ ih =>
    obtain ⟨-, value, padding⟩ := first
    simp only [List.flatMap_cons, octets, List.length_append, length_word16, length_beOctets, ih, value,
      padding]

end WireTlv

structure Tlv.Account (session : Session) (octets : List UInt8) (tlvs : List Tlv) (rest : Slice)
    (later : Session) (wire : List WireTlv) : Prop where
  laid : WireTlv.Laid wire
  parts : octets = wire.flatMap WireTlv.octets
  finished : rest = ⟨octets.length, []⟩
  /-- Those of known codes were read, in their order, each from its value alone. -/
  read : List.Forall₂ (WireTlv.Decodes session.registry)
    (wire.filter (WireTlv.isKnown session.registry)) tlvs
  recorded : later = { session with ignored := session.ignored ++
    { unknownTlvs :=
        ((wire.filter fun tlv => !tlv.isKnown session.registry).map WireTlv.code).toArray } }
  /-- With any other octets for padding the answer is the same. -/
  unpadded : ∀ other, List.Forall₂ WireTlv.SameButPadding wire other →
    session.read Tlv.scanAll (other.flatMap WireTlv.octets) = (.ok (tlvs, rest), later)

theorem Tlv.exists_account {session later : Session} {octets : List UInt8} {tlvs : List Tlv}
    {rest : Slice} (found : session.read Tlv.scanAll octets = (.ok (tlvs, rest), later)) :
    ∃ wire, Tlv.Account session octets tlvs rest later wire := by
  obtain ⟨ignored, scanned, rfl⟩ := Session.read_ok.mp found
  obtain ⟨⟨frames, tiles, kept⟩, rfl⟩ := Scan.elements_ok.mp scanned
  obtain ⟨wire, fits, filled, parts, shown⟩ := tiles.wire WireTlv.of_cut
  obtain ⟨decoded, noted⟩ := kept.accounted shown WireTlv.ofFrame_shown
  have laid : WireTlv.Laid wire := ⟨fits, filled⟩
  refine ⟨wire, laid, parts, Slice.finish_whole octets, decoded, ?_, fun other same => ?_⟩
  · rw [noted, ← Ignored.concat_skipped (fun codes => { unknownTlvs := codes.toArray }) rfl fun _ _ => by
      simp [Ignored.append_def, Ignored.append]]
    rfl
  · obtain ⟨fitsOther, filledOther⟩ := laid.samePadding same
    obtain ⟨others, otherTiles, otherShown⟩ :=
      Framing.tiles_of_wire WireTlv.cut_octets fitsOther filledOther 0
    have again := kept.replaced shown otherShown same WireTlv.ofFrame_samePadding
    have finish : (Slice.whole octets).finish =
        (Slice.whole (other.flatMap WireTlv.octets)).finish := by
      rw [Slice.finish_whole, Slice.finish_whole, WireTlv.length_samePadding same]
      exact congrArg (Slice.mk · []) (congrArg List.length parts)
    exact Session.read_ok.mpr ⟨ignored, Scan.elements_ok.mpr ⟨⟨others, otherTiles, again⟩, finish⟩, rfl⟩

/-! ## Subobjects -/

theorem Subobject.rroOfFrame_eq (registry : Registry) (frame : Frame UInt8) :
    rroOfFrame registry frame = Scan.asKnown ((registry.rro? frame.header).map readRroValue)
      (.of (.unknownRroSubobject frame.header)) frame.value := by
  rw [records_rroOfFrame.apply]
  cases registry.rro? frame.header with
  | none => rfl
  | some kind =>
    simp only [Option.map_some, Scan.asKnown]
    cases (readRroValue kind).inside frame.value <;> rfl

structure WireSubobject where
  header : UInt8
  value : List UInt8

namespace WireSubobject
variable {registry : Registry} {slice rest : Slice} {frame : Frame UInt8}

def octets (subobject : WireSubobject) : List UInt8 :=
  [subobject.header, UInt8.ofNat (2 + subobject.value.length)] ++ subobject.value

def Laid (subobjects : List WireSubobject) : Prop :=
  ∀ subobject ∈ subobjects, 2 + subobject.value.length ≤ 255

def ShownBy (frame : Frame UInt8) (subobject : WireSubobject) : Prop :=
  frame.header = subobject.header ∧ frame.value.octets = subobject.value

theorem of_cut (found : Subobject.framing.cut slice = .ok (frame, rest)) :
    ∃ subobject : WireSubobject, 2 + subobject.value.length ≤ 255 ∧
      slice.octets = subobject.octets ++ rest.octets ∧ ShownBy frame subobject := by
  have fits := (Subobject.cut_ok found).2
  simp only [Subobject.framing] at found
  split at found
  · cases found
  · cases found
  · next header length contents whole =>
    split at found
    · cases found
    · next enough =>
      split at found
      · cases found
      · next value behind cut =>
        cases found
        obtain ⟨parts, size, -, -⟩ := Slice.octets_of_split? cut
        have least : 2 ≤ length.toNat := Nat.le_of_not_lt enough
        have said : UInt8.ofNat (2 + value.octets.length) = length := by
          rw [size, Nat.add_sub_cancel' least, UInt8.ofNat_toNat]
        refine ⟨⟨header, value.octets⟩, fits, ?_, rfl, rfl⟩
        dsimp only at parts
        rw [octets, said, whole, parts]
        rfl

theorem cut_octets {subobject : WireSubobject} {others : List UInt8} (offset : Nat)
    (fits : 2 + subobject.value.length ≤ 255) :
    ∃ frame, Subobject.framing.cut ⟨offset, subobject.octets ++ others⟩ =
        .ok (frame, ⟨offset + subobject.octets.length, others⟩) ∧ ShownBy frame subobject := by
  have cutsOff : Framing.CutsOff Subobject.framing
      (Subobject.header false subobject.header (2 + subobject.value.length) ++ subobject.value)
      fun frame => ShownBy frame subobject :=
    Subobject.cutsOff_header fits fun _ _ => ⟨rfl, rfl⟩
  exact cutsOff offset others

theorem length_octets (subobject : WireSubobject) :
    subobject.octets.length = 2 + subobject.value.length := by
  rw [octets, List.length_append]
  rfl

/-- A hop of an explicit route: the flag of the first octet, and the value by itself, read as the
registry says for the other seven bits. -/
def ReadsEro (registry : Registry) (wire : WireSubobject) (subobject : EroSubobject) : Prop :=
  subobject.loose = wire.header.toNat.testBit 7 ∧
    ∃ kind, registry.ero? (wire.header % 128) = some kind ∧
      (Subobject.readEroValue kind).inside (.whole wire.value) = .ok subobject.value

def ReadsXro (registry : Registry) (wire : WireSubobject) (subobject : XroSubobject) : Prop :=
  subobject.mandatory = wire.header.toNat.testBit 7 ∧
    ∃ kind, registry.xro? (wire.header % 128) = some kind ∧
      (Subobject.readXroValue kind).inside (.whole wire.value) = .ok subobject.value

def ReadsRro (registry : Registry) (wire : WireSubobject) (subobject : RroSubobject) : Prop :=
  ∃ kind, registry.rro? wire.header = some kind ∧
    (Subobject.readRroValue kind).inside (.whole wire.value) = .ok subobject

def isKnownRro (registry : Registry) (subobject : WireSubobject) : Bool :=
  (registry.rro? subobject.header).isSome

theorem eroOfFrame_shown {wire : WireSubobject} {subobject : EroSubobject} (shown : ShownBy frame wire)
    (answer : Subobject.eroOfFrame registry frame = .ok subobject) : ReadsEro registry wire subobject := by
  obtain ⟨header, value⟩ := shown
  rw [Subobject.eroOfFrame, header] at answer
  split at answer
  · cases answer
  · next kind known =>
    split at answer
    · cases answer
    · next found =>
      cases answer
      rw [Reader.inside_iff_whole, value] at found
      exact ⟨rfl, kind, known, found⟩

theorem xroOfFrame_shown {wire : WireSubobject} {subobject : XroSubobject} (shown : ShownBy frame wire)
    (answer : Subobject.xroOfFrame registry frame = .ok subobject) : ReadsXro registry wire subobject := by
  obtain ⟨header, value⟩ := shown
  rw [Subobject.xroOfFrame, header] at answer
  split at answer
  · cases answer
  · next kind known =>
    split at answer
    · cases answer
    · next found =>
      cases answer
      rw [Reader.inside_iff_whole, value] at found
      exact ⟨rfl, kind, known, found⟩

theorem rroOfFrame_shown {wire : WireSubobject} {ignored : Ignored} {subobject? : Option RroSubobject}
    (shown : ShownBy frame wire)
    (answer : Subobject.rroOfFrame registry frame = (ignored, .ok subobject?)) :
    ignored = (if wire.isKnownRro registry then ∅ else .of (.unknownRroSubobject wire.header)) ∧
      if wire.isKnownRro registry then
        ∃ subobject, subobject? = some subobject ∧ wire.ReadsRro registry subobject
      else subobject? = none := by
  rw [Subobject.rroOfFrame_eq, shown.1] at answer
  rw [isKnownRro]
  obtain ⟨absent, rfl, rfl⟩ | ⟨_, subobject, listed, found, rfl, rfl⟩ := Scan.asKnown_ok.mp answer
  · simp [Option.map_eq_none_iff.mp absent]
  · obtain ⟨kind, known, rfl⟩ := Option.map_eq_some_iff.mp listed
    rw [Reader.inside_iff_whole, shown.2] at found
    rw [known]
    exact ⟨rfl, subobject, rfl, kind, known, found⟩

end WireSubobject

namespace Subobject
variable {α : Type} {session later : Session} {octets : List UInt8} {rest : Slice}

/-- What was made of octets that were read as a route in which nothing may be unknown: something of
each of its hops, and there is one. -/
structure RouteAccount (reads : WireSubobject → α → Prop) (octets : List UInt8) (route : List α)
    (rest : Slice) (wire : List WireSubobject) : Prop where
  laid : WireSubobject.Laid wire
  something : wire ≠ []
  parts : octets = wire.flatMap WireSubobject.octets
  finished : rest = ⟨octets.length, []⟩
  read : List.Forall₂ reads wire route

structure ReportedAccount (session : Session) (octets : List UInt8) (route : List RroSubobject)
    (rest : Slice) (later : Session) (wire : List WireSubobject) : Prop where
  laid : WireSubobject.Laid wire
  parts : octets = wire.flatMap WireSubobject.octets
  finished : rest = ⟨octets.length, []⟩
  read : List.Forall₂ (WireSubobject.ReadsRro session.registry)
    (wire.filter (WireSubobject.isKnownRro session.registry)) route
  recorded : later = { session with ignored := session.ignored ++
    { unknownRroSubobjects := ((wire.filter fun subobject =>
        !subobject.isKnownRro session.registry).map WireSubobject.header).toArray } }

theorem exists_routeAccount {read : Frame UInt8 → Except (Failure SubobjectReadError) α}
    {reads : WireSubobject → α → Prop} {route : List α}
    (each : ∀ {frame wire subobject}, WireSubobject.ShownBy frame wire → read frame = .ok subobject →
      reads wire subobject)
    (found : readRoute read (.whole octets) = .ok (route, rest)) :
    ∃ wire, RouteAccount reads octets route rest wire := by
  obtain ⟨nonempty, whole⟩ := readRoute_ok.mp found
  obtain ⟨⟨frames, tiles, answers⟩, rfl⟩ := Framing.readAll_ok.mp whole
  obtain ⟨wire, laid, parts, shown⟩ := tiles.wire_whole WireSubobject.of_cut
  refine ⟨wire, laid, ?_, parts, Slice.finish_whole octets, forall₂_shown shown answers each⟩
  rintro rfl
  exact nonempty parts

theorem exists_reportedAccount {route : List RroSubobject}
    (found : session.read scanRro octets = (.ok (route, rest), later)) :
    ∃ wire, ReportedAccount session octets route rest later wire := by
  obtain ⟨ignored, scanned, rfl⟩ := Session.read_ok.mp found
  obtain ⟨⟨frames, tiles, kept⟩, rfl⟩ := Scan.elements_ok.mp scanned
  obtain ⟨wire, laid, parts, shown⟩ := tiles.wire_whole WireSubobject.of_cut
  obtain ⟨decoded, noted⟩ := kept.accounted shown WireSubobject.rroOfFrame_shown
  refine ⟨wire, laid, parts, Slice.finish_whole octets, decoded, ?_⟩
  rw [noted, ← Ignored.concat_skipped (fun codes => { unknownRroSubobjects := codes.toArray }) rfl
    fun _ _ => by simp [Ignored.append_def, Ignored.append]]
  rfl

end Subobject

/-! ## Objects -/

/-- Whatever a scan records, it is no object that was dropped. -/
class Scan.DropsNothing {ε α : Type} (scan : Scan ε α) : Prop where
  droppedObjects : ∀ registry slice, (scan registry slice).1.droppedObjects = #[]

namespace Scan
variable {η ε ε' α β : Type} {scan : Scan ε α}

theorem droppedObjects_apply (scan : Scan ε α) [nothing : scan.DropsNothing] (registry : Registry)
    (slice : Slice) : (scan registry slice).1.droppedObjects = #[] :=
  nothing.droppedObjects registry slice

instance (value : α) : (pure value : Scan ε α).DropsNothing := ⟨fun _ _ => rfl⟩

instance (reader : Registry → Reader ε α) : (ofReader reader).DropsNothing := ⟨fun _ _ => rfl⟩

instance {next : α → Scan ε β} [scan.Logs] [∀ value, (next value).Logs] [scan.DropsNothing]
    [∀ value, (next value).DropsNothing] : (scan >>= next).DropsNothing := by
  refine ⟨fun registry slice => ?_⟩
  have nothing := droppedObjects_apply scan registry slice
  rw [(records_bind scan next).apply]
  generalize scan registry slice = answer at nothing ⊢
  rcases answer with ⟨ignored, failure | ⟨value, rest⟩⟩
  · exact nothing
  · exact Array.append_eq_empty_iff.mpr ⟨nothing, droppedObjects_apply (next value) registry rest⟩

instance {wrap : ε → ε'} [scan.Logs] [scan.DropsNothing] : (scan.mapError wrap).DropsNothing := by
  refine ⟨fun registry slice => ?_⟩
  have nothing := droppedObjects_apply scan registry slice
  rw [(records_mapError wrap scan).apply]
  generalize scan registry slice = answer at nothing ⊢
  rcases answer with ⟨ignored, failure | result⟩ <;> exact nothing

theorem dropsNothing_elements {framing : Framing η ε} {read : FrameReader η ε (Option α)} [read.Logs]
    (each : ∀ registry frame, (read registry frame).1.droppedObjects = #[]) :
    (elements framing read).DropsNothing := by
  refine ⟨fun registry slice => ?_⟩
  have all : ∀ frames stopped, (collected (read registry) stopped frames).1.droppedObjects = #[] := by
    intro frames stopped
    induction frames with
    | nil => rfl
    | cons frame frames ih =>
      have first := each registry frame
      rw [collected]
      generalize read registry frame = answer at first ⊢
      rcases answer with ⟨ignored, failure | value?⟩
      · exact first
      · generalize collected (read registry) stopped frames = answers at ih ⊢
        rcases answers with ⟨later, failure | values⟩ <;>
          exact Array.append_eq_empty_iff.mpr ⟨first, ih⟩
  rw [(records_elements framing read).apply]
  have found := all (framing.cutAll slice).1 (framing.cutAll slice).2
  generalize collected (read registry) (framing.cutAll slice).2 (framing.cutAll slice).1 = answers
    at found ⊢
  rcases answers with ⟨ignored, failure | values⟩ <;> exact found

end Scan

section DropsNothing

theorem Tlv.droppedObjects_ofFrame (registry : Registry) (frame : Frame UInt16) :
    (Tlv.ofFrame registry frame).1.droppedObjects = #[] := by
  rw [Tlv.records_ofFrame.apply]
  split
  · rfl
  · split <;> rfl

instance {τ : Type} (insert : τ → Tlv → Option Tlv × τ) (start : τ) :
    (TlvSet.scanInto insert start).DropsNothing := by
  refine ⟨fun registry slice => ?_⟩
  have all : ∀ (frames : List (Frame UInt16)) stopped (set : τ),
      (TlvSet.filled insert registry stopped set frames).1.droppedObjects = #[] := by
    intro frames stopped set
    induction frames generalizing set with
    | nil => rfl
    | cons frame frames ih =>
      have first := Tlv.droppedObjects_ofFrame registry frame
      rw [TlvSet.filled]
      generalize Tlv.ofFrame registry frame = answer at first ⊢
      rcases answer with ⟨ignored, failure | _ | tlv⟩
      · exact first
      · exact Array.append_eq_empty_iff.mpr ⟨first, ih set⟩
      · have offered : (TlvSet.offered insert set tlv).1.droppedObjects = #[] := by
          rw [TlvSet.offered]
          cases (insert set tlv).1 <;> rfl
        exact Array.append_eq_empty_iff.mpr
          ⟨first, Array.append_eq_empty_iff.mpr ⟨offered, ih _⟩⟩
  rw [(TlvSet.records_scanInto insert start).apply]
  have found := all (Tlv.framing.cutAll slice).1 (Tlv.framing.cutAll slice).2 start
  generalize TlvSet.filled insert registry (Tlv.framing.cutAll slice).2 start
    (Tlv.framing.cutAll slice).1 = answer at found ⊢
  rcases answer with ⟨ignored, failure | set⟩ <;> exact found

instance {σ : Type} [TlvSet σ] : (TlvSet.scan : Scan TlvReadError σ).DropsNothing := by
  unfold TlvSet.scan
  infer_instance

instance : Subobject.scanRro.DropsNothing := by
  refine Scan.dropsNothing_elements fun registry frame => ?_
  rw [Subobject.records_rroOfFrame.apply]
  split
  · rfl
  · split <;> rfl

instance (body : List RroSubobject → ObjectBody) : (ObjectBody.scanRoute body).DropsNothing := by
  unfold ObjectBody.scanRoute
  infer_instance

instance {σ : Type} [TlvSet σ] (fixedPart : Reader ObjectReadError (σ → ObjectBody)) :
    (ObjectBody.withTlvs fixedPart).DropsNothing := by
  unfold ObjectBody.withTlvs
  infer_instance

instance (kind : ObjectKind) : (ObjectBody.scan kind).DropsNothing := by
  cases kind <;> (unfold ObjectBody.scan; infer_instance)

instance (kind : ObjectKind) : (ObjectValue.scan kind).DropsNothing := by
  refine ⟨fun registry slice => ?_⟩
  have nothing := Scan.droppedObjects_apply (ObjectBody.scan kind) registry slice
  rw [(ObjectValue.records_scan kind).apply]
  dsimp only
  split
  · rfl
  · split
    · rfl
    · generalize ObjectBody.scan kind registry slice = answer at nothing ⊢
      rcases answer with ⟨ignored, failure | ⟨body, rest⟩⟩ <;> exact nothing

end DropsNothing

structure WireObject where
  objectClass : UInt8
  typeAndFlags : UInt8
  body : List UInt8

namespace WireObject
variable {registry : Registry} {slice rest : Slice} {frame : Frame ObjectHeader}

def octets (object : WireObject) : List UInt8 :=
  [object.objectClass, object.typeAndFlags] ++ beOctets 2 (4 + object.body.length) ++ object.body

def codes (object : WireObject) : ObjectCodes := ⟨object.objectClass, object.typeAndFlags / 16⟩

def flags (object : WireObject) : ObjectFlags := .ofOctet object.typeAndFlags

def Laid (objects : List WireObject) : Prop :=
  ∀ object ∈ objects, 4 + object.body.length ≤ 65535 ∧ object.body.length % 4 = 0

/-- An object may be dropped if its class and type are not registered and it need not be taken into
account. -/
def isDropped (registry : Registry) (object : WireObject) : Bool :=
  (registry.object? object.codes).isNone && !object.flags.processingRule

/-- What is read of an object: its body, by itself, as the kind that is registered; or the body as it
is, with the error that says whether some type of its class is registered. -/
inductive Reads (registry : Registry) (wire : WireObject) : Object → Prop
  | registered {kind : ObjectKind} {ignored : Ignored} {value : ObjectValue} {rest : Slice}
      (known : registry.object? wire.codes = some kind)
      (found : ObjectValue.scan kind registry (.whole wire.body) = (ignored, .ok (value, rest))) :
      Reads registry wire ⟨wire.flags, value⟩
  | unrecognizedType {type : UInt8} {kind : ObjectKind} (absent : registry.object? wire.codes = none)
      (other : registry.object? ⟨wire.objectClass, type⟩ = some kind) :
      Reads registry wire ⟨wire.flags, .unknown ⟨wire.codes, .unrecognizedObjectType, wire.body⟩⟩
  | unrecognizedClass (absent : ∀ type, registry.object? ⟨wire.objectClass, type⟩ = none) :
      Reads registry wire ⟨wire.flags, .unknown ⟨wire.codes, .unrecognizedObjectClass, wire.body⟩⟩

def record (registry : Registry) (object : WireObject) : Ignored :=
  match registry.object? object.codes with
  | some kind => (ObjectValue.scan kind registry (.whole object.body)).1
  | none => if object.flags.processingRule then ∅ else .of (.object object.codes)

def ShownBy (frame : Frame ObjectHeader) (object : WireObject) : Prop :=
  frame.header = ⟨object.codes, object.flags⟩ ∧ frame.value.octets = object.body

theorem of_cut (found : Object.framing.cut slice = .ok (frame, rest)) :
    ∃ object : WireObject, (4 + object.body.length ≤ 65535 ∧ object.body.length % 4 = 0) ∧
      slice.octets = object.octets ++ rest.octets ∧ ShownBy frame object := by
  obtain ⟨-, fits, whole, -⟩ := Object.cut_ok found
  simp only [Object.framing] at found
  split at found
  · next objectClass typeAndFlags high low contents split =>
    split at found
    · cases found
    · next valid =>
      split at found
      · cases found
      · next value behind cut =>
        cases found
        obtain ⟨parts, size, -, -⟩ := Slice.octets_of_split? cut
        have least : 4 ≤ beValue [high, low] := by omega
        have said : beOctets 2 (4 + value.octets.length) = [high, low] := by
          rw [size, Nat.add_sub_cancel' least]
          exact beOctets_beValue rfl
        refine ⟨⟨objectClass, typeAndFlags, value.octets⟩, ⟨fits, whole⟩, ?_, rfl, rfl⟩
        dsimp only at parts
        rw [octets, said, split, parts]
        rfl
  · cases found

theorem exists_header {object : WireObject} (fits : 4 + object.body.length ≤ 65535) :
    ∃ high low, beValue [high, low] = 4 + object.body.length ∧
      object.octets = [object.objectClass, object.typeAndFlags, high, low] ++ object.body := by
  obtain ⟨high, low, length⟩ := List.length_eq_two.mp (length_beOctets 2 (4 + object.body.length))
  refine ⟨high, low, ?_, by rw [octets, length]; rfl⟩
  rw [← length]
  exact beValue_beOctets_of_lt (Nat.lt_succ_of_le fits)

theorem length_octets (object : WireObject) : object.octets.length = 4 + object.body.length := by
  rw [octets, List.length_append, List.length_append, length_beOctets]
  rfl

theorem cut_octets {object : WireObject} {others : List UInt8} (offset : Nat)
    (fits : 4 + object.body.length ≤ 65535 ∧ object.body.length % 4 = 0) :
    ∃ frame, Object.framing.cut ⟨offset, object.octets ++ others⟩ =
        .ok (frame, ⟨offset + object.octets.length, others⟩) ∧ ShownBy frame object := by
  obtain ⟨high, low, said, whole⟩ := exists_header fits.1
  have valid : ¬(4 + object.body.length < 4 ∨ (4 + object.body.length) % 4 ≠ 0) := by omega
  have split : Slice.split? ⟨offset + 4, object.body ++ others⟩ (4 + object.body.length - 4) =
      some (⟨offset + 4, object.body⟩, ⟨offset + 4 + object.body.length, others⟩) := by
    rw [Nat.add_sub_cancel_left]
    exact Slice.split?_append ..
  rw [object.length_octets, whole]
  refine ⟨⟨⟨offset, [object.objectClass, object.typeAndFlags, high, low] ++ object.body ++ others⟩,
    ⟨object.codes, object.flags⟩, ⟨offset + 4, object.body⟩⟩, ?_, rfl, rfl⟩
  simp only [Object.framing, List.cons_append, List.nil_append, said, valid, if_false, split]
  rw [Nat.add_assoc]
  rfl

theorem hasClass_iff {objectClass : UInt8} :
    registry.hasClass objectClass = true ↔
      ∃ type kind, registry.object? ⟨objectClass, type⟩ = some kind := by
  simp only [Registry.hasClass, List.any_eq_true, decide_eq_true_eq, Table.mem_keys_iff]
  constructor
  · rintro ⟨⟨_, type⟩, ⟨kind, known⟩, rfl⟩
    exact ⟨type, kind, known⟩
  · rintro ⟨type, kind, known⟩
    exact ⟨_, ⟨kind, known⟩, rfl⟩

theorem reads_ofUnregistered {wire : WireObject} (absent : registry.object? wire.codes = none) :
    Reads registry wire ⟨wire.flags, .ofUnregistered registry wire.codes wire.body⟩ := by
  rw [ObjectValue.ofUnregistered]
  split
  · next related =>
    obtain ⟨type, kind, other⟩ := hasClass_iff.mp related
    exact .unrecognizedType absent other
  · next unrelated =>
    refine .unrecognizedClass fun type => ?_
    cases found : registry.object? ⟨wire.objectClass, type⟩ with
    | none => rfl
    | some kind => exact absurd (hasClass_iff.mpr ⟨type, kind, found⟩) unrelated

theorem ofFrame_shown {wire : WireObject} {ignored : Ignored} {object? : Option Object}
    (shown : ShownBy frame wire) (answer : Object.ofFrame registry frame = (ignored, .ok object?)) :
    ignored = wire.record registry ∧
      if !wire.isDropped registry then ∃ object, object? = some object ∧ wire.Reads registry object
      else object? = none := by
  obtain ⟨header, value⟩ := shown
  rw [Object.records_ofFrame.apply, header] at answer
  rw [record, isDropped]
  dsimp only at answer
  split at answer
  · next kind known =>
    split at answer
    · cases answer
    · next found =>
      cases answer
      obtain ⟨rest, byItself⟩ := Scan.whole_of_ok _ found
      rw [value] at byItself
      simp only [known, byItself]
      exact ⟨trivial, _, rfl, .registered known byItself⟩
  · next absent =>
    rw [absent]
    split at answer
    · next required =>
      cases answer
      rw [required, value]
      exact ⟨rfl, _, rfl, reads_ofUnregistered absent⟩
    · next optional =>
      cases answer
      simp [optional]

theorem droppedObjects_record (registry : Registry) (object : WireObject) :
    (object.record registry).droppedObjects =
      if object.isDropped registry then #[object.codes] else #[] := by
  rw [record, isDropped]
  cases registry.object? object.codes with
  | some kind => exact Scan.droppedObjects_apply (ObjectValue.scan kind) ..
  | none => cases object.flags.processingRule <;> rfl

theorem droppedObjects_concat (registry : Registry) (wire : List WireObject) :
    (Ignored.concat (wire.map (record registry))).droppedObjects =
      ((wire.filter (isDropped registry)).map codes).toArray := by
  induction wire with
  | nil => rfl
  | cons object wire ih =>
    have first := droppedObjects_record registry object
    rw [List.map_cons, Ignored.concat, List.foldr_cons, ← Ignored.concat, List.filter_cons]
    refine (congrArg₂ (· ++ ·) first ih).trans ?_
    cases object.isDropped registry <;> simp

end WireObject

structure Message.Account (session : Session) (octets : List UInt8) (message : Message) (rest : Slice)
    (later : Session) (version : UInt8) (wire : List WireObject) : Prop where
  valid : version / 32 = protocolVersion
  laid : WireObject.Laid wire
  fits : 4 + (wire.flatMap WireObject.octets).length ≤ 65535
  parts : octets = [version, CodePoint.code message.type] ++
    beOctets 2 (4 + (wire.flatMap WireObject.octets).length) ++ wire.flatMap WireObject.octets ++
      rest.octets
  finished : rest.offset = 4 + (wire.flatMap WireObject.octets).length
  read : List.Forall₂ (WireObject.Reads session.registry)
    (wire.filter fun object => !object.isDropped session.registry) message.objects
  recorded : later = ⟨session.registry,
    session.ignored ++ .concat (wire.map (WireObject.record session.registry))⟩
  dropped : later.ignored.droppedObjects = session.ignored.droppedObjects ++
    ((wire.filter (WireObject.isDropped session.registry)).map WireObject.codes).toArray

theorem Message.exists_account {session later : Session} {octets : List UInt8} {message : Message}
    {rest : Slice} (found : session.read Message.scan octets = (.ok (message, rest), later)) :
    ∃ version wire, Message.Account session octets message rest later version wire := by
  obtain ⟨ignored, scanned, rfl⟩ := Session.read_ok.mp found
  obtain ⟨frame, cut, answer⟩ := Scan.element_ok.mp scanned
  obtain ⟨length, behind, header, least, split, -⟩ := Message.cut_ok.mp cut
  obtain ⟨version, valid, bound, front⟩ := Message.readHeader_ok.mp header
  obtain ⟨body, size, -, offset⟩ := Slice.octets_of_split? split
  rw [Message.records_ofFrame.apply] at answer
  split at answer
  · cases answer
  · next objects _ read =>
    cases answer
    obtain ⟨⟨frames, tiles, kept⟩, -⟩ := Scan.elements_ok.mp (Scan.mapError_ok.mp read)
    obtain ⟨wire, laid, parts, shown⟩ := tiles.wire_whole WireObject.of_cut
    obtain ⟨decoded, rfl⟩ := kept.accounted shown WireObject.ofFrame_shown
    have total : 4 + (wire.flatMap WireObject.octets).length = length := by
      rw [← parts, size, Nat.add_sub_cancel' least]
    refine ⟨version, wire, valid, laid, ?_, ?_, ?_, decoded, rfl, ?_⟩
    · omega
    · have whole := front.1
      rw [body, parts, ← total, ← List.append_assoc] at whole
      exact whole
    · rw [offset, front.2, total]
      exact Nat.add_sub_cancel' least
    · rw [← WireObject.droppedObjects_concat]
      rfl

/-! ## The statement -/

/-- Nothing on the wire is lost without a record: when a message, TLVs or a reported route are read, each
element of the wire was read or recorded, and in a route that admits nothing unknown each was read. -/
theorem wire_accounted (session later : Session) (octets : List UInt8) (rest : Slice) :
    (∀ message, session.read Message.scan octets = (.ok (message, rest), later) →
      ∃ version wire, Message.Account session octets message rest later version wire) ∧
    (∀ tlvs, session.read Tlv.scanAll octets = (.ok (tlvs, rest), later) →
      ∃ wire, Tlv.Account session octets tlvs rest later wire) ∧
    (∀ route, session.read Subobject.scanRro octets = (.ok (route, rest), later) →
      ∃ wire, Subobject.ReportedAccount session octets route rest later wire) ∧
    (∀ route, Subobject.readEro session.registry (.whole octets) = .ok (route, rest) →
      ∃ wire, Subobject.RouteAccount (WireSubobject.ReadsEro session.registry) octets route rest wire) ∧
    (∀ route, Subobject.readXro session.registry (.whole octets) = .ok (route, rest) →
      ∃ wire, Subobject.RouteAccount (WireSubobject.ReadsXro session.registry) octets route rest wire) :=
  ⟨fun _ => Message.exists_account, fun _ => Tlv.exists_account,
    fun _ => Subobject.exists_reportedAccount,
    fun _ => Subobject.exists_routeAccount WireSubobject.eroOfFrame_shown,
    fun _ => Subobject.exists_routeAccount WireSubobject.xroOfFrame_shown⟩

/-- A TLV of unknown code, and one whose padding is cut short. -/
def clutteredTlvs : List UInt8 := [39, 15, 0, 2, 7, 8, 1, 2, 0, 4, 0, 2, 0, 9, 3]

def clutteredRoute : List UInt8 := [99, 4, 0, 0, 1, 8, 192, 0, 2, 1, 24, 3]

def looseRoute : List UInt8 := [129, 8, 192, 0, 2, 1, 24, 0]

theorem wire_accounted_cluttered :
    let session := Session.start (Registry.empty.enable .base)
    let network : Ipv4Network := ⟨.ofOctets [192, 0, 2, 1], 24⟩
    (∃ version wire, Message.Account session Message.cluttered Message.withinBase ⟨56, [255]⟩
      Message.afterCluttered version wire) ∧
    (∃ wire, Tlv.Account session clutteredTlvs [.objectiveFunctionList [9]] ⟨15, []⟩
      (session.read Tlv.scanAll clutteredTlvs).2 wire) ∧
    (∃ wire, Subobject.ReportedAccount session clutteredRoute [.ipv4Prefix network ⟨true, true⟩] ⟨12, []⟩
      (session.read Subobject.scanRro clutteredRoute).2 wire) ∧
    (∃ wire, Subobject.RouteAccount (WireSubobject.ReadsEro session.registry) looseRoute
      [⟨true, .ipv4Prefix network⟩] ⟨8, []⟩ wire) ∧
    ∃ wire, Subobject.RouteAccount (WireSubobject.ReadsXro session.registry) looseRoute
      [⟨true, .ipv4Prefix network .interface⟩] ⟨8, []⟩ wire := by
  intro session network
  have message : (session.read Message.scan Message.cluttered).1 =
      .ok (Message.withinBase, ⟨56, [255]⟩) := by decide +kernel
  have tlvs : (session.read Tlv.scanAll clutteredTlvs).1 =
      .ok ([.objectiveFunctionList [9]], ⟨15, []⟩) := by decide +kernel
  have reported : (session.read Subobject.scanRro clutteredRoute).1 =
      .ok ([.ipv4Prefix network ⟨true, true⟩], ⟨12, []⟩) := by decide +kernel
  have explicit : Subobject.readEro session.registry (.whole looseRoute) =
      .ok ([⟨true, .ipv4Prefix network⟩], ⟨8, []⟩) := by decide +kernel
  have excluded : Subobject.readXro session.registry (.whole looseRoute) =
      .ok ([⟨true, .ipv4Prefix network .interface⟩], ⟨8, []⟩) := by decide +kernel
  exact ⟨(wire_accounted ..).1 _ (Prod.ext message rfl), (wire_accounted ..).2.1 _ (Prod.ext tlvs rfl),
    (wire_accounted ..).2.2.1 _ (Prod.ext reported rfl),
    (wire_accounted session session ..).2.2.2.1 _ explicit,
    (wire_accounted session session ..).2.2.2.2 _ excluded⟩

end RouteWire.Pcep
