import RouteWire.Proofs.Pcep.Accounting
/-!
Octets that end early. The header of an element that was read says how long the element is, and this is
compared with the octets that are there before any of them is read further. So wherever an element is cut
short, the failure tells the length that it had; only the padding of a TLV may be missing. A route that is
cut short is read up to the hop in which it ends.

Main statement: `truncation_reported`.
-/
namespace RouteWire
variable {η ε α ω : Type}

theorem exists_prefix_behind {front contents part : List UInt8} (shorter : part <+: front ++ contents)
    (long : front.length ≤ part.length) : ∃ more, part = front ++ more ∧ more <+: contents := by
  obtain ⟨more, rfl⟩ := List.prefix_of_prefix_length_le (List.prefix_append ..) shorter long
  exact ⟨more, rfl, (List.prefix_append_right_inj front).mp shorter⟩

theorem exists_contents_behind {header contents part : List UInt8}
    (shorter : part <+: header ++ contents) (proper : part ≠ header ++ contents)
    (long : header.length ≤ part.length) :
    ∃ more, part = header ++ more ∧ more.length < contents.length := by
  obtain ⟨more, rfl, within⟩ := exists_prefix_behind shorter long
  refine ⟨more, rfl, Nat.lt_of_le_of_ne within.length_le fun same => proper ?_⟩
  rw [within.eq_of_length same]

namespace Framing
variable {framing : Framing η ε}

theorem cutAll_of_wire {shows : Frame η → ω → Prop} {encode : ω → List UInt8} {single : ω → Prop}
    (cut : ∀ {element others} (offset : Nat), single element →
      ∃ frame, framing.cut ⟨offset, encode element ++ others⟩ =
        .ok (frame, ⟨offset + (encode element).length, others⟩) ∧ shows frame element)
    {wire : List ω} (all : ∀ element ∈ wire, single element) {offset : Nat}
    {behind : List UInt8} {failure : Failure ε} (something : behind ≠ [])
    (stops : framing.cut ⟨offset + (wire.flatMap encode).length, behind⟩ = .error failure) :
    ∃ frames, framing.cutAll ⟨offset, wire.flatMap encode ++ behind⟩ = (frames, some failure) ∧
      List.Forall₂ shows frames wire := by
  induction wire generalizing offset with
  | nil =>
    refine ⟨[], ?_, .nil⟩
    rw [List.flatMap_nil, List.length_nil, Nat.add_zero] at stops
    rw [List.flatMap_nil, List.nil_append, cutAll_eq, if_neg (by simpa using something), stops]
  | cons element wire ih =>
    obtain ⟨fits, others⟩ := List.forall_mem_cons.mp all
    obtain ⟨frame, first, shown⟩ := cut offset fits
    rw [List.flatMap_cons, List.length_append, ← Nat.add_assoc] at stops
    obtain ⟨frames, found, allShown⟩ := ih others stops
    refine ⟨frame :: frames, ?_, .cons shown allShown⟩
    rw [List.flatMap_cons, List.append_assoc, cutAll_of_cut first, found]

theorem collect_of_stop {read : Frame η → Except (Failure ε) α} {failure : Failure ε}
    {frames : List (Frame η)} {values : List α}
    (answers : List.Forall₂ (fun frame value => read frame = .ok value) frames values) :
    collect read (some failure) frames = .error failure := by
  induction answers with
  | nil => rfl
  | cons answer _ ih => rw [collect, answer, ih]

end Framing

namespace Pcep
variable {session later : Session} {octets part : List UInt8} {rest : Slice}

theorem Session.read_of_cut_error {framing : Framing η ε} {failure : Failure ε}
    (read : FrameReader η ε α) (stops : framing.cut (.whole octets) = .error failure)
    (session : Session) :
    session.read (Scan.element framing read) octets = (.error failure, session) := by
  simp only [Session.read, Scan.element, stops]

/-! ## Objects -/

/-- An object that is cut short is told to have no whole header, or not as much as its header says. -/
def Object.CutShort (session : Session) (taken : List UInt8) : Prop :=
  ∀ part, part <+: taken → part ≠ taken →
    session.read Object.scan part =
      (.error ⟨if part.length < 4 then .truncatedHeader ⟨4, part.length⟩
        else .lengthMismatch ⟨taken.length, part.length⟩, 0, part.length⟩, session)

theorem WireObject.cut_part {wire : WireObject}
    (fits : 4 + wire.body.length ≤ 65535 ∧ wire.body.length % 4 = 0) (shorter : part <+: wire.octets)
    (proper : part ≠ wire.octets) :
    Object.framing.cut (.whole part) =
      .error ⟨if part.length < 4 then .truncatedHeader ⟨4, part.length⟩
        else .lengthMismatch ⟨wire.octets.length, part.length⟩, 0, part.length⟩ := by
  obtain ⟨high, low, said, whole⟩ := exists_header fits.1
  rw [wire.length_octets]
  rw [whole] at shorter proper
  by_cases short : part.length < 4
  · rw [if_pos short]
    -- The header is taken apart octet by octet, so each length below four is a case of its own.
    match part, short with
    | [], _ | [_], _ | [_, _], _ | [_, _, _], _ => rfl
  · rw [if_neg short]
    obtain ⟨more, rfl, missing⟩ := exists_contents_behind shorter proper (Nat.le_of_not_lt short)
    have valid : ¬(4 + wire.body.length < 4 ∨ (4 + wire.body.length) % 4 ≠ 0) := by omega
    have absent : Slice.split? ⟨0 + 4, more⟩ (4 + wire.body.length - 4) = none := by
      rw [Nat.add_sub_cancel_left]
      exact Slice.split?_eq_none_iff.mpr missing
    simp only [Object.framing, Slice.whole, List.cons_append, List.nil_append, said, valid, if_false,
      absent]
    rfl

theorem Object.read_part {object? : Option Object}
    (found : session.read Object.scan octets = (.ok (object?, rest), later)) :
    ∃ taken, Reader.Behind (.whole octets) taken rest ∧ Object.CutShort session taken := by
  obtain ⟨_, scanned, -⟩ := Session.read_ok.mp found
  obtain ⟨_, cut, -⟩ := Scan.element_ok.mp scanned
  obtain ⟨wire, fits, parts, -⟩ := WireObject.of_cut cut
  have behind := Framing.behind_of_cut cut parts (WireObject.cut_octets _ fits)
  refine ⟨wire.octets, behind, fun part shorter proper => ?_⟩
  exact Session.read_of_cut_error Object.ofFrame (WireObject.cut_part fits shorter proper) session

/-! ## TLVs -/

/-- A TLV that is cut short is told to have no whole header, or not as much of its value as its header
says; if it is just the padding that is cut, then it is read as before. -/
def Tlv.CutShort (session later : Session) (tlv? : Option Tlv) (wire : WireTlv) : Prop :=
  ∀ part, part <+: wire.octets →
    session.read Tlv.scan part =
      if part.length < 4 + wire.value.length then
        (.error ⟨if part.length < 4 then .truncatedHeader ⟨4, part.length⟩
          else .invalidLength ⟨wire.value.length, part.length - 4⟩, 0, part.length⟩, session)
      else (.ok (tlv?, ⟨part.length, []⟩), later)

namespace WireTlv
variable {wire : WireTlv}

theorem cut_part (fits : wire.value.length ≤ 65535) (shorter : part <+: wire.octets)
    (early : part.length < 4 + wire.value.length) :
    Tlv.framing.cut (.whole part) =
      .error ⟨if part.length < 4 then .truncatedHeader ⟨4, part.length⟩
        else .invalidLength ⟨wire.value.length, part.length - 4⟩, 0, part.length⟩ := by
  by_cases short : part.length < 4
  · have absent : Slice.split? (.whole part) 4 = none := Slice.split?_eq_none_iff.mpr short
    rw [if_pos short]
    simp only [Tlv.framing, absent]
    rfl
  · rw [if_neg short]
    have header : (word16 wire.code ++ beOctets 2 wire.value.length).length = 4 := by simp
    rw [octets, List.append_assoc] at shorter
    obtain ⟨more, rfl, -⟩ := exists_prefix_behind shorter (header.trans_le (Nat.le_of_not_lt short))
    have said : beValue ((word16 wire.code ++ beOctets 2 wire.value.length).drop 2) =
        wire.value.length := by
      rw [List.drop_left' (length_word16 wire.code)]
      exact beValue_beOctets_of_lt (Nat.lt_succ_of_le fits)
    have split : Slice.split? (.whole (word16 wire.code ++ beOctets 2 wire.value.length ++ more)) 4 =
        some (.whole (word16 wire.code ++ beOctets 2 wire.value.length), ⟨0 + 4, more⟩) := by
      have parts := Slice.split?_append 0 (word16 wire.code ++ beOctets 2 wire.value.length) more
      rwa [header] at parts
    rw [List.length_append, header] at early ⊢
    have absent : Slice.split? ⟨0 + 4, more⟩ wire.value.length = none :=
      Slice.split?_eq_none_iff.mpr (Nat.lt_of_add_lt_add_left early)
    simp only [Tlv.framing, Slice.failure, Slice.whole] at split ⊢
    simp only [split, said, absent, Nat.add_sub_cancel_left, List.length_append, header]

theorem exists_unpadded (shorter : part <+: wire.octets) (late : 4 + wire.value.length ≤ part.length) :
    ∃ padding, padding <+: wire.padding ∧ part = WireTlv.octets ⟨wire.code, wire.value, padding⟩ := by
  have front : (word16 wire.code ++ beOctets 2 wire.value.length ++ wire.value).length =
      4 + wire.value.length := by
    simp only [List.length_append, length_word16, length_beOctets]
  obtain ⟨padding, rfl, within⟩ := exists_prefix_behind shorter (front.trans_le late)
  exact ⟨padding, within, rfl⟩

end WireTlv

theorem Tlv.read_part {tlv? : Option Tlv}
    (found : session.read Tlv.scan octets = (.ok (tlv?, rest), later)) :
    ∃ wire : WireTlv, wire.value.length ≤ 65535 ∧ Reader.Behind (.whole octets) wire.octets rest ∧
      Tlv.CutShort session later tlv? wire := by
  obtain ⟨ignored, scanned, rfl⟩ := Session.read_ok.mp found
  obtain ⟨frame, cut, answer⟩ := Scan.element_ok.mp scanned
  obtain ⟨wire, fits, filled, parts, shown⟩ := WireTlv.of_cut cut
  have behind := Framing.behind_of_cut cut parts (WireTlv.cut_octets _ fits filled)
  refine ⟨wire, fits.1, behind, fun part shorter => ?_⟩
  by_cases early : part.length < 4 + wire.value.length
  · rw [if_pos early]
    exact Session.read_of_cut_error Tlv.ofFrame (WireTlv.cut_part fits.1 shorter early) session
  · rw [if_neg early]
    obtain ⟨padding, less, rfl⟩ := WireTlv.exists_unpadded shorter (Nat.le_of_not_lt early)
    have fitsPart : wire.value.length ≤ 65535 ∧ padding.length ≤ RouteWire.padding wire.value.length :=
      ⟨fits.1, less.length_le.trans fits.2⟩
    obtain ⟨other, cutPart, shownPart⟩ :=
      @WireTlv.cut_octets ⟨wire.code, wire.value, padding⟩ [] 0 fitsPart fun more => absurd rfl more
    rw [List.append_nil, Nat.zero_add] at cutPart
    have again := WireTlv.ofFrame_replaced (shownPart.1.trans shown.1.symm)
      (shownPart.2.trans shown.2.symm) answer
    exact Session.read_ok.mpr ⟨ignored, Scan.element_ok.mpr ⟨other, cutPart, again⟩, rfl⟩

/-! ## Messages -/

/-- A message that is cut short behind its header is told to have less than its header says. -/
def Message.CutShort (session : Session) (taken : List UInt8) : Prop :=
  ∀ part, part <+: taken → part ≠ taken → 4 ≤ part.length →
    session.read Message.scan part =
      (.error ⟨.invalidLength ⟨taken.length, part.length⟩, 0, part.length⟩, session)

theorem Message.read_part {message : Message}
    (found : session.read Message.scan octets = (.ok (message, rest), later)) :
    ∃ taken, Reader.Behind (.whole octets) taken rest ∧
      Stream.declaredLength? octets = some taken.length ∧ Message.CutShort session taken := by
  obtain ⟨_, scanned, -⟩ := Session.read_ok.mp found
  obtain ⟨frame, cut, -⟩ := Scan.element_ok.mp scanned
  obtain ⟨length, body, start, least, split, -⟩ := Message.cut_ok.mp cut
  obtain ⟨version, valid, bound, front, place⟩ := Message.readHeader_ok.mp start
  obtain ⟨whole, size, -, finish⟩ := Slice.octets_of_split? split
  generalize said : [version, CodePoint.code frame.header] ++ beOctets 2 length = header at front place
  have header_length : header.length = 4 := by simp [← said]
  have total : (header ++ frame.value.octets).length = length := by
    rw [List.length_append, header_length, size, Nat.add_sub_cancel' least]
  refine ⟨header ++ frame.value.octets, ⟨?_, ?_⟩, ?_, fun part shorter proper enough => ?_⟩
  · rw [front, whole, ← List.append_assoc]
  · rw [finish, place, total, header_length, Nat.add_assoc, Nat.add_sub_cancel' least]
  · rw [total]
    exact Message.declaredLength?_of_readHeader start
  · obtain ⟨more, rfl, missing⟩ := exists_contents_behind shorter proper (header_length.trans_le enough)
    have again : Message.readHeader (.whole (header ++ more)) =
        .ok ((frame.header, length), ⟨4, more⟩) := by
      rw [← said]
      refine Message.readHeader_ok.mpr ⟨version, valid, bound, rfl, ?_⟩
      rw [said, header_length]
      rfl
    have absent : Slice.split? ⟨4, more⟩ (length - 4) = none := by
      rw [← size]
      exact Slice.split?_eq_none_iff.mpr missing
    rw [total]
    refine Session.read_of_cut_error Message.ofFrame ?_ session
    simp only [Message.framing, again, absent, if_neg (Nat.not_lt_of_le least)]
    rfl

/-! ## Routes -/

theorem WireSubobject.cut_part {wire : WireSubobject} (offset : Nat) (fits : 2 + wire.value.length ≤ 255)
    (shorter : part <+: wire.octets) (proper : part ≠ wire.octets) (enough : 2 ≤ part.length) :
    Subobject.framing.cut ⟨offset, part⟩ =
      .error ⟨.invalidLength ⟨wire.octets.length, part.length⟩, offset, part.length⟩ := by
  obtain ⟨more, rfl, missing⟩ := exists_contents_behind shorter proper enough
  have said : (UInt8.ofNat (2 + wire.value.length)).toNat = 2 + wire.value.length :=
    UInt8.toNat_ofNat_of_lt' (Nat.lt_succ_of_le fits)
  have least : ¬UInt8.ofNat (2 + wire.value.length) < 2 := by
    rw [UInt8.lt_iff_toNat_lt, said]
    exact Nat.not_lt_of_le (Nat.le_add_right ..)
  have absent : Slice.split? ⟨offset + 2, more⟩ (2 + wire.value.length - 2) = none := by
    rw [Nat.add_sub_cancel_left]
    exact Slice.split?_eq_none_iff.mpr missing
  simp only [Subobject.framing, List.cons_append, List.nil_append, least, if_false, Subobject.misfit, said,
    absent, wire.length_octets]
  rfl

namespace Subobject

theorem eroOfFrame_of_reads {registry : Registry} {frame : Frame UInt8} {wire : WireSubobject}
    {subobject : EroSubobject} (shown : WireSubobject.ShownBy frame wire)
    (reads : wire.ReadsEro registry subobject) : eroOfFrame registry frame = .ok subobject := by
  obtain ⟨header, value⟩ := shown
  obtain ⟨loose, kind, known, found⟩ := reads
  rw [← value, ← Reader.inside_iff_whole] at found
  rw [eroOfFrame, header]
  simp only [known, found, ← loose]

theorem xroOfFrame_of_reads {registry : Registry} {frame : Frame UInt8} {wire : WireSubobject}
    {subobject : XroSubobject} (shown : WireSubobject.ShownBy frame wire)
    (reads : wire.ReadsXro registry subobject) : xroOfFrame registry frame = .ok subobject := by
  obtain ⟨header, value⟩ := shown
  obtain ⟨mandatory, kind, known, found⟩ := reads
  rw [← value, ← Reader.inside_iff_whole] at found
  rw [xroOfFrame, header]
  simp only [known, found, ← mandatory]

/-- A route that is cut short between two hops is read as the hops up to there; inside a hop whose length
is still there, that hop is told to have less than its length. -/
structure CutShort (read : Reader SubobjectReadError (List α)) (wire : List WireSubobject)
    (route : List α) : Prop where
  between : ∀ front back, wire = front ++ back → front ≠ [] →
    read (.whole (front.flatMap WireSubobject.octets)) =
      .ok (route.take front.length, ⟨(front.flatMap WireSubobject.octets).length, []⟩)
  inside : ∀ front hop back part, wire = front ++ hop :: back → part <+: hop.octets →
    part ≠ hop.octets → 2 ≤ part.length →
      read (.whole (front.flatMap WireSubobject.octets ++ part)) =
        .error ⟨.invalidLength ⟨hop.octets.length, part.length⟩,
          (front.flatMap WireSubobject.octets).length, part.length⟩

theorem RouteAccount.cutShort {read : Frame UInt8 → Except (Failure SubobjectReadError) α}
    {reads : WireSubobject → α → Prop} {route : List α} {wire : List WireSubobject}
    (each : ∀ {frame wire subobject}, WireSubobject.ShownBy frame wire → reads wire subobject →
      read frame = .ok subobject)
    (account : RouteAccount reads octets route rest wire) : CutShort (readRoute read) wire route := by
  -- The hops in front are read as before, since their octets are the same.
  have answers {front back : List WireSubobject} {frames : List (Frame UInt8)}
      (parts : wire = front ++ back) (shown : List.Forall₂ WireSubobject.ShownBy frames front) :
      List.Forall₂ (fun frame subobject => read frame = .ok subobject) frames
        (route.take front.length) := by
    have first := List.forall₂_take front.length account.read
    rw [parts, List.take_left] at first
    have back : List.Forall₂ (flip WireSubobject.ShownBy) front frames := shown.flip
    exact forall₂_shown back first each
  have laid {front back : List WireSubobject} (parts : wire = front ++ back) :
      ∀ hop ∈ front, 2 + hop.value.length ≤ 255 :=
    fun hop member => account.laid hop (parts ▸ List.mem_append_left back member)
  constructor
  · intro front back parts something
    obtain ⟨frames, tiles, shown⟩ :=
      Framing.tiles_of_whole WireSubobject.cut_octets (laid parts) 0
    have whole := Framing.readAll_ok.mpr
      ⟨⟨frames, tiles, answers parts shown⟩, (Slice.finish_whole _).symm⟩
    obtain ⟨hop, others, rfl⟩ := List.exists_cons_of_ne_nil something
    exact readRoute_ok.mpr ⟨List.cons_ne_nil _ _, whole⟩
  · intro front hop back part parts shorter proper enough
    have fits : 2 + hop.value.length ≤ 255 :=
      account.laid hop (parts ▸ List.mem_append_right front List.mem_cons_self)
    have something : part ≠ [] := List.ne_nil_of_length_pos (Nat.lt_of_lt_of_le Nat.zero_lt_two enough)
    have stops := WireSubobject.cut_part (0 + (front.flatMap WireSubobject.octets).length) fits shorter
      proper enough
    obtain ⟨frames, found, shown⟩ := Framing.cutAll_of_wire WireSubobject.cut_octets
      (laid parts) something stops
    have filled : (Slice.whole (front.flatMap WireSubobject.octets ++ part)).octets.isEmpty = false := by
      simp [Slice.whole, something]
    rw [Nat.zero_add] at found
    rw [readRoute, filled, if_neg Bool.false_ne_true, Framing.readAll, Slice.whole, found]
    dsimp only
    rw [Framing.collect_of_stop (answers parts shown)]

end Subobject

/-! ## The statement -/

/-- Wherever the octets of an element that was read end early, the failure tells the length that the
element had. -/
theorem truncation_reported (session later : Session) (octets : List UInt8) (rest : Slice) :
    (∀ object?, session.read Object.scan octets = (.ok (object?, rest), later) →
      ∃ taken, Reader.Behind (.whole octets) taken rest ∧ Object.CutShort session taken) ∧
    (∀ tlv?, session.read Tlv.scan octets = (.ok (tlv?, rest), later) →
      ∃ wire : WireTlv, wire.value.length ≤ 65535 ∧ Reader.Behind (.whole octets) wire.octets rest ∧
        Tlv.CutShort session later tlv? wire) ∧
    (∀ route, Subobject.readEro session.registry (.whole octets) = .ok (route, rest) →
      ∃ wire, Subobject.RouteAccount (WireSubobject.ReadsEro session.registry) octets route rest wire ∧
        Subobject.CutShort (Subobject.readEro session.registry) wire route) ∧
    (∀ route, Subobject.readXro session.registry (.whole octets) = .ok (route, rest) →
      ∃ wire, Subobject.RouteAccount (WireSubobject.ReadsXro session.registry) octets route rest wire ∧
        Subobject.CutShort (Subobject.readXro session.registry) wire route) ∧
    ∀ message, session.read Message.scan octets = (.ok (message, rest), later) →
      ∃ taken, Reader.Behind (.whole octets) taken rest ∧
        Stream.declaredLength? octets = some taken.length ∧ Message.CutShort session taken := by
  refine ⟨fun _ => Object.read_part, fun _ => Tlv.read_part, fun route found => ?_, fun route found => ?_,
    fun _ => Message.read_part⟩
  · obtain ⟨wire, account⟩ := Subobject.exists_routeAccount WireSubobject.eroOfFrame_shown found
    exact ⟨wire, account, account.cutShort Subobject.eroOfFrame_of_reads⟩
  · obtain ⟨wire, account⟩ := Subobject.exists_routeAccount WireSubobject.xroOfFrame_shown found
    exact ⟨wire, account, account.cutShort Subobject.xroOfFrame_of_reads⟩

theorem eq_of_behind_whole {taken : List UInt8} {stop : Nat}
    (behind : Reader.Behind (.whole octets) taken ⟨stop, []⟩) : taken = octets := by
  have whole := behind.1
  rw [List.append_nil] at whole
  exact whole.symm

theorem truncation_reported_looseRoute :
    let session := Session.start (Registry.empty.enable .base)
    session.read Object.scan [5, 32, 0, 8, 0, 0] = (.error ⟨.lengthMismatch ⟨8, 6⟩, 0, 6⟩, session) ∧
      (∃ wire : WireTlv, wire.octets = [0, 4, 0, 2, 0, 9, 1, 2] ∧
        Tlv.CutShort session session (some (.objectiveFunctionList [9])) wire) ∧
      Subobject.readEro session.registry (.whole (looseRoute.take 5)) =
        .error ⟨.invalidLength ⟨8, 5⟩, 0, 5⟩ ∧
      Subobject.readXro session.registry (.whole (looseRoute.take 5)) =
        .error ⟨.invalidLength ⟨8, 5⟩, 0, 5⟩ ∧
      session.read Message.scan (Message.cluttered.take 20) =
        (.error ⟨.invalidLength ⟨56, 20⟩, 0, 20⟩, session) := by
  intro session
  have object : session.read Object.scan [5, 32, 0, 8, 0, 0, 0, 0] =
      (.ok (some ⟨⟨false, false⟩, .known (.existingBandwidth ⟨0⟩)⟩, ⟨8, []⟩), session) :=
    Session.read_of_scan (by decide +kernel)
  have tlv : session.read Tlv.scan [0, 4, 0, 2, 0, 9, 1, 2] =
      (.ok (some (.objectiveFunctionList [9]), ⟨8, []⟩), session) :=
    Session.read_of_scan (by decide +kernel)
  let network : Ipv4Network := ⟨.ofOctets [192, 0, 2, 1], 24⟩
  have explicit : Subobject.readEro session.registry (.whole looseRoute) =
      .ok ([⟨true, .ipv4Prefix network⟩], ⟨8, []⟩) := by decide +kernel
  have excluded : Subobject.readXro session.registry (.whole looseRoute) =
      .ok ([⟨true, .ipv4Prefix network .interface⟩], ⟨8, []⟩) := by decide +kernel
  have message : (session.read Message.scan Message.cluttered).1 =
      .ok (Message.withinBase, ⟨56, [255]⟩) := by decide +kernel
  have hop {α : Type} {reads : WireSubobject → α → Prop} {value : α} {wire : List WireSubobject}
      {read : Reader SubobjectReadError (List α)}
      (account : Subobject.RouteAccount reads looseRoute [value] ⟨8, []⟩ wire)
      (cutShort : Subobject.CutShort read wire [value]) :
      read (.whole (looseRoute.take 5)) = .error ⟨.invalidLength ⟨8, 5⟩, 0, 5⟩ := by
    obtain ⟨hop, rfl⟩ := List.length_eq_one_iff.mp account.read.length_eq
    have parts : hop.octets = looseRoute := by
      have whole := account.parts
      rw [List.flatMap_singleton] at whole
      exact whole.symm
    have inside := cutShort.inside [] hop [] (looseRoute.take 5) rfl
    rw [parts] at inside
    exact inside (List.take_prefix ..) (by decide) (by decide)
  refine ⟨?_, ?_, ?_, ?_, ?_⟩
  · obtain ⟨taken, behind, cutShort⟩ := (truncation_reported session session _ _).1 _ object
    cases eq_of_behind_whole behind
    exact cutShort [5, 32, 0, 8, 0, 0] ⟨[0, 0], rfl⟩ (by decide)
  · obtain ⟨wire, -, behind, cutShort⟩ := (truncation_reported session session _ _).2.1 _ tlv
    exact ⟨wire, eq_of_behind_whole behind, cutShort⟩
  · obtain ⟨wire, account, cutShort⟩ := (truncation_reported session session _ _).2.2.1 _ explicit
    exact hop account cutShort
  · obtain ⟨wire, account, cutShort⟩ := (truncation_reported session session _ _).2.2.2.1 _ excluded
    exact hop account cutShort
  · obtain ⟨taken, behind, declared, cutShort⟩ :=
      (truncation_reported session _ _ _).2.2.2.2 _ (Prod.ext message rfl)
    have whole : Message.cluttered.dropLast = taken := List.append_cancel_right behind.1
    cases whole
    exact cutShort (Message.cluttered.take 20) (by decide) (by decide) (by decide)

end Pcep
end RouteWire
