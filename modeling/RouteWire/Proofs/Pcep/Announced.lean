import RouteWire.Proofs.Pcep.Dispatch
/-!
What the octets of a hop announce. The first two octets of a segment tell which identifiers it has and how
many octets it is made of. A reader takes a segment without any identifier, which no writer takes, if it is
the type of the one identifier that says that there is none and not a flag; and it takes a segment with
more octets behind it than are announced, which no other hop may have.

Main statements: `hops_written_unless_lacking` and `hops_read_from_spent`.
-/
namespace RouteWire.Pcep
open Reader
variable {registry : Registry} {slice rest : Slice}

/-! ## Segments that were read -/

namespace Subobject

theorem head_of_readSegment {segment : Segment} (found : readSegment slice = .ok (segment, rest)) :
    ∃ head, SegmentHead.of? slice.octets = some head ∧ segment.length = head.length ∧
      (segment.Identified ↔ head.lacksIdentifiers 2 = false) := by
  obtain ⟨consistent, _, _, announced, behind⟩ := readSegment_ok.mp found
  rw [behind.1]
  exact announced.head consistent rest.octets

theorem head_of_readSrv6Segment {segment : Srv6Segment}
    (found : readSrv6Segment slice = .ok (segment, rest)) :
    ∃ head, SegmentHead.of? slice.octets = some head ∧ segment.length = head.srv6Length ∧
      (segment.Identified ↔ head.lacksIdentifiers 0 = false) := by
  obtain ⟨consistent, _, _, _, _, announced, behind⟩ := readSrv6Segment_ok.mp found
  rw [behind.1]
  exact announced.head consistent rest.octets

theorem readSegment_surplus {segment : Segment} (found : readSegment slice = .ok (segment, rest))
    (surplus : List UInt8) :
    readSegment.inside (.whole (slice.octets.take segment.length ++ surplus)) = .ok segment := by
  obtain ⟨consistent, first, second, announced, behind⟩ := readSegment_ok.mp found
  rw [behind.1, ← segment.length_octetsWith first second, List.take_left]
  exact inside_ok.mpr ⟨_, readSegment_ok.mpr ⟨consistent, first, second, announced, behind_append⟩⟩

theorem readSrv6Segment_surplus {segment : Srv6Segment}
    (found : readSrv6Segment slice = .ok (segment, rest)) (surplus : List UInt8) :
    readSrv6Segment.inside (.whole (slice.octets.take segment.length ++ surplus)) = .ok segment := by
  obtain ⟨consistent, first, second, reserved, partsReserved, announced, behind⟩ :=
    readSrv6Segment_ok.mp found
  rw [behind.1, ← segment.length_octetsWith first second reserved partsReserved, List.take_left]
  exact inside_ok.mpr ⟨_, readSrv6Segment_ok.mpr
    ⟨consistent, first, second, reserved, partsReserved, announced, behind_append⟩⟩

end Subobject

/-! ## Hops on the wire -/

namespace WireSubobject
variable {wire : WireSubobject}

/-- The code is that of a segment, and its first octets announce neither of its identifiers. -/
def lacksIdentifiers (code : UInt8) (wire : WireSubobject) : Bool :=
  (SegmentHead.of? wire.value).any fun head =>
    if code = CodePoint.code EroKind.segmentRouting then head.lacksIdentifiers 2
    else if code = CodePoint.code EroKind.srv6 then head.lacksIdentifiers 0
    else false

def isSegment (wire : WireSubobject) : Bool :=
  wire.code = CodePoint.code EroKind.segmentRouting || wire.code = CodePoint.code EroKind.srv6

/-- How many octets of its value a hop is made of: if it is a segment, as many as its first octets
announce, and otherwise all. -/
def spent (wire : WireSubobject) : Nat :=
  (SegmentHead.of? wire.value).elim wire.value.length fun head =>
    if wire.code = CodePoint.code EroKind.segmentRouting then head.length
    else if wire.code = CodePoint.code EroKind.srv6 then head.srv6Length
    else wire.value.length

def surplus (wire : WireSubobject) : Nat := wire.value.length - wire.spent

/-- A hop of an explicit route was read from the first octets of its value, as many as it is written in.
There are more only behind a segment, and they might be any. -/
structure SpentOn (registry : Registry) (wire : WireSubobject) (hop : EroSubobject) : Prop where
  length : hop.length = 2 + wire.spent
  enough : wire.spent ≤ wire.value.length
  whole : wire.isSegment = false → wire.spent = wire.value.length
  free : wire.isSegment = true → ∀ others : List UInt8,
    ReadsEro registry { wire with value := wire.value.take wire.spent ++ others } hop

theorem isSegment_iff :
    wire.isSegment = true ↔ wire.code = CodePoint.code EroKind.segmentRouting ∨
      wire.code = CodePoint.code EroKind.srv6 := by
  rw [isSegment, Bool.or_eq_true, decide_eq_true_eq, decide_eq_true_eq]

/-- What is announced of a value that was read from a hop: whether it has any identifier, how long it is,
and, of a segment, that the octets behind it do not matter. -/
structure Announces (wire : WireSubobject) (kind : EroKind) (value : EroValue) : Prop where
  identified : value.Identified ↔ wire.lacksIdentifiers wire.code = false
  length : value.length = wire.spent
  enough : wire.spent ≤ wire.value.length
  free : wire.isSegment = true → ∀ others : List UInt8,
    (Subobject.readEroValue kind).inside (.whole (wire.value.take wire.spent ++ others)) = .ok value

theorem announces_segment {value : EroValue} (code : wire.code = CodePoint.code EroKind.segmentRouting)
    (found : Subobject.readEroValue .segmentRouting (.whole wire.value) = .ok (value, rest)) :
    wire.Announces .segmentRouting value := by
  simp only [Subobject.readEroValue, Reader.bind_ok, pure_ok] at found
  obtain ⟨segment, _, read, rfl, rfl⟩ := found
  obtain ⟨head, announced, length, identified⟩ := Subobject.head_of_readSegment read
  rw [Slice.whole] at announced
  have spent : wire.spent = segment.length := by
    rw [spent, announced, Option.elim_some, if_pos code, length]
  refine ⟨?_, spent.symm, ?_, fun _ others => ?_⟩
  · rw [lacksIdentifiers, announced, Option.any_some, if_pos code]
    exact identified
  · rw [spent]
    exact Nat.le.intro (Subobject.segment_of_read read).2.symm
  · rw [spent]
    exact (inside_bind_pure ..).trans
      (congrArg (Except.map EroValue.segmentRouting) (Subobject.readSegment_surplus read others))

theorem announces_srv6 {value : EroValue} (code : wire.code = CodePoint.code EroKind.srv6)
    (found : Subobject.readEroValue .srv6 (.whole wire.value) = .ok (value, rest)) :
    wire.Announces .srv6 value := by
  simp only [Subobject.readEroValue, Reader.bind_ok, pure_ok] at found
  obtain ⟨segment, _, read, rfl, rfl⟩ := found
  obtain ⟨head, announced, length, identified⟩ := Subobject.head_of_readSrv6Segment read
  rw [Slice.whole] at announced
  have other : wire.code ≠ CodePoint.code EroKind.segmentRouting := by
    rw [code]
    decide
  have spent : wire.spent = segment.length := by
    rw [spent, announced, Option.elim_some, if_neg other, if_pos code, length]
  refine ⟨?_, spent.symm, ?_, fun _ others => ?_⟩
  · rw [lacksIdentifiers, announced, Option.any_some, if_neg other, if_pos code]
    exact identified
  · rw [spent]
    exact Nat.le.intro (Subobject.srv6Segment_of_read read).2.symm
  · rw [spent]
    exact (inside_bind_pure ..).trans
      (congrArg (Except.map EroValue.srv6) (Subobject.readSrv6Segment_surplus read others))

theorem spent_of_not_isSegment (other : wire.isSegment = false) : wire.spent = wire.value.length := by
  rw [Bool.eq_false_iff, ne_eq, isSegment_iff, not_or] at other
  rw [spent]
  cases SegmentHead.of? wire.value with
  | none => rfl
  | some head => rw [Option.elim_some, if_neg other.1, if_neg other.2]

theorem lacksIdentifiers_of_ne {code : UInt8} (segment : code ≠ CodePoint.code EroKind.segmentRouting)
    (srv6 : code ≠ CodePoint.code EroKind.srv6) : wire.lacksIdentifiers code = false := by
  rw [lacksIdentifiers]
  cases SegmentHead.of? wire.value with
  | none => rfl
  | some head => rw [Option.any_some, if_neg segment, if_neg srv6]

theorem announces_other {kind : EroKind} {value : EroValue} (code : wire.code = CodePoint.code kind)
    (segment : kind ≠ .segmentRouting) (srv6 : kind ≠ .srv6)
    (found : Subobject.readEroValue kind (.whole wire.value) = .ok (value, rest)) :
    wire.Announces kind value := by
  obtain ⟨rfl, -, -, -, whole⟩ := Subobject.eroValue_of_read found
  have notSegment : wire.code ≠ CodePoint.code EroKind.segmentRouting :=
    fun same => segment (CodePoint.code_injective (code.symm.trans same))
  have notSrv6 : wire.code ≠ CodePoint.code EroKind.srv6 :=
    fun same => srv6 (CodePoint.code_injective (code.symm.trans same))
  have other : ¬wire.isSegment = true := isSegment_iff.not.mpr (not_or.mpr ⟨notSegment, notSrv6⟩)
  have spent := spent_of_not_isSegment (Bool.eq_false_iff.mpr other)
  exact ⟨iff_of_true (EroValue.identified_of_kind segment srv6) (lacksIdentifiers_of_ne notSegment notSrv6),
    (whole segment srv6).trans spent.symm, spent.le, fun is => absurd is other⟩

theorem ReadsEro.announced (canonical : registry.Canonical) {hop : EroSubobject}
    (reads : wire.ReadsEro registry hop) :
    ∃ kind, registry.ero? wire.code = some kind ∧ wire.Announces kind hop.value := by
  obtain ⟨-, kind, known, found⟩ := reads
  obtain ⟨rest, inside⟩ := inside_ok.mp found
  have code : wire.code = CodePoint.code kind := (canonical.ero wire.code kind known).symm
  refine ⟨kind, known, ?_⟩
  rcases eq_or_ne kind .segmentRouting with rfl | segment
  · exact announces_segment code inside
  rcases eq_or_ne kind .srv6 with rfl | srv6
  · exact announces_srv6 code inside
  · exact announces_other code segment srv6 inside

theorem ReadsEro.spentOn (canonical : registry.Canonical) {hop : EroSubobject}
    (reads : wire.ReadsEro registry hop) : wire.SpentOn registry hop := by
  obtain ⟨kind, known, announces⟩ := reads.announced canonical
  exact ⟨congrArg (2 + ·) announces.length, announces.enough, spent_of_not_isSegment,
    fun is others => ⟨reads.1, kind, known, announces.free is others⟩⟩

end WireSubobject

/-! ## Hops that are written again -/

theorem EroValue.failure_script {value : EroValue} (lacking : ¬value.Identified) :
    value.script.failure = some .sidAndNaiAbsent := by
  cases value with
  | segmentRouting segment =>
    have absent := not_identified_iff.mp lacking
    rw [script, Segment.script, if_pos absent]
    rfl
  | srv6 segment =>
    have absent := not_identified_iff.mp lacking
    rw [script, Srv6Segment.script, if_pos absent]
    rfl
  | _ => exact absurd trivial lacking

theorem RroSubobject.failure_valueScript {subobject : RroSubobject} (lacking : ¬subobject.Identified) :
    subobject.valueScript.failure = some .sidAndNaiAbsent := by
  cases subobject with
  | segmentRouting segment =>
    have absent := not_identified_iff.mp lacking
    rw [valueScript, Segment.script, if_pos absent]
    rfl
  | _ => exact absurd trivial lacking

theorem EroSubobject.failure_script {subobject : EroSubobject}
    (registered : (registry.ero? subobject.code).isSome) (checked : subobject.value.check = none)
    (fits : subobject.length ≤ 255) :
    (subobject.script registry).failure = subobject.value.script.failure := by
  rw [script, if_pos registered, checked, Subobject.lengthCheck_eq_none.mpr fits]
  simp [Script.failure_append, Script.check]

theorem RroSubobject.failure_script {subobject : RroSubobject}
    (registered : subobject.isRegistered registry = true) (checked : subobject.check = none)
    (fits : 2 + subobject.valueLength ≤ 255) :
    (subobject.script registry).failure = subobject.valueScript.failure := by
  rw [script, if_pos registered, checked, Subobject.lengthCheck_eq_none.mpr fits]
  simp [Script.failure_append, Script.check]

namespace WireSubobject
variable {wire : WireSubobject}

def refusal (code : UInt8) (wire : WireSubobject) : Option SubobjectWriteError :=
  if wire.lacksIdentifiers code then some .sidAndNaiAbsent else none

theorem refusal_eq {code : UInt8} {identified : Prop} {script : Script SubobjectWriteError}
    (announced : identified ↔ wire.lacksIdentifiers code = false)
    (written : identified → script.failure = none)
    (refused : ¬identified → script.failure = some .sidAndNaiAbsent) :
    script.failure = wire.refusal code := by
  rw [refusal]
  split
  · next lacks => exact refused fun is => by rw [announced.mp is] at lacks; cases lacks
  · next has => exact written (announced.mpr (Bool.eq_false_iff.mpr has))

theorem ReadsEro.refusal (canonical : registry.Canonical) {hop : EroSubobject}
    (fits : 2 + wire.value.length ≤ 255) (reads : wire.ReadsEro registry hop) :
    (hop.value.Identified ↔ wire.lacksIdentifiers wire.code = false) ∧
      (hop.script registry).failure = wire.refusal wire.code := by
  obtain ⟨_, -, announces⟩ := reads.announced canonical
  have code := (reads.agrees canonical).1
  obtain ⟨-, kind, known, found⟩ := reads
  obtain ⟨rest, inside⟩ := inside_ok.mp found
  obtain ⟨-, checked, -, short, -⟩ := Subobject.eroValue_of_read inside
  have registered : (registry.ero? hop.code).isSome := by
    rw [code, WireSubobject.code, known]
    rfl
  rw [EroSubobject.failure_script registered checked (Nat.le_trans (Nat.add_le_add_left short 2) fits)]
  exact ⟨announces.identified, refusal_eq announces.identified EroValue.identified_iff.mpr
    EroValue.failure_script⟩

theorem announces_rro {subobject : RroSubobject} {kind : RroKind}
    (code : wire.header = CodePoint.code kind)
    (found : Subobject.readRroValue kind (.whole wire.value) = .ok (subobject, rest)) :
    subobject.Identified ↔ wire.lacksIdentifiers wire.header = false := by
  rcases eq_or_ne kind .segmentRouting with rfl | other
  · simp only [Subobject.readRroValue, Reader.bind_ok, pure_ok] at found
    obtain ⟨segment, _, read, rfl, rfl⟩ := found
    obtain ⟨head, announced, -, identified⟩ := Subobject.head_of_readSegment read
    rw [Slice.whole] at announced
    have segment : wire.header = CodePoint.code EroKind.segmentRouting := code
    rw [lacksIdentifiers, announced, Option.any_some, if_pos segment]
    exact identified
  -- No code of a reported route is that of a segment with an address.
  · obtain ⟨rfl, -⟩ := Subobject.rroValue_of_read found
    have segment : wire.header ≠ CodePoint.code EroKind.segmentRouting :=
      fun same => other (CodePoint.code_injective (code.symm.trans same))
    have srv6 : wire.header ≠ CodePoint.code EroKind.srv6 := by
      rw [code]
      generalize subobject.kind = kind
      cases kind <;> decide
    exact iff_of_true (RroSubobject.identified_of_kind other) (lacksIdentifiers_of_ne segment srv6)

theorem ReadsRro.refusal (canonical : registry.Canonical) {hop : RroSubobject}
    (fits : 2 + wire.value.length ≤ 255) (reads : wire.ReadsRro registry hop) :
    (hop.Identified ↔ wire.lacksIdentifiers wire.header = false) ∧
      (hop.script registry).failure = wire.refusal wire.header := by
  have code := reads.agrees canonical
  obtain ⟨kind, known, found⟩ := reads
  obtain ⟨rest, inside⟩ := inside_ok.mp found
  obtain ⟨-, checked, -, short⟩ := Subobject.rroValue_of_read inside
  have announced := announces_rro (canonical.rro wire.header kind known).symm inside
  have registered : hop.isRegistered registry = true := by
    rw [RroSubobject.isRegistered, code, known]
    rfl
  rw [RroSubobject.failure_script registered checked (Nat.le_trans (Nat.add_le_add_left short 2) fits)]
  exact ⟨announced, refusal_eq announced RroSubobject.identified_iff.mpr
    RroSubobject.failure_valueScript⟩

end WireSubobject

namespace Subobject
variable {α : Type} {wire : List WireSubobject} {route : List α}

theorem failure_concat {write : α → Script SubobjectWriteError} {code : WireSubobject → UInt8}
    (each : List.Forall₂ (fun wire hop => (write hop).failure = wire.refusal (code wire)) wire route) :
    (Script.concat (route.map write)).failure =
      if wire.any fun hop => hop.lacksIdentifiers (code hop) then some .sidAndNaiAbsent else none := by
  induction each with
  | nil => rfl
  | cons first _ ih =>
    rw [List.map_cons, Script.concat_cons, Script.failure_append, first, ih, List.any_cons,
      WireSubobject.refusal]
    cases WireSubobject.lacksIdentifiers _ _ <;> rfl

theorem sum_of_forall₂ {length : α → Nat} {surplus : WireSubobject → Nat}
    (each : List.Forall₂ (fun wire hop => length hop + surplus wire = wire.octets.length) wire route) :
    (route.map length).sum + (wire.map surplus).sum = (wire.flatMap WireSubobject.octets).length := by
  induction each with
  | nil => rfl
  | cons first _ ih =>
    rw [List.map_cons, List.map_cons, List.sum_cons, List.sum_cons, List.flatMap_cons,
      List.length_append, ← ih, ← first]
    omega

end Subobject

theorem WireSubobject.ReadsXro.length {wire : WireSubobject} {hop : XroSubobject}
    (reads : wire.ReadsXro registry hop) : hop.length = wire.octets.length := by
  obtain ⟨-, kind, -, found⟩ := reads
  obtain ⟨_, inside⟩ := inside_ok.mp found
  rw [wire.length_octets, XroSubobject.length, (Subobject.xroValue_of_read inside).2]
  rfl

/-! ## The statements -/

/-- Each hop that was read is written again, unless it is a segment whose first octets flag its segment
identifier as absent and give its other identifier no type: then it has neither, which is an error. -/
theorem hops_written_unless_lacking (session later : Session) (assembled : session.registry.Assembled)
    (octets : List UInt8) (rest : Slice) :
    (∀ route, Subobject.readEro session.registry (.whole octets) = .ok (route, rest) →
      ∃ wire, Subobject.RouteAccount (WireSubobject.ReadsEro session.registry) octets route rest wire ∧
        List.Forall₂ (fun wire hop =>
          (hop.value.Identified ↔ wire.lacksIdentifiers wire.code = false) ∧
            (hop.script session.registry).failure = wire.refusal wire.code) wire route ∧
        (Subobject.eroScript session.registry route).failure =
          if wire.any fun hop => hop.lacksIdentifiers hop.code then some .sidAndNaiAbsent else none) ∧
    ∀ route, session.read Subobject.scanRro octets = (.ok (route, rest), later) →
      ∃ wire, Subobject.ReportedAccount session octets route rest later wire ∧
        List.Forall₂ (fun wire hop =>
          (hop.Identified ↔ wire.lacksIdentifiers wire.header = false) ∧
            (hop.script session.registry).failure = wire.refusal wire.header)
          (wire.filter (WireSubobject.isKnownRro session.registry)) route ∧
        (Subobject.rroScript session.registry route).failure =
          if (wire.filter (WireSubobject.isKnownRro session.registry)).any fun hop =>
            hop.lacksIdentifiers hop.header then some .sidAndNaiAbsent else none := by
  have canonical := assembled.canonical
  constructor
  · intro route found
    obtain ⟨wire, account⟩ := Subobject.exists_routeAccount WireSubobject.eroOfFrame_shown found
    have each := ((List.forall₂_and_left _ _).mpr ⟨account.laid, account.read⟩).imp
      fun _ _ hop => hop.2.refusal canonical hop.1
    refine ⟨wire, account, each, ?_⟩
    rw [← Subobject.failure_concat (each.imp fun _ _ hop => hop.2), Subobject.eroScript,
      Subobject.routeScript, if_neg]
    rw [List.isEmpty_iff]
    rintro rfl
    exact account.something (List.forall₂_nil_right_iff.mp each)
  · intro route found
    obtain ⟨wire, account⟩ := Subobject.exists_reportedAccount found
    have laid : ∀ hop ∈ wire.filter (WireSubobject.isKnownRro session.registry),
        2 + hop.value.length ≤ 255 := fun hop member => account.laid hop (List.mem_filter.mp member).1
    have each := ((List.forall₂_and_left _ _).mpr ⟨laid, account.read⟩).imp
      fun _ _ hop => hop.2.refusal canonical hop.1
    exact ⟨wire, account, each, Subobject.failure_concat (each.imp fun _ _ hop => hop.2)⟩

/-- Two segments: of the first there is a flag that it has no segment identifier, and its other identifier
has no type; the second has a label. -/
def lackingRoute : List UInt8 := [36, 4, 0, 4, 36, 8, 0, 9, 0, 0, 112, 0]

def lackingSegment : Segment := ⟨.absent, false, false, none, none⟩

def labelledSegment : Segment := ⟨.absent, false, true, some 28672, none⟩

theorem hops_written_unless_lacking_unflagged :
    let session := Session.start .full
    (∃ wire, Subobject.RouteAccount (WireSubobject.ReadsEro .full) lackingRoute
        [⟨false, .segmentRouting lackingSegment⟩, ⟨false, .segmentRouting labelledSegment⟩] ⟨12, []⟩ wire ∧
      List.Forall₂ (fun wire (hop : EroSubobject) =>
        (hop.value.Identified ↔ wire.lacksIdentifiers wire.code = false) ∧
          (hop.script .full).failure = wire.refusal wire.code) wire
        [⟨false, .segmentRouting lackingSegment⟩, ⟨false, .segmentRouting labelledSegment⟩] ∧
      (Subobject.eroScript .full
        [⟨false, .segmentRouting lackingSegment⟩, ⟨false, .segmentRouting labelledSegment⟩]).failure =
        if wire.any fun hop => hop.lacksIdentifiers hop.code then some .sidAndNaiAbsent else none) ∧
    ∃ wire, Subobject.ReportedAccount session lackingRoute
        [.segmentRouting lackingSegment, .segmentRouting labelledSegment] ⟨12, []⟩
        (session.read Subobject.scanRro lackingRoute).2 wire ∧
      List.Forall₂ (fun wire (hop : RroSubobject) =>
        (hop.Identified ↔ wire.lacksIdentifiers wire.header = false) ∧
          (hop.script .full).failure = wire.refusal wire.header)
        (wire.filter (WireSubobject.isKnownRro .full))
        [.segmentRouting lackingSegment, .segmentRouting labelledSegment] ∧
      (Subobject.rroScript .full
        [.segmentRouting lackingSegment, .segmentRouting labelledSegment]).failure =
        if (wire.filter (WireSubobject.isKnownRro .full)).any fun hop =>
          hop.lacksIdentifiers hop.header then some .sidAndNaiAbsent else none := by
  intro session
  have explicit : Subobject.readEro .full (.whole lackingRoute) =
      .ok ([⟨false, .segmentRouting lackingSegment⟩, ⟨false, .segmentRouting labelledSegment⟩],
        ⟨12, []⟩) := by decide +kernel
  have reported : (session.read Subobject.scanRro lackingRoute).1 =
      .ok ([.segmentRouting lackingSegment, .segmentRouting labelledSegment], ⟨12, []⟩) := by
    decide +kernel
  exact ⟨(hops_written_unless_lacking session session Registry.assembled_full ..).1 _ explicit,
    (hops_written_unless_lacking session _ Registry.assembled_full ..).2 _ (Prod.ext reported rfl)⟩

theorem not_identified_of_read :
    ¬∀ (registry : Registry) (octets : List UInt8) (route : List EroSubobject) (rest : Slice),
      registry.Assembled → Subobject.readEro registry (.whole octets) = .ok (route, rest) →
      ∀ hop ∈ route, hop.value.Identified := by
  intro identified
  have found : Subobject.readEro .full (.whole [36, 4, 0, 4]) =
      .ok ([⟨false, .segmentRouting lackingSegment⟩], ⟨4, []⟩) := by decide +kernel
  rcases identified _ _ _ _ Registry.assembled_full found _ List.mem_cons_self with sid | nai
  · exact sid rfl
  · exact nai rfl

/-- A route to exclude is as long as the octets that it was read from. An explicit route is shorter by the
octets behind its segments, which are dropped. -/
theorem hops_read_from_spent (registry : Registry) (assembled : registry.Assembled)
    (octets : List UInt8) (rest : Slice) :
    (∀ route, Subobject.readXro registry (.whole octets) = .ok (route, rest) →
      ∃ wire, Subobject.RouteAccount (WireSubobject.ReadsXro registry) octets route rest wire ∧
        List.Forall₂ (fun wire hop => hop.length = wire.octets.length) wire route ∧
        Subobject.xroLength route = octets.length) ∧
    ∀ route, Subobject.readEro registry (.whole octets) = .ok (route, rest) →
      ∃ wire, Subobject.RouteAccount (WireSubobject.ReadsEro registry) octets route rest wire ∧
        List.Forall₂ (WireSubobject.SpentOn registry) wire route ∧
        Subobject.eroLength route + (wire.map WireSubobject.surplus).sum = octets.length ∧
        (Subobject.eroLength route = octets.length ↔ ∀ hop ∈ wire, hop.spent = hop.value.length) := by
  have canonical := assembled.canonical
  constructor
  · intro route found
    obtain ⟨wire, account⟩ := Subobject.exists_routeAccount WireSubobject.xroOfFrame_shown found
    have each := account.read.imp fun _ _ reads => reads.length
    have sum : Subobject.xroLength route + (wire.map fun _ => 0).sum = octets.length := by
      rw [account.parts]
      exact Subobject.sum_of_forall₂ each
    rw [List.map_const', List.sum_replicate_nat] at sum
    exact ⟨wire, account, each, sum⟩
  · intro route found
    obtain ⟨wire, account⟩ := Subobject.exists_routeAccount WireSubobject.eroOfFrame_shown found
    have each := account.read.imp fun _ _ reads => reads.spentOn canonical
    have sum : Subobject.eroLength route + (wire.map WireSubobject.surplus).sum = octets.length := by
      rw [account.parts]
      refine Subobject.sum_of_forall₂ (each.imp fun wire hop spentOn => ?_)
      rw [spentOn.length, wire.length_octets, WireSubobject.surplus, Nat.add_assoc,
        Nat.add_sub_cancel' spentOn.enough]
    -- The lengths lack what the surpluses add up to, so they are whole just if there are none.
    have enough := forall_mem_of_forall₂ each.flip (fun _ _ => trivial) fun spentOn _ => spentOn.enough
    refine ⟨wire, account, each, sum, ?_⟩
    rw [← sum, Nat.left_eq_add, List.sum_eq_zero_iff_forall_eq_nat, List.forall_mem_map]
    refine forall₂_congr fun hop member => ?_
    have := enough hop member
    rw [WireSubobject.surplus]
    omega

/-- A segment with an index, and an IPv4 address behind it that none of its flags announces. -/
def surplusRoute : List UInt8 := [36, 12, 0, 8, 0, 0, 0, 1, 10, 0, 0, 1]

theorem hops_read_from_spent_surplus :
    (∃ wire, Subobject.RouteAccount (WireSubobject.ReadsXro .full) looseRoute
        [⟨true, .ipv4Prefix ⟨.ofOctets [192, 0, 2, 1], 24⟩ .interface⟩] ⟨8, []⟩ wire ∧
      List.Forall₂ (fun wire (hop : XroSubobject) => hop.length = wire.octets.length) wire
        [⟨true, .ipv4Prefix ⟨.ofOctets [192, 0, 2, 1], 24⟩ .interface⟩] ∧
      Subobject.xroLength [⟨true, .ipv4Prefix ⟨.ofOctets [192, 0, 2, 1], 24⟩ .interface⟩] = 8) ∧
    ∃ wire, Subobject.RouteAccount (WireSubobject.ReadsEro .full) surplusRoute
        [⟨false, .segmentRouting ⟨.absent, false, false, some 1, none⟩⟩] ⟨12, []⟩ wire ∧
      List.Forall₂ (WireSubobject.SpentOn .full) wire
        [⟨false, .segmentRouting ⟨.absent, false, false, some 1, none⟩⟩] ∧
      8 + (wire.map WireSubobject.surplus).sum = 12 ∧
      (8 = 12 ↔ ∀ hop ∈ wire, hop.spent = hop.value.length) := by
  have excluded : Subobject.readXro .full (.whole looseRoute) =
      .ok ([⟨true, .ipv4Prefix ⟨.ofOctets [192, 0, 2, 1], 24⟩ .interface⟩], ⟨8, []⟩) := by
    decide +kernel
  have explicit : Subobject.readEro .full (.whole surplusRoute) =
      .ok ([⟨false, .segmentRouting ⟨.absent, false, false, some 1, none⟩⟩], ⟨12, []⟩) := by
    decide +kernel
  exact ⟨(hops_read_from_spent .full Registry.assembled_full ..).1 _ excluded,
    (hops_read_from_spent .full Registry.assembled_full ..).2 _ explicit⟩

theorem not_eroLength_eq_of_read :
    ¬∀ (registry : Registry) (octets : List UInt8) (route : List EroSubobject) (rest : Slice),
      registry.Assembled → Subobject.readEro registry (.whole octets) = .ok (route, rest) →
      Subobject.eroLength route = octets.length := by
  intro exact
  have found : Subobject.readEro .full (.whole surplusRoute) =
      .ok ([⟨false, .segmentRouting ⟨.absent, false, false, some 1, none⟩⟩], ⟨12, []⟩) := by
    decide +kernel
  have wrong : 8 = 12 := exact _ _ _ _ Registry.assembled_full found
  cases wrong

end RouteWire.Pcep
