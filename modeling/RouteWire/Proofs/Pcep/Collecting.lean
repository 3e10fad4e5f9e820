import RouteWire.Proofs.Pcep.TlvSet
/-!
What is read into a set. Reading a set goes through the TLVs as reading a list does, up to the same end or
the same failure; the set keeps the last TLV for each field, and those that it does not carry are recorded.

Main statement: `sets_keep_last`.
-/
namespace RouteWire.Pcep

theorem Scan.elements_eq {η ε α : Type} (framing : Framing η ε) (read : FrameReader η ε (Option α))
    [read.Logs] (registry : Registry) (slice : Slice) :
    elements framing read registry slice =
      if slice.octets.isEmpty then (∅, .ok ([], slice.finish)) else
        match element framing read registry slice with
        | (ignored, .error failure) => (ignored, .error failure)
        | (ignored, .ok (value?, rest)) =>
          match elements framing read registry rest with
          | (later, .error failure) => (ignored ++ later, .error failure)
          | (later, .ok (values, _)) =>
            (ignored ++ later, .ok (value?.toList ++ values, slice.finish)) := by
  simp only [(records_elements framing read).apply, (records_element framing read).apply]
  rw [Framing.cutAll_eq]
  by_cases nothing : slice.octets.isEmpty
  · rw [if_pos nothing, if_pos nothing]
    rfl
  · rw [if_neg nothing, if_neg nothing]
    rcases framing.cut slice with failure | ⟨frame, rest⟩
    · rfl
    · -- All frames are cut before the first is read, which does not show: its failure comes first.
      dsimp only
      rw [collected]
      rcases read registry frame with ⟨ignored, failure | value?⟩
      · rfl
      · dsimp only
        rcases collected (read registry) (framing.cutAll rest).2 (framing.cutAll rest).1 with
          ⟨later, failure | values⟩ <;> rfl

theorem TlvSet.scanInto_eq {τ : Type} (insert : τ → Tlv → Option Tlv × τ) (set : τ)
    (registry : Registry) (slice : Slice) :
    scanInto insert set registry slice =
      if slice.octets.isEmpty then (∅, .ok (set, slice.finish)) else
        match Tlv.scan registry slice with
        | (ignored, .error failure) => (ignored, .error failure)
        | (ignored, .ok (tlv?, rest)) =>
          let (rejected, larger) := tlv?.elim (∅, set) (offered insert set)
          match scanInto insert larger registry rest with
          | (later, .error failure) => (ignored ++ (rejected ++ later), .error failure)
          | (later, .ok (set, _)) => (ignored ++ (rejected ++ later), .ok (set, slice.finish)) := by
  simp only [(records_scanInto insert _).apply]
  rw [Tlv.scan, (Scan.records_element Tlv.framing Tlv.ofFrame).apply, Framing.cutAll_eq]
  by_cases nothing : slice.octets.isEmpty
  · rw [if_pos nothing, if_pos nothing]
    rfl
  · rw [if_neg nothing, if_neg nothing]
    rcases Tlv.framing.cut slice with failure | ⟨frame, rest⟩
    · rfl
    · dsimp only
      rw [filled]
      rcases Tlv.ofFrame registry frame with ⟨ignored, failure | _ | tlv⟩
      · rfl
      · simp only [Option.elim, Ignored.empty_append]
        rcases filled insert registry (Tlv.framing.cutAll rest).2 set (Tlv.framing.cutAll rest).1 with
          ⟨later, failure | larger⟩ <;> rfl
      · dsimp only [Option.elim]
        rcases offered insert set tlv with ⟨rejected, larger⟩
        dsimp only
        rcases filled insert registry (Tlv.framing.cutAll rest).2 larger (Tlv.framing.cutAll rest).1 with
          ⟨later, failure | last⟩ <;> rfl

/-! ## Reading -/

namespace Tlv
variable {registry : Registry} {slice rest : Slice} {ignored : Ignored} {tlvs : List Tlv}
  {stopped : Option (Failure TlvReadError)}

/-- TLVs are read one after another, up to the end of a slice or to the first failure. What is passed
over until then, and which TLVs are decoded. -/
inductive DecodesUntil (registry : Registry) :
    Slice → Ignored → List Tlv → Option (Failure TlvReadError) → Prop
  | finished {slice : Slice} (nothing : slice.octets = []) : DecodesUntil registry slice ∅ [] none
  | stopped {slice : Slice} {ignored : Ignored} {failure : Failure TlvReadError}
      (more : slice.octets ≠ []) (failed : scan registry slice = (ignored, .error failure)) :
      DecodesUntil registry slice ignored [] (some failure)
  | step {slice rest : Slice} {ignored later : Ignored} {tlv? : Option Tlv} {tlvs : List Tlv}
      {stopped : Option (Failure TlvReadError)} (more : slice.octets ≠ [])
      (found : scan registry slice = (ignored, .ok (tlv?, rest)))
      (others : DecodesUntil registry rest later tlvs stopped) :
      DecodesUntil registry slice (ignored ++ later) (tlv?.toList ++ tlvs) stopped

theorem exists_decodesUntil (registry : Registry) (slice : Slice) :
    ∃ ignored tlvs stopped, DecodesUntil registry slice ignored tlvs stopped := by
  induction length : slice.octets.length using Nat.strongRecOn generalizing slice with
  | ind size ih =>
    by_cases nothing : slice.octets = []
    · exact ⟨_, _, _, .finished nothing⟩
    · rcases found : scan registry slice with ⟨ignored, failure | ⟨tlv?, rest⟩⟩
      · exact ⟨_, _, _, .stopped nothing found⟩
      · obtain ⟨frame, cut, -⟩ := Scan.element_ok.mp found
        have shorter : rest.octets.length < size := length ▸ framing.shrinks cut
        obtain ⟨later, tlvs, stopped, others⟩ := ih _ shorter rest rfl
        exact ⟨_, _, _, .step nothing found others⟩

theorem rejectedTlvs_scan (registry : Registry) (slice : Slice) :
    (scan registry slice).1.rejectedTlvs = #[] := by
  rw [scan, (Scan.records_element framing ofFrame).apply]
  rcases framing.cut slice with failure | ⟨frame, rest⟩
  · rfl
  · dsimp only
    rw [records_ofFrame.apply]
    cases registry.tlv? frame.header with
    | none => rfl
    | some kind =>
      dsimp only
      cases (readValue registry kind).inside frame.value <;> rfl

theorem DecodesUntil.rejectedTlvs (decodes : DecodesUntil registry slice ignored tlvs stopped) :
    ignored.rejectedTlvs = #[] := by
  induction decodes with
  | finished _ => rfl
  | @stopped slice _ _ _ failed =>
    have nothing := rejectedTlvs_scan registry slice
    rwa [failed] at nothing
  | @step slice _ _ _ _ _ _ _ found _ ih =>
    have nothing := rejectedTlvs_scan registry slice
    rw [found] at nothing
    exact Array.append_eq_empty_iff.mpr ⟨nothing, ih⟩

def upToEnd {α : Type} (slice : Slice) (stopped : Option (Failure TlvReadError)) (value : α) :
    Except (Failure TlvReadError) (α × Slice) :=
  match stopped with
  | none => .ok (value, slice.finish)
  | some failure => .error failure

theorem DecodesUntil.scanAll_eq (decodes : DecodesUntil registry slice ignored tlvs stopped) :
    scanAll registry slice = (ignored, upToEnd slice stopped tlvs) := by
  induction decodes with
  | finished nothing =>
    rw [scanAll, Scan.elements_eq, nothing]
    rfl
  | stopped more failed =>
    rw [scan] at failed
    rw [scanAll, Scan.elements_eq, if_neg (mt List.isEmpty_iff.mp more), failed]
    rfl
  | @step _ _ _ _ _ _ stopped more found _ ih =>
    rw [scan] at found
    rw [scanAll] at ih ⊢
    rw [Scan.elements_eq, if_neg (mt List.isEmpty_iff.mp more), found]
    dsimp only
    rw [ih]
    cases stopped <;> rfl

end Tlv

namespace TlvSet
open KeepsLast
variable {σ : Type} [TlvSet σ] [KeepsLast σ] {registry : Registry} {slice : Slice}
  {ignored : Ignored} {tlvs : List Tlv} {stopped : Option (Failure TlvReadError)}

def rejected (σ : Type) [TlvSet σ] [KeepsLast σ] (tlvs : List Tlv) : Ignored :=
  { rejectedTlvs := ((tlvs.filter fun tlv => tlv.kind ∉ kinds σ).map Tlv.code).toArray }

theorem rejected_append (first second : List Tlv) :
    rejected σ (first ++ second) = rejected σ first ++ rejected σ second := by
  rw [rejected, List.filter_append, List.map_append]
  simp [rejected, Ignored.append_def, Ignored.append]

theorem rejected_append_comm (tlvs : List Tlv) {ignored : Ignored}
    (nothing : ignored.rejectedTlvs = #[]) :
    rejected σ tlvs ++ ignored = ignored ++ rejected σ tlvs := by
  simp [Ignored.append_def, Ignored.append, rejected, nothing]

theorem offered_ofLast (before : List Tlv) (tlv : Tlv) :
    offered insert (ofLast before : σ) tlv = (rejected σ [tlv], ofLast (before ++ [tlv])) := by
  rw [offered_insert, insert?_ofLast, rejected]
  by_cases carried : tlv.kind ∈ kinds σ
  · rw [if_pos carried, List.filter_cons_of_neg (by simpa using carried)]
    rfl
  · rw [if_neg carried, List.filter_cons_of_pos (by simpa using carried), ofLast_refused before carried]
    rfl

theorem offered_optional (before : List Tlv) (tlv? : Option Tlv) :
    tlv?.elim (∅, (ofLast before : σ)) (offered insert (ofLast before)) =
      (rejected σ tlv?.toList, ofLast (before ++ tlv?.toList)) := by
  cases tlv? with
  | none => rw [Option.toList_none, List.append_nil]; rfl
  | some tlv => exact offered_ofLast before tlv

theorem scanInto_ofLast (decodes : Tlv.DecodesUntil registry slice ignored tlvs stopped)
    (before : List Tlv) :
    scanInto insert (ofLast before : σ) registry slice =
      (ignored ++ rejected σ tlvs, Tlv.upToEnd slice stopped (ofLast (before ++ tlvs))) := by
  induction decodes generalizing before with
  | finished nothing =>
    rw [scanInto_eq, nothing, List.append_nil]
    rfl
  | @stopped _ ignored _ more failed =>
    rw [scanInto_eq, if_neg (mt List.isEmpty_iff.mp more), failed]
    show (ignored, _) = (ignored ++ (∅ : Ignored), _)
    rw [Ignored.append_empty]
    rfl
  | @step _ _ ignored later tlv? tlvs stopped more found others ih =>
    rw [scanInto_eq, if_neg (mt List.isEmpty_iff.mp more), found]
    dsimp only
    rw [offered_optional]
    dsimp only
    have recorded : ignored ++ (rejected σ tlv?.toList ++ (later ++ rejected σ tlvs)) =
        ignored ++ later ++ rejected σ (tlv?.toList ++ tlvs) :=
      calc ignored ++ (rejected σ tlv?.toList ++ (later ++ rejected σ tlvs))
        _ = ignored ++ (later ++ rejected σ tlv?.toList ++ rejected σ tlvs) := by
          rw [← Ignored.append_assoc (rejected σ _), rejected_append_comm _ others.rejectedTlvs]
        _ = ignored ++ later ++ rejected σ (tlv?.toList ++ tlvs) := by
          rw [rejected_append, Ignored.append_assoc, Ignored.append_assoc]
    rw [ih, List.append_assoc, ← recorded]
    cases stopped <;> rfl

/-! ## The statement -/

structure Collects (σ : Type) [TlvSet σ] [KeepsLast σ] : Prop where
  refused : ∀ (set : σ) (tlv : Tlv), insert? set tlv = none ↔ tlv.kind ∉ kinds σ
  inserted : ∀ tlvs : List Tlv, insertAll (empty : σ) tlvs =
    (ofLast tlvs, tlvs.filter fun tlv => tlv.kind ∉ kinds σ)
  /-- Reading a set is reading a list, up to the end or to the first failure, and inserting what was
  decoded until then. -/
  read : ∀ (registry : Registry) (slice : Slice), ∃ ignored tlvs stopped,
    Tlv.DecodesUntil registry slice ignored tlvs stopped ∧
      Tlv.scanAll registry slice = (ignored, Tlv.upToEnd slice stopped tlvs) ∧
        (scan : Scan TlvReadError σ) registry slice =
          ({ ignored with rejectedTlvs := ((insertAll (empty : σ) tlvs).2.map Tlv.code).toArray },
            Tlv.upToEnd slice stopped (insertAll (empty : σ) tlvs).1)

theorem collects (σ : Type) [TlvSet σ] [LawfulTlvSet σ] [KeepsLast σ] : Collects σ := by
  have inserted (tlvs : List Tlv) : insertAll (empty : σ) tlvs =
      (ofLast tlvs, tlvs.filter fun tlv => tlv.kind ∉ kinds σ) := by
    rw [← ofLast_nil, insertAll_ofLast, List.nil_append]
  refine ⟨insert?_eq_none_iff, inserted, fun registry slice => ?_⟩
  obtain ⟨ignored, tlvs, stopped, decodes⟩ := Tlv.exists_decodesUntil registry slice
  refine ⟨ignored, tlvs, stopped, decodes, decodes.scanAll_eq, ?_⟩
  rw [scan_eq_scanInto, ← ofLast_nil, scanInto_ofLast decodes, List.nil_append, ofLast_nil, inserted]
  simp [Ignored.append_def, Ignored.append, rejected, decodes.rejectedTlvs]

theorem sets_keep_last :
    Collects OpeningTlvs ∧ Collects RequestParametersTlvs ∧ Collects NoPathTlvs ∧
      Collects NotificationTlvs ∧ Collects ErrorTlvs ∧ Collects LspTlvs ∧ Collects SrpTlvs ∧
        Collects VendorTlvs :=
  ⟨collects _, collects _, collects _, collects _, collects _, collects _, collects _, collects _⟩

/-- The later identifiers stand, though they are of the other family. -/
example :
    insertAll (empty : LspTlvs) [.ipv6LspIdentifiers ⟨⟨1⟩, 2, 3, ⟨4⟩, ⟨5⟩⟩, .order 6 7,
        .ipv4LspIdentifiers ⟨⟨1⟩, 2, 3, ⟨4⟩, ⟨5⟩⟩] =
      ({ lspIdentifiers := some (.ipv4 ⟨⟨1⟩, 2, 3, ⟨4⟩, ⟨5⟩⟩) }, [.order 6 7]) := rfl

end TlvSet
end RouteWire.Pcep
