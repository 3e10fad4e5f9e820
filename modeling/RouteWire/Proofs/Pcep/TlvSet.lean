import Mathlib.Algebra.Order.BigOperators.Group.List
import Mathlib.Algebra.Order.Group.Nat
import Mathlib.Data.List.Perm.Subperm
import RouteWire.Proofs.Pcep.Tlv.Value
/-!
TLV sets, written and read. A TLV of a kind that a set carries takes the place of the one that was in its
field, and information of enterprises goes behind what there is; so a set that was given a list of TLVs
has the last one in each field. The list of its TLVs gives a set back, so a set that is written is read
back, without the TLVs whose codes are not registered. What a set keeps of the TLVs that it is given are
some of these TLVs, each at most once.

Main statements: `insertAll_ofLast`, `scan_script`, `set_of_scan`.
-/
namespace RouteWire.Pcep
open Framing

/-! ## Fields -/

section
variable {α β : Type}

theorem filterMap_optional (field : Tlv → Option β) (tlv : α → Tlv) (value? : Option α) :
    (value?.map tlv).toList.filterMap field = (value?.bind fun value => field (tlv value)).toList := by
  cases value? with
  | none => rfl
  | some value => cases found : field (tlv value) <;> simp [found]

def lastIn (field : Tlv → Option α) (tlvs : List Tlv) : Option α :=
  (tlvs.filterMap field).getLast?

@[simp] theorem lastIn_append (field : Tlv → Option α) (first second : List Tlv) :
    lastIn field (first ++ second) = (lastIn field second).or (lastIn field first) := by
  rw [lastIn, List.filterMap_append, List.getLast?_append]
  rfl

@[simp] theorem lastIn_cons (field : Tlv → Option α) (tlv : Tlv) (tlvs : List Tlv) :
    lastIn field (tlv :: tlvs) = (lastIn field tlvs).or (field tlv) := by
  have first : lastIn field [tlv] = field tlv := by
    cases found : field tlv <;> simp [lastIn, found]
  rw [← first, ← lastIn_append]
  rfl

@[simp] theorem lastIn_optional (field : Tlv → Option β) (tlv : α → Tlv) (value? : Option α) :
    lastIn field (value?.map tlv).toList = value?.bind fun value => field (tlv value) := by
  rw [lastIn, filterMap_optional]
  cases value?.bind fun value => field (tlv value) <;> rfl

@[simp] theorem lastIn_vendors {field : Tlv → Option α} {information : List VendorInformation}
    (other : ∀ vendor, field (.vendorInformation vendor) = none) :
    lastIn field (information.map Tlv.vendorInformation) = none := by
  simp [lastIn, other]

end

@[simp] def Tlv.information : Tlv → Option VendorInformation
  | vendorInformation information => some information
  | _ => none

def allInformation (tlvs : List Tlv) : List VendorInformation := tlvs.filterMap Tlv.information

@[simp] theorem allInformation_nil : allInformation [] = [] := rfl

@[simp] theorem allInformation_append (first second : List Tlv) :
    allInformation (first ++ second) = allInformation first ++ allInformation second :=
  List.filterMap_append

@[simp] theorem allInformation_cons (tlv : Tlv) (tlvs : List Tlv) :
    allInformation (tlv :: tlvs) = tlv.information.toList ++ allInformation tlvs := by
  rw [allInformation, allInformation, List.filterMap_cons]
  cases tlv.information <;> rfl

@[simp] theorem allInformation_optional {α : Type} (tlv : α → Tlv) (value? : Option α) :
    allInformation (value?.map tlv).toList = (value?.bind fun value => (tlv value).information).toList :=
  filterMap_optional ..

@[simp] theorem allInformation_vendors (information : List VendorInformation) :
    allInformation (information.map Tlv.vendorInformation) = information := by
  rw [allInformation, List.filterMap_map]
  exact List.filterMap_some

/-- A type of sets that carry TLVs of some kinds, and keep the last one in each field. -/
class KeepsLast (σ : Type) [TlvSet σ] where
  kinds : List TlvKind
  /-- The set that has in each field the last TLV of a list that belongs there, and all information of
  enterprises. -/
  ofLast : List Tlv → σ
  -- The laws go through the kinds of TLVs or through the fields, in the same way for all types of sets.
  ofLast_nil : ofLast [] = TlvSet.empty := by rfl
  ofLast_concat : ∀ (tlvs : List Tlv) (tlv : Tlv),
      ofLast (tlvs ++ [tlv]) = (TlvSet.insert? (ofLast tlvs) tlv).getD (ofLast tlvs) := by
    intro tlvs tlv
    cases tlv <;>
      simp only [lastIn_append, lastIn_cons, allInformation_append, allInformation_cons,
        allInformation_nil, Tlv.information, Option.toList_none, List.nil_append, List.append_nil] <;>
      rfl
  ofLast_toList : ∀ set : σ, ofLast (TlvSet.toList set) = set := by
    rintro ⟨⟩
    simp [TlvSet.toList]
  insert?_eq_none_iff : ∀ (set : σ) (tlv : Tlv),
      TlvSet.insert? set tlv = none ↔ tlv.kind ∉ kinds := by
    intro set tlv
    cases tlv <;> simp [TlvSet.insert?, TlvSet.put?, Tlv.kind]
  kind_mem : ∀ set : σ, ∀ tlv ∈ TlvSet.toList set, tlv.kind ∈ kinds := by
    intro set
    simp [TlvSet.toList, or_imp, forall_and, Tlv.kind]

namespace KeepsLast
open TlvSet

instance : KeepsLast OpeningTlvs where
  kinds := [.objectiveFunctionList, .statefulPceCapability, .lspDbVersion, .speakerEntityId,
    .associationTypeList, .associationRanges, .pathSetupTypeCapability, .vendorInformation]
  ofLast tlvs :=
    { objectiveFunctionList := lastIn (fun | .objectiveFunctionList codes => some codes | _ => none) tlvs
      statefulCapability :=
        lastIn (fun | .statefulPceCapability capability => some capability | _ => none) tlvs
      lspDbVersion := lastIn (fun | .lspDbVersion version => some version | _ => none) tlvs
      speakerEntityId := lastIn (fun | .speakerEntityId id => some id | _ => none) tlvs
      associationTypeList := lastIn (fun | .associationTypeList types => some types | _ => none) tlvs
      associationRanges := lastIn (fun | .associationRanges ranges => some ranges | _ => none) tlvs
      pathSetupTypeCapability :=
        lastIn (fun | .pathSetupTypeCapability capability => some capability | _ => none) tlvs
      vendorInformation := allInformation tlvs }

instance : KeepsLast RequestParametersTlvs where
  kinds := [.order, .pathSetupType, .vendorInformation]
  ofLast tlvs :=
    { order := lastIn (fun | .order delete setup => some ⟨delete, setup⟩ | _ => none) tlvs
      pathSetupType := lastIn (fun | .pathSetupType type => some type | _ => none) tlvs
      vendorInformation := allInformation tlvs }
  ofLast_toList := by
    rintro ⟨_ | order, _, _⟩ <;> simp [TlvSet.toList]

instance : KeepsLast NoPathTlvs where
  kinds := [.noPathVector, .vendorInformation]
  ofLast tlvs :=
    { noPathVector := lastIn (fun | .noPathVector vector => some vector | _ => none) tlvs
      vendorInformation := allInformation tlvs }

instance : KeepsLast NotificationTlvs where
  kinds := [.overloadDuration, .vendorInformation]
  ofLast tlvs :=
    { overloadDuration := lastIn (fun | .overloadDuration seconds => some seconds | _ => none) tlvs
      vendorInformation := allInformation tlvs }

instance : KeepsLast ErrorTlvs where
  kinds := [.requestMissing, .vendorInformation]
  ofLast tlvs :=
    { requestMissing := lastIn (fun | .requestMissing requestId => some requestId | _ => none) tlvs
      vendorInformation := allInformation tlvs }

instance : KeepsLast LspTlvs where
  kinds := [.ipv4LspIdentifiers, .ipv6LspIdentifiers, .symbolicPathName, .lspErrorCode,
    .rsvpErrorSpec, .lspDbVersion, .pathBinding, .vendorInformation]
  ofLast tlvs :=
    { -- The one field that TLVs of two kinds share.
      lspIdentifiers := lastIn (fun
        | .ipv4LspIdentifiers identifiers => some (.ipv4 identifiers)
        | .ipv6LspIdentifiers identifiers => some (.ipv6 identifiers)
        | _ => none) tlvs
      symbolicPathName := lastIn (fun | .symbolicPathName name => some name | _ => none) tlvs
      lspErrorCode := lastIn (fun | .lspErrorCode code => some code | _ => none) tlvs
      rsvpErrorSpec := lastIn (fun | .rsvpErrorSpec spec => some spec | _ => none) tlvs
      lspDbVersion := lastIn (fun | .lspDbVersion version => some version | _ => none) tlvs
      pathBinding := lastIn (fun | .pathBinding binding => some binding | _ => none) tlvs
      vendorInformation := allInformation tlvs }
  ofLast_toList := by
    rintro ⟨_ | identifiers | identifiers, _, _, _, _, _, _⟩ <;>
      simp [TlvSet.toList, AnyLspIdentifiers.toTlv]
  kind_mem := by
    rintro ⟨_ | identifiers | identifiers, _, _, _, _, _, _⟩ <;>
      simp [TlvSet.toList, AnyLspIdentifiers.toTlv, or_imp, forall_and, Tlv.kind]

instance : KeepsLast SrpTlvs where
  kinds := [.symbolicPathName, .pathSetupType, .vendorInformation]
  ofLast tlvs :=
    { symbolicPathName := lastIn (fun | .symbolicPathName name => some name | _ => none) tlvs
      pathSetupType := lastIn (fun | .pathSetupType type => some type | _ => none) tlvs
      vendorInformation := allInformation tlvs }

instance : KeepsLast VendorTlvs where
  kinds := [.vendorInformation]
  ofLast tlvs := { vendorInformation := allInformation tlvs }

end KeepsLast

/-! ## Inserting -/

namespace TlvSet
open KeepsLast
variable {σ : Type} [TlvSet σ]

/-- Inserts TLVs one after another, and gives back those that the set does not take. -/
def insertAll (set : σ) : List Tlv → σ × List Tlv
  | [] => (set, [])
  | tlv :: tlvs =>
    match insert? set tlv with
    | some larger => insertAll larger tlvs
    | none => ((insertAll set tlvs).1, tlv :: (insertAll set tlvs).2)

variable [KeepsLast σ]

theorem ofLast_refused (before : List Tlv) {tlv : Tlv} (other : tlv.kind ∉ kinds σ) :
    (ofLast (before ++ [tlv]) : σ) = ofLast before := by
  rw [ofLast_concat, (insert?_eq_none_iff _ tlv).mpr other]
  rfl

theorem insert?_ofLast (before : List Tlv) (tlv : Tlv) : insert? (ofLast before : σ) tlv =
    if tlv.kind ∈ kinds σ then some (ofLast (before ++ [tlv])) else none := by
  rw [ofLast_concat]
  have refused := insert?_eq_none_iff (ofLast before : σ) tlv
  cases inserted : insert? (ofLast before : σ) tlv with
  | none => rw [if_neg (refused.mp inserted)]
  | some larger =>
    rw [inserted] at refused
    by_cases carried : tlv.kind ∈ kinds σ
    · rw [if_pos carried]
      rfl
    · cases refused.mpr carried

theorem insertAll_ofLast (before tlvs : List Tlv) :
    insertAll (ofLast before : σ) tlvs =
      (ofLast (before ++ tlvs), tlvs.filter fun tlv => tlv.kind ∉ kinds σ) := by
  induction tlvs generalizing before with
  | nil => rw [List.append_nil]; rfl
  | cons tlv tlvs ih =>
    rw [insertAll, insert?_ofLast]
    by_cases carried : tlv.kind ∈ kinds σ
    · rw [if_pos carried, List.filter_cons_of_neg (by simpa using carried)]
      dsimp only
      rw [ih, List.append_assoc]
      rfl
    · rw [if_neg carried, List.filter_cons_of_pos (by simpa using carried)]
      dsimp only
      rw [← ofLast_refused before carried, ih, List.append_assoc]
      rfl

theorem insertAll_toList (set : σ) : insertAll empty (toList set) = (set, []) := by
  rw [← ofLast_nil, insertAll_ofLast, List.nil_append, ofLast_toList]
  exact congrArg (Prod.mk set) (List.filter_eq_nil_iff.mpr fun tlv member => by
    simpa using kind_mem set tlv member)

theorem toList_injective {first second : σ} (same : toList first = toList second) : first = second := by
  rw [← ofLast_toList first, same, ofLast_toList]

end TlvSet

/-! ## Some of the TLVs -/

namespace TlvSet

theorem subperm_append {tlv : Tlv} {smaller larger : List Tlv}
    (subperm : smaller.Subperm (tlv :: larger)) (others : List Tlv) :
    (others ++ smaller).Subperm (tlv :: (others ++ larger)) :=
  ((List.subperm_append_left others).mpr subperm).trans List.perm_middle.subperm

theorem subperm_replaced (tlv : Tlv) (old others : List Tlv) :
    ([tlv] ++ others).Subperm (tlv :: (old ++ others)) :=
  ((List.sublist_append_right old others).cons_cons tlv).subperm

theorem filter_optional {α : Type} (keep : Tlv → Bool) (tlv : α → Tlv) (value? : Option α) :
    (value?.map tlv).toList.filter keep =
      ((value?.filter fun value => keep (tlv value)).map tlv).toList := by
  cases value? with
  | none => rfl
  | some value =>
    rw [Option.map_some, Option.toList_some, Option.filter_some]
    cases kept : keep (tlv value) <;> simp [kept]

end TlvSet

class SelectiveTlvSet (σ : Type) [TlvSet σ] extends KeepsLast σ where
  select : (Tlv → Bool) → σ → σ
  toList_select : ∀ (keep : Tlv → Bool) (set : σ),
      TlvSet.toList (select keep set) = (TlvSet.toList set).filter keep := by
    intro keep set
    simp only [TlvSet.toList, List.filter_append, TlvSet.filter_optional, List.filter_map] <;> rfl
  toList_empty : TlvSet.toList (TlvSet.empty : σ) = [] := by rfl
  toList_addVendors : ∀ (set : σ) (information : List VendorInformation),
      TlvSet.toList (TlvSet.addVendors set information) =
        TlvSet.toList set ++ information.map Tlv.vendorInformation := by
    intro set information
    simp only [TlvSet.toList, TlvSet.addVendors, List.map_append, List.append_assoc]
  put?_subperm : ∀ {set larger : σ} {tlv : Tlv}, TlvSet.put? set tlv = some larger →
      (TlvSet.toList larger).Subperm (tlv :: TlvSet.toList set) := by
    intro set larger tlv found
    cases tlv <;> cases found <;> simp only [TlvSet.toList, List.append_assoc]
    -- The fields in front of the one that is replaced are the same in both.
    all_goals repeat first
      | exact TlvSet.subperm_replaced ..
      | refine TlvSet.subperm_append ?_ _

namespace SelectiveTlvSet

instance : SelectiveTlvSet OpeningTlvs where
  select keep set :=
    { objectiveFunctionList := set.objectiveFunctionList.filter (keep ∘ .objectiveFunctionList)
      statefulCapability := set.statefulCapability.filter (keep ∘ .statefulPceCapability)
      lspDbVersion := set.lspDbVersion.filter (keep ∘ .lspDbVersion)
      speakerEntityId := set.speakerEntityId.filter (keep ∘ .speakerEntityId)
      associationTypeList := set.associationTypeList.filter (keep ∘ .associationTypeList)
      associationRanges := set.associationRanges.filter (keep ∘ .associationRanges)
      pathSetupTypeCapability := set.pathSetupTypeCapability.filter (keep ∘ .pathSetupTypeCapability)
      vendorInformation := set.vendorInformation.filter (keep ∘ .vendorInformation) }

instance : SelectiveTlvSet RequestParametersTlvs where
  select keep set :=
    { order := set.order.filter fun order => keep (.order order.delete order.setup)
      pathSetupType := set.pathSetupType.filter (keep ∘ .pathSetupType)
      vendorInformation := set.vendorInformation.filter (keep ∘ .vendorInformation) }

instance : SelectiveTlvSet NoPathTlvs where
  select keep set :=
    { noPathVector := set.noPathVector.filter (keep ∘ .noPathVector)
      vendorInformation := set.vendorInformation.filter (keep ∘ .vendorInformation) }

instance : SelectiveTlvSet NotificationTlvs where
  select keep set :=
    { overloadDuration := set.overloadDuration.filter (keep ∘ .overloadDuration)
      vendorInformation := set.vendorInformation.filter (keep ∘ .vendorInformation) }

instance : SelectiveTlvSet ErrorTlvs where
  select keep set :=
    { requestMissing := set.requestMissing.filter (keep ∘ .requestMissing)
      vendorInformation := set.vendorInformation.filter (keep ∘ .vendorInformation) }

instance : SelectiveTlvSet LspTlvs where
  select keep set :=
    { lspIdentifiers := set.lspIdentifiers.filter (keep ∘ AnyLspIdentifiers.toTlv)
      symbolicPathName := set.symbolicPathName.filter (keep ∘ .symbolicPathName)
      lspErrorCode := set.lspErrorCode.filter (keep ∘ .lspErrorCode)
      rsvpErrorSpec := set.rsvpErrorSpec.filter (keep ∘ .rsvpErrorSpec)
      lspDbVersion := set.lspDbVersion.filter (keep ∘ .lspDbVersion)
      pathBinding := set.pathBinding.filter (keep ∘ .pathBinding)
      vendorInformation := set.vendorInformation.filter (keep ∘ .vendorInformation) }

instance : SelectiveTlvSet SrpTlvs where
  select keep set :=
    { symbolicPathName := set.symbolicPathName.filter (keep ∘ .symbolicPathName)
      pathSetupType := set.pathSetupType.filter (keep ∘ .pathSetupType)
      vendorInformation := set.vendorInformation.filter (keep ∘ .vendorInformation) }

instance : SelectiveTlvSet VendorTlvs where
  select keep set :=
    { vendorInformation := set.vendorInformation.filter (keep ∘ .vendorInformation) }

end SelectiveTlvSet

/-! ## Reading and writing -/

namespace TlvSet
section Scans
variable {σ : Type} [TlvSet σ] {registry : Registry} {slice rest : Slice} {set : σ}

theorem offered_insert (set : σ) (tlv : Tlv) :
    offered insert set tlv =
      match insert? set tlv with
      | some larger => (∅, larger)
      | none => (.of (.rejectedTlv tlv.code), set) := by
  rw [offered, insert]
  cases insert? set tlv <;> rfl

theorem filled_of_kept {frames : List (Frame UInt16)} {ignored : Ignored} {tlvs : List Tlv}
    (kept : Scan.Kept (Tlv.ofFrame registry) frames ignored tlvs) (set : σ) :
    ∃ total, filled insert registry none set frames = (total, .ok (insertAll set tlvs).1) ∧
      (ignored = ∅ → (insertAll set tlvs).2 = [] → total = ∅) := by
  induction kept generalizing set with
  | nil => exact ⟨∅, rfl, fun _ _ => rfl⟩
  | @cons frame frames ignored later value? tlvs answer _ ih =>
    rw [filled, answer]
    cases value? with
    | none =>
      obtain ⟨total, found, nothing⟩ := ih set
      dsimp only
      rw [found]
      refine ⟨_, rfl, fun clean taken => ?_⟩
      obtain ⟨rfl, rfl⟩ := Ignored.append_eq_empty_iff.mp clean
      rw [nothing rfl taken, Ignored.empty_append]
    | some tlv =>
      dsimp only [Option.toList, List.singleton_append]
      rw [offered_insert, insertAll]
      cases insert? set tlv with
      | none =>
        obtain ⟨total, found, -⟩ := ih set
        dsimp only
        rw [found]
        exact ⟨_, rfl, fun _ taken => absurd taken (List.cons_ne_nil _ _)⟩
      | some larger =>
        obtain ⟨total, found, nothing⟩ := ih larger
        dsimp only
        rw [found]
        refine ⟨_, rfl, fun clean taken => ?_⟩
        obtain ⟨rfl, rfl⟩ := Ignored.append_eq_empty_iff.mp clean
        rw [nothing rfl taken, Ignored.empty_append, Ignored.empty_append]

theorem kept_of_filled {frames : List (Frame UInt16)} {ignored : Ignored}
    {stopped : Option (Failure TlvReadError)} {result : σ}
    (found : filled insert registry stopped set frames = (ignored, .ok result)) :
    ∃ passed tlvs, stopped = none ∧ Scan.Kept (Tlv.ofFrame registry) frames passed tlvs ∧
      result = (insertAll set tlvs).1 := by
  induction frames generalizing set ignored with
  | nil =>
    cases stopped with
    | none =>
      cases found
      exact ⟨∅, [], rfl, .nil, rfl⟩
    | some failure => cases found
  | cons frame frames ih =>
    rw [filled] at found
    split at found
    · cases found
    · next first answer =>
      rw [Prod.mk.injEq] at found
      obtain ⟨passed, tlvs, whole, kept, result_eq⟩ := ih (Prod.ext rfl found.2)
      exact ⟨_, _, whole, .cons answer kept, result_eq⟩
    · next first tlv answer =>
      rw [offered_insert] at found
      cases inserted : insert? set tlv with
      | none =>
        rw [inserted, Prod.mk.injEq] at found
        obtain ⟨passed, tlvs, whole, kept, rfl⟩ := ih (Prod.ext rfl found.2)
        refine ⟨_, _, whole, .cons answer kept, ?_⟩
        rw [Option.toList_some, List.singleton_append, insertAll, inserted]
      | some larger =>
        rw [inserted, Prod.mk.injEq] at found
        obtain ⟨passed, tlvs, whole, kept, rfl⟩ := ih (Prod.ext rfl found.2)
        refine ⟨_, _, whole, .cons answer kept, ?_⟩
        rw [Option.toList_some, List.singleton_append, insertAll, inserted]

theorem scan_of_scanAll [LawfulTlvSet σ] {tlvs : List Tlv}
    (found : Tlv.scanAll registry slice = (∅, .ok (tlvs, rest)))
    (taken : insertAll empty tlvs = (set, [])) :
    TlvSet.scan registry slice = (∅, .ok (set, rest)) := by
  obtain ⟨⟨frames, tiles, kept⟩, rfl⟩ := Scan.elements_ok.mp found
  obtain ⟨total, filled, nothing⟩ := filled_of_kept kept (empty : σ)
  rw [taken] at filled nothing
  rw [nothing rfl rfl] at filled
  rw [scan_eq_scanInto, (records_scanInto insert empty).apply, tiles.cutAll]
  dsimp only
  rw [filled]

theorem scanAll_of_scan [LawfulTlvSet σ] {ignored : Ignored}
    (found : TlvSet.scan registry slice = (ignored, .ok (set, rest))) :
    ∃ passed tlvs, Tlv.scanAll registry slice = (passed, .ok (tlvs, rest)) ∧
      set = (insertAll empty tlvs).1 := by
  rw [scan_eq_scanInto, (records_scanInto insert empty).apply] at found
  split at found
  · cases found
  · next filled =>
    cases found
    obtain ⟨passed, tlvs, stopped, kept, result⟩ := kept_of_filled filled
    exact ⟨passed, tlvs,
      Scan.elements_ok.mpr ⟨⟨_, tiles_of_cutAll (Prod.ext rfl stopped), kept⟩, rfl⟩, result⟩

section
variable [SelectiveTlvSet σ]

theorem insert?_subperm {set larger : σ} {tlv : Tlv} (inserted : insert? set tlv = some larger) :
    (toList larger).Subperm (tlv :: toList set) := by
  cases tlv with
  | vendorInformation information =>
    cases inserted
    rw [SelectiveTlvSet.toList_addVendors]
    exact (List.perm_append_singleton _ _).subperm
  | _ => exact SelectiveTlvSet.put?_subperm inserted

theorem insertAll_subperm (set : σ) (tlvs : List Tlv) :
    (toList (insertAll set tlvs).1).Subperm (tlvs ++ toList set) := by
  induction tlvs generalizing set with
  | nil => exact List.Subperm.refl _
  | cons tlv tlvs ih =>
    rw [insertAll]
    cases inserted : insert? set tlv with
    | none => exact (ih set).trans (List.sublist_cons_self tlv _).subperm
    | some larger =>
      have first := (List.subperm_append_left tlvs).mpr (insert?_subperm inserted)
      exact (ih larger).trans (first.trans List.perm_middle.subperm)

end

variable [LawfulTlvSet σ] [SelectiveTlvSet σ]

theorem scan_script (canonical : registry.Canonical) {octets : List UInt8} {offset : Nat}
    (readable : ∀ tlv ∈ toList set, tlv.Readable registry)
    (written : (script registry set).toExcept = .ok octets) :
    TlvSet.scan registry ⟨offset, octets⟩ =
      (∅, .ok (SelectiveTlvSet.select (Tlv.isRegistered registry) set,
        ⟨offset + octets.length, []⟩)) := by
  refine scan_of_scanAll (Tlv.scanAll_script canonical readable written) ?_
  rw [← SelectiveTlvSet.toList_select]
  exact insertAll_toList _

theorem set_of_scan (canonical : registry.Canonical) {ignored : Ignored}
    (short : padded slice.octets.length ≤ 65535)
    (found : TlvSet.scan registry slice = (ignored, .ok (set, rest))) :
    (∀ tlv ∈ toList set, tlv.Readable registry) ∧
      SelectiveTlvSet.select (Tlv.isRegistered registry) set = set ∧
      (script registry set).failure = none ∧ length registry set ≤ padded slice.octets.length := by
  obtain ⟨passed, tlvs, scanned, rfl⟩ := scanAll_of_scan found
  obtain ⟨sound, sum⟩ := Tlv.tlvs_of_scan canonical short scanned
  -- A set keeps each TLV at most once, so all of them together are not longer than what was read.
  have subperm := insertAll_subperm (empty : σ) tlvs
  rw [SelectiveTlvSet.toList_empty, List.append_nil] at subperm
  have kept := fun tlv member => sound tlv (subperm.subset member)
  refine ⟨fun tlv member => (kept tlv member).1, toList_injective ?_, ?_, ?_⟩
  · rw [SelectiveTlvSet.toList_select, List.filter_eq_self]
    exact fun tlv member => (kept tlv member).2.1
  · exact (Script.toExcept_ok.mp
      (Script.concat_map_ok.mpr ⟨fun tlv member => (kept tlv member).2.2, rfl⟩)).1
  · obtain ⟨middle, perm, sublist⟩ := subperm
    calc length registry _
      _ = (middle.map (Tlv.length registry)).sum := (perm.map _).sum_nat.symm
      _ ≤ Tlv.totalLength registry tlvs := (sublist.map _).sum_le_sum fun _ _ => Nat.zero_le _
      _ ≤ padded slice.octets.length := sum

end Scans

end TlvSet
end RouteWire.Pcep
