import Mathlib.Data.List.Induction
import Mathlib.Data.List.Nodup
import Mathlib.Data.Option.Basic
import RouteWire.AddressFamily.Registry
/-!
Registries of address families after any history of registrations. The two tables of a registry stay
each other's inverse, and a pair of codes and type is in them for as long as nothing else is registered
for its codes or for its type.

Main statements: `typeOf?_register` and `codesOf?_register` for one registration, `typeOf?_build` for
all of them, and `build_bijective`.
-/
namespace RouteWire

theorem AddressType.mem_all (type : AddressType) : type ∈ all := by
  cases type <;> decide

theorem AddressType.nodup_all : all.Nodup := by decide

namespace FamilyRegistry

/-- A call that registers a type, under codes that are given with it or under those it is assigned. -/
inductive Registration where
  | given (codes : FamilyCodes) (type : AddressType)
  | assigned (type : AddressType)

namespace Registration

def type : Registration → AddressType
  | given _ type | assigned type => type

def codes : Registration → FamilyCodes
  | given codes _ => codes
  | assigned type => type.codes

def apply (registry : FamilyRegistry) : Registration → FamilyRegistry
  | given codes type => registry.register codes type
  | assigned type => registry.registerAssigned type

theorem apply_eq (registry : FamilyRegistry) (call : Registration) :
    call.apply registry = registry.register call.codes call.type := by
  cases call <;> rfl

def Replaces (call : Registration) (codes : FamilyCodes) (type : AddressType) : Prop :=
  (call.codes = codes ∧ call.type ≠ type) ∨ (call.codes ≠ codes ∧ call.type = type)

end Registration

variable {registry : FamilyRegistry} {codes place : FamilyCodes} {type other : AddressType}

def Inverse (registry : FamilyRegistry) : Prop :=
  ∀ codes type, registry.typeOf? codes = some type ↔ registry.codesOf? type = some codes

theorem Inverse.empty : Inverse .empty := by
  intro codes type
  constructor <;> intro found <;> cases found

/-! ## One registration -/

theorem get?_forgetTypeOf (inverse : registry.Inverse) :
    (registry.forgetTypeOf codes).get? other = some place ↔
      codes ≠ place ∧ registry.codesOf? other = some place := by
  rw [forgetTypeOf]
  cases held : registry.typeOf? codes with
  | none =>
    refine ⟨fun found => ⟨?_, found⟩, And.right⟩
    rintro rfl
    rw [(inverse codes other).mpr found] at held
    cases held
  | some old =>
    have back := (inverse codes old).mp held
    dsimp only
    rw [Table.get?_erase]
    by_cases same : other = old
    · rw [if_pos same, same, back]
      constructor
      · intro found
        cases found
      · rintro ⟨differs, found⟩
        exact absurd (Option.some.inj found) differs
    · rw [if_neg same]
      refine ⟨fun found => ⟨?_, found⟩, And.right⟩
      rintro rfl
      have again := (inverse codes other).mpr found
      exact same (Option.some.inj (again.symm.trans held))

theorem codesOf?_register (inverse : registry.Inverse) :
    (registry.register codes type).codesOf? other = some place ↔
      (codes = place ∧ type = other) ∨
        (codes ≠ place ∧ type ≠ other ∧ registry.codesOf? other = some place) := by
  change ((registry.forgetTypeOf codes).insert type codes).get? other = some place ↔ _
  rw [Table.get?_insert]
  by_cases same : type = other
  · simp [same]
  · have others : ¬other = type := fun h => same h.symm
    simp only [same, others, if_false, get?_forgetTypeOf inverse, and_false, false_or,
      not_false_eq_true, ne_eq, true_and]

theorem types_register_of_none (held : (registry.forgetTypeOf codes).get? type = none) :
    (registry.register codes type).types = registry.types.insert codes type := by
  rw [register]
  dsimp only
  rw [held]

theorem types_register_of_some (held : (registry.forgetTypeOf codes).get? type = some place)
    (away : place ≠ codes) :
    (registry.register codes type).types = (registry.types.insert codes type).erase place := by
  rw [register]
  dsimp only
  rw [held]
  exact if_neg away

theorem typeOf?_register (inverse : registry.Inverse) :
    (registry.register codes type).typeOf? place = some other ↔
      (codes = place ∧ type = other) ∨
        (codes ≠ place ∧ type ≠ other ∧ registry.typeOf? place = some other) := by
  have here : (registry.types.insert codes type).get? place =
      if place = codes then some type else registry.typeOf? place := Table.get?_insert ..
  rw [typeOf?]
  cases held : (registry.forgetTypeOf codes).get? type with
  | none =>
    -- The type had no codes but perhaps these, so it is not found under any others.
    have nowhere : codes ≠ place → registry.typeOf? place ≠ some type := by
      intro differs found
      have back := (inverse place type).mp found
      rw [(get?_forgetTypeOf inverse).mpr ⟨differs, back⟩] at held
      cases held
    rw [types_register_of_none held, here]
    by_cases same : codes = place
    · simp [same]
    · have others : ¬place = codes := fun h => same h.symm
      simp only [same, others, if_false, false_and, false_or, ne_eq, not_false_eq_true, true_and]
      refine ⟨fun found => ⟨?_, found⟩, And.right⟩
      rintro rfl
      exact nowhere same found
  | some old =>
    obtain ⟨differs, back⟩ := (get?_forgetTypeOf inverse).mp held
    rw [types_register_of_some held differs.symm, Table.get?_erase, here]
    by_cases gone : place = old
    · subst gone
      have found := (inverse place type).mpr back
      simp [differs, found]
    · rw [if_neg gone]
      by_cases same : codes = place
      · simp [same]
      · have others : ¬place = codes := fun h => same h.symm
        simp only [same, others, if_false, false_and, false_or, ne_eq, not_false_eq_true, true_and]
        refine ⟨fun found => ⟨?_, found⟩, And.right⟩
        rintro rfl
        have again := (inverse place type).mp found
        exact gone (Option.some.inj (again.symm.trans back))

theorem Inverse.register (inverse : registry.Inverse) (codes : FamilyCodes) (type : AddressType) :
    (registry.register codes type).Inverse := by
  intro place other
  rw [typeOf?_register inverse, codesOf?_register inverse, inverse place other]

/-! ## Any number of them -/

def build (calls : List Registration) : FamilyRegistry :=
  calls.foldl (fun registry call => call.apply registry) empty

theorem build_concat (calls : List Registration) (call : Registration) :
    build (calls ++ [call]) = (build calls).register call.codes call.type := by
  rw [build, List.foldl_append, List.foldl_cons, List.foldl_nil, call.apply_eq]
  rfl

theorem inverse_build (calls : List Registration) : (build calls).Inverse := by
  induction calls using List.reverseRecOn with
  | nil => exact .empty
  | append_singleton calls call ih =>
    rw [build_concat]
    exact ih.register call.codes call.type

/-- Some call registers the type for the codes, and no later one replaces the pair. -/
def Lasts (calls : List Registration) (codes : FamilyCodes) (type : AddressType) : Prop :=
  ∃ before call after, calls = before ++ call :: after ∧ call.codes = codes ∧ call.type = type ∧
    ∀ later ∈ after, ¬later.Replaces codes type

theorem lasts_concat (calls : List Registration) (call : Registration) :
    Lasts (calls ++ [call]) codes type ↔
      (call.codes = codes ∧ call.type = type) ∨ (Lasts calls codes type ∧ ¬call.Replaces codes type) := by
  constructor
  · rintro ⟨before, found, after, split, sameCodes, sameType, lasts⟩
    rcases List.eq_nil_or_concat' after with rfl | ⟨between, last, rfl⟩
    · obtain ⟨-, last⟩ := List.append_inj' split rfl
      cases last
      exact .inl ⟨sameCodes, sameType⟩
    · have front : calls ++ [call] = (before ++ found :: between) ++ [last] := by
        rw [split, List.append_assoc, List.cons_append]
      obtain ⟨rfl, last⟩ := List.append_inj' front rfl
      cases last
      obtain ⟨lasts, stays⟩ := List.forall_mem_append.mp lasts
      exact .inr ⟨⟨before, found, between, rfl, sameCodes, sameType, lasts⟩,
        stays call List.mem_cons_self⟩
  · rintro (⟨sameCodes, sameType⟩ | ⟨⟨before, found, after, rfl, sameCodes, sameType, lasts⟩, stays⟩)
    · exact ⟨calls, call, [], rfl, sameCodes, sameType, List.forall_mem_nil _⟩
    · refine ⟨before, found, after ++ [call], by rw [List.append_assoc, List.cons_append], sameCodes,
        sameType, ?_⟩
      exact List.forall_mem_append.mpr ⟨lasts, List.forall_mem_singleton.mpr stays⟩

theorem typeOf?_build (calls : List Registration) (codes : FamilyCodes) (type : AddressType) :
    (build calls).typeOf? codes = some type ↔ Lasts calls codes type := by
  induction calls using List.reverseRecOn with
  | nil =>
    constructor
    · intro found
      cases found
    · rintro ⟨before, call, after, split, -⟩
      exact absurd split.symm (List.append_ne_nil_of_right_ne_nil _ (List.cons_ne_nil _ _))
  | append_singleton calls call ih =>
    rw [build_concat, typeOf?_register (inverse_build calls), lasts_concat, ih, Registration.Replaces]
    by_cases sameCodes : call.codes = codes <;> by_cases sameType : call.type = type <;>
      simp [sameCodes, sameType]

/-- A table and its inverse have as many entries: each type that has codes is that of one entry. -/
theorem size_eq (inverse : registry.Inverse) :
    registry.size = AddressType.all.countP fun type => (registry.codesOf? type).isSome := by
  have distinct : (registry.types.keys.map registry.typeOf?).Nodup := by
    refine List.Nodup.map_on ?_ registry.types.nodup
    intro codes present other _ same
    obtain ⟨type, found⟩ := Table.mem_keys_iff.mp present
    have first := (inverse codes type).mp found
    have second := (inverse other type).mp (same ▸ found)
    exact Option.some.inj (first.symm.trans second)
  have members (type? : Option AddressType) :
      type? ∈ registry.types.keys.map registry.typeOf? ↔
        type? ∈ (AddressType.all.filter fun type => (registry.codesOf? type).isSome).map some := by
    simp only [List.mem_map, List.mem_filter, Table.mem_keys_iff, Option.isSome_iff_exists]
    constructor
    · rintro ⟨codes, ⟨type, found⟩, rfl⟩
      exact ⟨type, ⟨type.mem_all, codes, (inverse codes type).mp found⟩, found.symm⟩
    · rintro ⟨type, ⟨-, codes, found⟩, rfl⟩
      have back := (inverse codes type).mpr found
      exact ⟨codes, ⟨type, back⟩, back⟩
  have listed : ((AddressType.all.filter fun type => (registry.codesOf? type).isSome).map some).Nodup :=
    (AddressType.nodup_all.filter _).map (Option.some_injective _)
  have same := ((List.perm_ext_iff_of_nodup distinct listed).mpr members).length_eq
  rw [List.length_map, List.length_map, Table.length_keys, ← List.countP_eq_length_filter] at same
  exact same

/-- Whatever was registered, and in whatever order: codes have a type if and only if that type has these
codes, there are as many entries as types that have codes, and an entry is there just if it was
registered and was not replaced since. -/
theorem build_bijective (calls : List Registration) :
    (∀ codes type, (build calls).typeOf? codes = some type ↔
      (build calls).codesOf? type = some codes) ∧
    (build calls).size =
      AddressType.all.countP (fun type => ((build calls).codesOf? type).isSome) ∧
    ∀ codes type, (build calls).typeOf? codes = some type ↔ Lasts calls codes type :=
  ⟨inverse_build calls, size_eq (inverse_build calls), typeOf?_build calls⟩

/-- A type that moves to its own codes leaves the others, and takes these from the type that had them. -/
example :
    let registry := build [.given ⟨1, 241⟩ .ipv4Unicast, .given ⟨1, 1⟩ .bgpLs, .assigned .ipv4Unicast]
    registry.size = 1 ∧ registry.codesOf? .ipv4Unicast = some ⟨1, 1⟩ ∧
      registry.codesOf? .bgpLs = none ∧ registry.typeOf? ⟨1, 241⟩ = none := by
  decide

end FamilyRegistry
end RouteWire
