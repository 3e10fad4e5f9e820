/-!
Tables from keys to values, each key with at most one value.

Main statements: `get?_insert` and `get?_erase` say what a change does to every look-up, and
`mem_keys_iff` ties the list of keys to the look-ups.
-/
namespace RouteWire

/-- A table: its entries, newest first, no key twice. -/
structure Table (κ α : Type) where
  entries : List (κ × α)
  nodup : (entries.map Prod.fst).Nodup

namespace Table
variable {κ α : Type}

def empty : Table κ α := ⟨[], List.nodup_nil⟩

instance : EmptyCollection (Table κ α) := ⟨empty⟩
instance : Inhabited (Table κ α) := ⟨empty⟩

def keys (table : Table κ α) : List κ := table.entries.map Prod.fst

def size (table : Table κ α) : Nat := table.entries.length

theorem length_keys (table : Table κ α) : table.keys.length = table.size := List.length_map ..

variable [DecidableEq κ]

def get? (table : Table κ α) (key : κ) : Option α :=
  (table.entries.find? fun entry => entry.1 = key).map Prod.snd

def contains (table : Table κ α) (key : κ) : Bool := (table.get? key).isSome

def erase (table : Table κ α) (key : κ) : Table κ α where
  entries := table.entries.filter fun entry => entry.1 ≠ key
  nodup := table.nodup.sublist (List.filter_sublist.map Prod.fst)

def insert (table : Table κ α) (key : κ) (value : α) : Table κ α where
  entries := (key, value) :: (table.erase key).entries
  nodup := by
    rw [List.map_cons, List.nodup_cons]
    exact ⟨by simp [erase], (table.erase key).nodup⟩

@[simp] theorem get?_empty (key : κ) : (empty : Table κ α).get? key = none := rfl

theorem get?_erase (table : Table κ α) (erased key : κ) :
    (table.erase erased).get? key = if key = erased then none else table.get? key := by
  obtain ⟨entries, nodup⟩ := table
  simp only [get?, erase]
  clear nodup
  induction entries with
  | nil => simp
  | cons entry entries ih =>
    by_cases gone : entry.1 = erased
    · by_cases same : key = erased
      · simp [same] at ih ⊢
      · have other : ¬ erased = key := fun h => same h.symm
        simpa [List.find?_cons, gone, same, other] using ih
    · by_cases found : entry.1 = key
      · have kept : ¬ key = erased := fun h => gone (found.trans h)
        simp [found, kept]
      · simpa [gone, List.find?_cons, found] using ih

theorem get?_insert (table : Table κ α) (new key : κ) (value : α) :
    (table.insert new value).get? key = if key = new then some value else table.get? key := by
  by_cases same : key = new
  · subst same
    simp [get?, insert]
  · have other : ¬ new = key := fun h => same h.symm
    have := get?_erase table new key
    simp only [get?, insert, List.find?_cons, other, decide_false, same, if_false] at this ⊢
    exact this

theorem mem_keys_iff {table : Table κ α} {key : κ} :
    key ∈ table.keys ↔ ∃ value, table.get? key = some value := by
  simp only [keys, get?, List.mem_map, Option.map_eq_some_iff]
  constructor
  · rintro ⟨entry, member, rfl⟩
    cases found : table.entries.find? (fun other => other.1 = entry.1) with
    | none => simpa using List.find?_eq_none.mp found entry member
    | some other => exact ⟨other.2, other, rfl, rfl⟩
  · rintro ⟨value, entry, found, rfl⟩
    exact ⟨entry, List.mem_of_find?_eq_some found, by simpa using List.find?_some found⟩

end Table
end RouteWire
