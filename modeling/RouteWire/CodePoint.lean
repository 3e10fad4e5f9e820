/-!
Code points: the named values that a field of the wire may take, each with its code and its name.

Main statements: `ofCode?_eq_some_iff` and `ofCode_ok` say that reading a code and giving a code are
inverse to each other, wherever codes are distinct.
-/
namespace RouteWire

/-- The values of a field with their codes and names. -/
class CodePoint (α : Type) (κ : outParam Type) where
  all : List α
  code : α → κ
  name : α → String

namespace CodePoint
variable {α κ : Type} [CodePoint α κ]

def ofCode? [DecidableEq κ] (wanted : κ) : Option α :=
  (all : List α).find? fun value => code value = wanted

def ofCode {ε : Type} [DecidableEq κ] (undefined : κ → ε) (wanted : κ) : Except ε α :=
  match (ofCode? wanted : Option α) with
  | some value => .ok value
  | none => .error (undefined wanted)

def ofName? (wanted : String) : Option α :=
  (all : List α).find? fun value => name value = wanted

end CodePoint

/-- Every value is listed, and no earlier one has the same code. -/
class LawfulCodePoint (α : Type) (κ : outParam Type) [CodePoint α κ] [DecidableEq κ] : Prop where
  ofCode?_code : ∀ value : α, CodePoint.ofCode? (CodePoint.code value) = some value

namespace CodePoint
variable {α κ : Type} [CodePoint α κ] [DecidableEq κ]

theorem code_of_ofCode? {wanted : κ} {value : α} (found : ofCode? wanted = some value) :
    code value = wanted := by
  simpa using List.find?_some found

variable [LawfulCodePoint α κ]

@[simp] theorem ofCode?_code (value : α) : ofCode? (code value) = some value :=
  LawfulCodePoint.ofCode?_code value

theorem ofCode?_eq_some_iff {wanted : κ} {value : α} :
    ofCode? wanted = some value ↔ code value = wanted :=
  ⟨code_of_ofCode?, fun same => same ▸ ofCode?_code value⟩

theorem ofCode_ok {ε : Type} {undefined : κ → ε} {wanted : κ} {value : α} :
    ofCode undefined wanted = .ok value ↔ code value = wanted := by
  rw [ofCode, ← ofCode?_eq_some_iff]
  cases (ofCode? wanted : Option α) <;> simp

theorem code_injective {a b : α} (same : code a = code b) : a = b :=
  Option.some.inj ((ofCode?_code a).symm.trans (same ▸ ofCode?_code b))

theorem mem_all (value : α) : value ∈ (all : List α) :=
  List.mem_of_find?_eq_some (ofCode?_code value)

end CodePoint
end RouteWire
