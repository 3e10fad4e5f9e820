/-!
Numerals in text, and text in pieces between separators.

Main statements: `pieces_ne_nil`, and `intercalate_pieces`, by which the pieces with their separators
put back are the text.
-/
namespace RouteWire.Text

/-- The value of a digit in a base up to sixteen; letters count from ten in either case. -/
def digitValue? (base : Nat) (c : Char) : Option Nat :=
  let value? :=
    if '0' ≤ c ∧ c ≤ '9' then some (c.toNat - '0'.toNat)
    else if 'a' ≤ c ∧ c ≤ 'f' then some (c.toNat - 'a'.toNat + 10)
    else if 'A' ≤ c ∧ c ≤ 'F' then some (c.toNat - 'A'.toNat + 10)
    else none
  value?.filter (· < base)

def digitsValue? (base : Nat) (digits : List Char) : Option Nat :=
  digits.foldl (fun value? c => do return (← value?) * base + (← digitValue? base c)) (some 0)

def numeral? (base places : Nat) (text : List Char) : Option Nat :=
  if text.isEmpty ∨ places < text.length then none else digitsValue? base text

/-- A decimal numeral of at most `places` digits that starts with zero only if it is zero. -/
def decimal? (places : Nat) (text : List Char) : Option Nat :=
  if text.head? = some '0' ∧ text.length ≠ 1 then none else numeral? 10 places text

def pieces (separator : Char) : List Char → List (List Char)
  | [] => [[]]
  | c :: text =>
    if c = separator then
      [] :: pieces separator text
    else
      match pieces separator text with
      | [] => [[c]]
      | piece :: others => (c :: piece) :: others

theorem pieces_ne_nil (separator : Char) (text : List Char) : pieces separator text ≠ [] := by
  cases text with
  | nil => simp [pieces]
  | cons c text =>
    rw [pieces]
    split
    · simp
    · split <;> simp

theorem intercalate_pieces (separator : Char) (text : List Char) :
    [separator].intercalate (pieces separator text) = text := by
  induction text with
  | nil => simp [pieces]
  | cons c text ih =>
    rw [pieces]
    have some_piece := pieces_ne_nil separator text
    cases found : pieces separator text with
    | nil => exact absurd found some_piece
    | cons piece others =>
      rw [found] at ih
      split
      · next same => rw [same, ← ih]; simp [List.intercalate, List.intersperse]
      · cases others <;> simp_all [List.intercalate, List.intersperse]

end RouteWire.Text
