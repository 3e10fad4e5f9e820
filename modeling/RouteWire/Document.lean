import RouteWire.CodePoint
import RouteWire.Text.Hex
/-!
Documents: what values look like outside the wire. A value is a number, a text, a list or a record of
named fields; a value of several forms is a record whose one field has the name of the form, or just
that name if the form has no data.

A type is documented when its values have a document each and can be read back from it. Reading is
strict about what a field holds and does not look at fields that nobody asks for. It takes some more
documents than are written: null as the data of a form without data, the list of the values of a
structure in place of its record, and a record without a field whose value is null.
-/
namespace RouteWire

/-- A document. A number is a decimal fraction with `scale` places. -/
inductive Document where
  | null
  | bool (value : Bool)
  | number (unscaled : Int) (scale : Nat)
  | text (value : String)
  | list (items : List Document)
  | record (fields : List (String × Document))

class Documented (α : Type) where
  toDocument : α → Document
  ofDocument? : Document → Option α

export Documented (toDocument ofDocument?)

namespace Document

def nat (value : Nat) : Document := .number value 0

def natBelow? (bound : Nat) : Document → Option Nat
  | .number unscaled 0 =>
    match unscaled with
    | .ofNat value => if value < bound then some value else none
    | .negSucc _ => none
  | _ => none

def text? : Document → Option String
  | .text value => some value
  | _ => none

def items? : Document → Option (List Document)
  | .list items => some items
  | _ => none

def field? (name : String) : Document → Option Document
  | .record fields => fields.lookup name
  | _ => none

def get {α : Type} [Documented α] (document : Document) (name : String) : Option α := do
  let field ← document.field? name
  ofDocument? field

def optional {α : Type} [Documented α] (document : Document) (name : String) :
    Option (Option α) :=
  match document.field? name with
  | none => some none
  | some .null => some none
  | some field => (ofDocument? field).map some

/-- The values of the named fields of a structure, null for a field that is missing. A list of as
many values stands for the record. -/
def values? (names : List String) : Document → Option (List Document)
  | .record fields => some (names.map fun name => (fields.lookup name).getD .null)
  | .list items => if items.length = names.length then some items else none
  | _ => none

def only {α : Type} [Documented α] (document : Document) (name : String) : Option α := do
  let [value] ← document.values? [name] | none
  ofDocument? value

def form (name : String) (value : Document) : Document := .record [(name, value)]

def form? : Document → Option (String × Document)
  | .record [(name, value)] => some (name, value)
  | .text name => some (name, .null)
  | _ => none

def formName : Document → String
  | .text name => name
  | .record ((name, _) :: _) => name
  | _ => ""

end Document

def field {α : Type} [Documented α] (name : String) (value : α) : String × Document :=
  (name, toDocument value)

namespace Documented

@[reducible] def number {α : Type} (bound : Nat) (toNat : α → Nat) (ofNat : Nat → α) :
    Documented α where
  toDocument value := .nat (toNat value)
  ofDocument? document := (document.natBelow? bound).map ofNat

@[reducible] def textual {α : Type} (toText : α → String) (ofText? : List Char → Option α) :
    Documented α where
  toDocument value := .text (toText value)
  ofDocument? document := document.text?.bind fun text => ofText? text.toList

@[reducible] def bare {α : Type} (name : α → String) (ofName? : String → Option α) :
    Documented α where
  toDocument value := .text (name value)
  ofDocument? document :=
    match document.form? with
    | some (form, .null) => ofName? form
    | _ => none

@[reducible] def ofFields {α : Type} (names : List String) (documents : α → List Document)
    (ofDocuments? : List Document → Option α) : Documented α where
  toDocument value := .record (names.zip (documents value))
  ofDocument? document := (document.values? names).bind ofDocuments?

@[reducible] def codePoint {α κ : Type} [CodePoint α κ] : Documented α :=
  bare CodePoint.name CodePoint.ofName?

instance : Documented UInt8 := number 256 UInt8.toNat UInt8.ofNat

instance : Documented UInt16 := number 65536 UInt16.toNat UInt16.ofNat

instance : Documented UInt32 := number 4294967296 UInt32.toNat UInt32.ofNat

instance : Documented UInt64 := number 18446744073709551616 UInt64.toNat UInt64.ofNat

/-- Lengths and counts. Their documents are numbers of 64 bits, in which larger ones wrap around. -/
instance : Documented Nat := number 18446744073709551616 (· % 18446744073709551616) id

instance : Documented Bool where
  toDocument := .bool
  ofDocument?
    | .bool value => some value
    | _ => none

instance {α : Type} [Documented α] : Documented (List α) where
  toDocument values := .list (values.map toDocument)
  ofDocument? document := do
    let items ← document.items?
    items.mapM ofDocument?

instance {α : Type} [Documented α] : Documented (Option α) where
  toDocument
    | none => .null
    | some value => toDocument value
  ofDocument?
    | .null => some none
    | document => (ofDocument? document).map some

end Documented
end RouteWire
