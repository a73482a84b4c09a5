import Chip8.Number.Basic
import Chip8.Text.CodeUnit

/-!
# JSON values

The values of the settings file format. A string is the list of its UTF-16 code units, because that
is what the escapes of the format denote: a single half of a surrogate pair can be written, and two
halves in sequence are one character.

An object keeps its members in order of first appearance, each key once (`Json.insert`).
-/

namespace Chip8

/-- A JSON value. -/
inductive Json
  | null
  | bool (b : Bool)
  | number (n : Number)
  | string (units : List CodeUnit)
  | array (items : List Json)
  | object (members : List (List CodeUnit × Json))
  deriving Inhabited

namespace Json

/-- A whole number as a value. -/
def int (n : Int) : Json := number (.int n)

/-- A text as a value. -/
def text (s : String) : Json := string (CodeUnit.ofString s)

/-- An object with the given members. -/
def ofMembers (members : List (String × Json)) : Json :=
  object (members.map fun (k, v) ↦ (CodeUnit.ofString k, v))

/-- Members with the value of one key set: in place if the key is there, else at the end. -/
def insert (key : List CodeUnit) (value : Json) :
    List (List CodeUnit × Json) → List (List CodeUnit × Json)
  | [] => [(key, value)]
  | (k, v) :: rest => if k = key then (k, value) :: rest else (k, v) :: insert key value rest

/-- The value of a key among members. -/
def lookup (key : List CodeUnit) : List (List CodeUnit × Json) → Option Json
  | [] => none
  | (k, v) :: rest => if k = key then some v else lookup key rest

/-- The member of an object under a key; other values have no members. -/
def get? (key : String) : Json → Option Json
  | object members => lookup (CodeUnit.ofString key) members
  | _ => none

/-- A key that was just set has its value. -/
@[simp] theorem lookup_insert_self (key : List CodeUnit) (value : Json)
    (members : List (List CodeUnit × Json)) :
    lookup key (insert key value members) = some value := by
  induction members with
  | nil => simp [insert, lookup]
  | cons m rest ih =>
    obtain ⟨k, v⟩ := m
    by_cases h : k = key <;> simp [insert, lookup, h, ih]

/-- Setting a key leaves the others alone. -/
theorem lookup_insert_of_ne {key other : List CodeUnit} (h : other ≠ key) (value : Json)
    (members : List (List CodeUnit × Json)) :
    lookup other (insert key value members) = lookup other members := by
  induction members with
  | nil => simp [insert, lookup, h.symm]
  | cons m rest ih =>
    obtain ⟨k, v⟩ := m
    by_cases hk : k = key
    · subst hk
      simp [insert, lookup, h.symm]
    · simp only [insert, hk, if_false, lookup, ih]

/-- Whether a value counts as true: all but `null`, `false`, zero, and the empty string, array and
object. -/
def isTruthy : Json → Bool
  | null => false
  | bool b => b
  | number n => !n.isZero
  | string units => !units.isEmpty
  | array items => !items.isEmpty
  | object members => !members.isEmpty

/-- The number that a value counts as in comparisons: a truth value is one or zero. -/
def asNumber? : Json → Option Number
  | bool b => some (.int (if b then 1 else 0))
  | number n => some n
  | _ => none

mutual

/-- Equality by value: numbers and truth values by number, arrays item by item, objects regardless
of the order of their members. -/
def equals : Json → Json → Bool
  | null, null => true
  | string a, string b => a == b
  | array a, array b => equalItems a b
  | object a, object b => a.length == b.length && equalMembers a b
  | bool b, other => match asNumber? other with
    | some n => (Number.int (if b then 1 else 0)).equals n
    | none => false
  | number m, other => match asNumber? other with
    | some n => m.equals n
    | none => false
  | _, _ => false

/-- Equality of arrays, item by item. -/
def equalItems : List Json → List Json → Bool
  | [], [] => true
  | a :: as, b :: bs => equals a b && equalItems as bs
  | _, _ => false

/-- Whether every member has a partner of the same key and an equal value. -/
def equalMembers : List (List CodeUnit × Json) → List (List CodeUnit × Json) → Bool
  | [], _ => true
  | (k, v) :: rest, other =>
    (match lookup k other with
      | some w => equals v w
      | none => false) && equalMembers rest other

end

end Json

end Chip8
