import Dialogue.Assoc
import Dialogue.Number.Binary64

/-!
# JSON values

* `Json`: values whose integers are unbounded and apart from the doubles, and whose objects
  keep the order of their keys;
* `Json.object`, `Json.entries?`: objects seen as tables;
* `Json.truthy`: whether a value counts as given (not null, false, zero or empty);
* equality of values is decidable.
-/

namespace Dialogue

open Number

/-- A JSON value. -/
inductive Json
  | null
  | bool (value : Bool)
  | int (value : Int)
  | float (value : Binary64)
  | str (value : String)
  | arr (items : List Json)
  | obj (entries : List (String × Json))

namespace Json

instance : Inhabited Json := ⟨null⟩

mutual

/-- Whether two values are the same. -/
def same : Json → Json → Bool
  | .null, .null => true
  | .bool a, .bool b => a == b
  | .int a, .int b => a == b
  | .float a, .float b => decide (a = b)
  | .str a, .str b => a == b
  | .arr a, .arr b => sameItems a b
  | .obj a, .obj b => sameEntries a b
  | _, _ => false

/-- Whether two lists hold the same values. -/
def sameItems : List Json → List Json → Bool
  | [], [] => true
  | a :: r, b :: s => same a b && sameItems r s
  | _, _ => false

/-- Whether two lists hold the same entries. -/
def sameEntries : List (String × Json) → List (String × Json) → Bool
  | [], [] => true
  | (k, a) :: r, (l, b) :: s => k == l && same a b && sameEntries r s
  | _, _ => false

end

mutual

theorem same_iff : ∀ a b : Json, same a b = true ↔ a = b
  | .null, b => by cases b <;> simp [same]
  | .bool a, b => by cases b <;> simp [same]
  | .int a, b => by cases b <;> simp [same]
  | .float a, b => by cases b <;> simp [same]
  | .str a, b => by cases b <;> simp [same]
  | .arr a, b => by cases b <;> simp [same, sameItems_iff]
  | .obj a, b => by cases b <;> simp [same, sameEntries_iff]

theorem sameItems_iff : ∀ a b : List Json, sameItems a b = true ↔ a = b
  | [], b => by cases b <;> simp [sameItems]
  | a :: r, b => by cases b <;> simp [sameItems, same_iff a, sameItems_iff r]

theorem sameEntries_iff : ∀ a b : List (String × Json), sameEntries a b = true ↔ a = b
  | [], b => by cases b <;> simp [sameEntries]
  | (k, a) :: r, b => by
    cases b <;> simp [sameEntries, same_iff a, sameEntries_iff r, Prod.ext_iff]

end

instance : DecidableEq Json := fun a b => decidable_of_iff _ (same_iff a b)

/-- An object with the entries of a list: of several entries with one key the last value
counts, at the place of the first. -/
def object (l : List (String × Json)) : Json := .obj (Assoc.ofList l).toList

/-- The entries of an object as a table. -/
def entries? : Json → Option (Assoc String Json)
  | .obj l => some (Assoc.ofList l)
  | _ => none

/-- Whether a value counts as given. -/
def truthy : Json → Bool
  | .null => false
  | .bool b => b
  | .int n => n != 0
  | .float x => !x.isZero
  | .str s => s != ""
  | .arr l => !l.isEmpty
  | .obj l => !l.isEmpty

/-- A string, or null. -/
def ofString? : Option String → Json
  | some s => .str s
  | none => .null

/-- A list of strings. -/
def ofStrings (l : List String) : Json := .arr (l.map .str)

/-- A natural number. -/
def ofNat (n : Nat) : Json := .int n

end Json

end Dialogue
