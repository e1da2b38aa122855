import Dialogue.Json.Value
import Dialogue.Schema.Checked
import Dialogue.Text.CodeUnits

/-!
# Reading plain values

* `readString`: only strings;
* `readBool`: booleans, the numbers zero and one, and some words in any case;
* `readOptional`: null, or a value;
* `readList`, `readTable`: lists and objects, each part checked in order.
-/

namespace Dialogue

open Text

variable {α : Type}

/-- A string. -/
def readString : Json → Checked String
  | .str s => .valid s
  | _ => .fail .notString

/-- The words for true and false. -/
def boolWords : List (String × Bool) := [
  ("0", false), ("off", false), ("f", false), ("false", false), ("n", false), ("no", false),
  ("1", true), ("on", true), ("t", true), ("true", true), ("y", true), ("yes", true)]

/-- Whether an integer fits in 64 bits with a sign. -/
def fits64 (n : Int) : Bool := decide (-0x8000000000000000 ≤ n) && decide (n < 0x8000000000000000)

/-- A boolean from a number of 64 bits that must be zero or one. -/
def boolOfInt (n : Int) : Checked Bool :=
  if n = 0 then .valid false
  else if n = 1 then .valid true
  else if fits64 n then .fail .unclearBool
  else .fail .notBool

/-- The value of a double, if it is whole and strictly between the bounds of 64 bits. -/
def word? (x : Number.Binary64) : Option Int :=
  x.whole?.filter fun n => decide (-0x8000000000000000 < n) && decide (n < 0x8000000000000000)

/-- A boolean, or a number or word that stands for one. -/
def readBool : Json → Checked Bool
  | .bool b => .valid b
  | .int n => boolOfInt n
  | .float x =>
    match word? x with
    | some n => boolOfInt n
    | none => .fail .notBool
  | .str s =>
    if isWhole s then
      match boolWords.lookup (String.ofList (s.toList.map Char.toLower)) with
      | some b => .valid b
      | none => .fail .unclearBool
    else .fail .notUnicode
  | _ => .fail .notBool

/-- Null, or a value. -/
def readOptional (read : Json → Checked α) : Json → Checked (Option α)
  | .null => .valid none
  | j => some <$> read j

/-- The items of a list from index `i` on. -/
def readItems (read : Json → Checked α) : (i : Nat) → List Json → Checked (List α)
  | _, [] => .valid []
  | i, j :: r => List.cons <$> (read j).under (.index i) <*> readItems read (i + 1) r

/-- A list. -/
def readList (read : Json → Checked α) : Json → Checked (List α)
  | .arr items => readItems read 0 items
  | _ => .fail .notList

/-- The entries of an object, each read with its key. In paths a key is shown without halves. -/
def readEntries (read : String → Json → Checked α) :
    List (String × Json) → Checked (List (String × α))
  | [] => .valid []
  | (k, j) :: r =>
    List.cons <$> (((k, ·) <$> read k j).under (.key (replaceHalves k)))
      <*> readEntries read r

/-- An object as a table. -/
def readTable (read : String → Json → Checked α) (j : Json) : Checked (Assoc String α) :=
  match j.entries? with
  | some o => Assoc.ofList <$> readEntries read o.toList
  | none => .fail .notTable

/-- A table of strings. -/
def readStringTable : Json → Checked (Assoc String String) := readTable fun _ => readString

/-- A table of strings as an object. -/
def stringTable (t : Assoc String String) : Json := .obj (t.toList.map fun e => (e.1, .str e.2))

end Dialogue
