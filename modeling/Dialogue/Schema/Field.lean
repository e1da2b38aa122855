import Dialogue.Schema.Scalar

/-!
# Fields of records

A field may be given under either of two keys, one in camel case and one in snake case. If both
are given the one in camel case counts, and the other is unknown to the record.

* `Field.find?`: the key under which a field is given, and its value;
* `Field.required`, `Field.default`: reading a field;
* `unknownEntries`: the entries that belong to no field;
* `KeyStyle`: which of the two keys is written.
-/

namespace Dialogue

variable {α : Type}

/-- The two keys of a field, which are the same for a field of one word. -/
structure Field where
  camel : String
  snake : String
  deriving DecidableEq

/-- A field with one key. -/
def Field.plain (name : String) : Field := ⟨name, name⟩

/-- The spelling of the keys of a written record. -/
inductive KeyStyle
  | camel
  | snake
  deriving DecidableEq

/-- The key of a field in a written record. -/
def Field.key (f : Field) : KeyStyle → String
  | .camel => f.camel
  | .snake => f.snake

/-- The key under which a field is given, and its value. -/
def Field.find? (f : Field) (o : Assoc String Json) : Option (String × Json) :=
  match o.get? f.camel with
  | some v => some (f.camel, v)
  | none => (o.get? f.snake).map (f.snake, ·)

/-- A field that must be given. -/
def Field.required (f : Field) (read : Json → Checked α) (o : Assoc String Json) : Checked α :=
  match f.find? o with
  | some (k, v) => (read v).under (.key k)
  | none => .invalid ⟨[.key f.camel], .missing⟩ []

/-- A field with a value for the case that it is absent. -/
def Field.default (f : Field) (absent : α) (read : Json → Checked α) (o : Assoc String Json) :
    Checked α :=
  match f.find? o with
  | some (k, v) => (read v).under (.key k)
  | none => .valid absent

/-- A field that may be absent or null. -/
def Field.optional (f : Field) (read : Json → Checked α) (o : Assoc String Json) :
    Checked (Option α) :=
  f.default none (readOptional read) o

/-- The entries that belong to no field. -/
def unknownEntries (fields : List Field) (o : Assoc String Json) : Assoc String Json :=
  let known := fields.filterMap fun f => (f.find? o).map Prod.fst
  o.filter fun k _ => !known.contains k

/-- A record, read from the entries of an object. -/
def readRecord (read : Assoc String Json → Checked α) (j : Json) : Checked α :=
  match j.entries? with
  | some o => read o
  | none => .fail .notRecord

end Dialogue
