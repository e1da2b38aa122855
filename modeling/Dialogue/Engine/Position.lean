import Dialogue.Engine.Basic
import Dialogue.Session.Record

/-!
# Positions told to an engine

A caller may hold the place of a conversation as a cursor, as a stored state, or as the JSON
of either.

* `Position`, `Position.cursor`: the forms of a position, and the cursor that each stands for;
* `Position.captured`: the captured answers that are held with it;
* `Engine.processAt`: the reply to an answer at a position.
-/

namespace Dialogue

/-- A position, in the form in which a caller holds it. -/
inductive Position
  | nowhere
  | cursor (c : Cursor)
  | state (s : State)
  | json (j : Json)
  deriving DecidableEq

namespace Position

/-- The position of a JSON value; null is no position. -/
def ofJson : Json → Position
  | .null => .nowhere
  | j => .json j

/-- The failure of a record that has been checked. -/
def ofChecked {α : Type} (record : RecordName) : Checked α → Except Failure α
  | .valid a => .ok a
  | .invalid p ps => .error (.malformed record p ps)

/-- The cursor that a position stands for; null is no position. -/
def cursor? : Position → Except Failure Cursor
  | .nowhere | .json .null => .ok .empty
  | .cursor c => .ok c
  | .state s => .ok s.cursor
  | .json j => ofChecked .cursor (Cursor.read j)

theorem cursor?_json {j : Json} (hj : j ≠ .null) :
    (Position.json j).cursor? = ofChecked .cursor (Cursor.read j) := by
  rw [cursor?]
  exact hj

/-- The captured answers that are held with a position. -/
def captured : Position → Assoc String String
  | .nowhere => .empty
  | .cursor c => c.captured
  | .state s => s.data
  | .json j =>
    match (j.entries?.bind fun o => o.get? capturedField.camel).map readStringTable with
    | some (.valid t) => t
    | _ => .empty

end Position

/-- The reply to an answer at a position. -/
def Engine.processAt (e : Engine) (p : Position) (answer : Option String) : Traced Reply :=
  match p.cursor? with
  | .ok c => e.process c answer
  | .error failure => ⟨.error failure, []⟩

end Dialogue
