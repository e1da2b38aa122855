import Dialogue.Engine.Position

/-!
# Conversations with an engine

A caller holds the position of a conversation between its steps.

* `Request`, `Ask`: what is asked of the engine, and a position that replaces the held one;
* `Answered`: what the engine gives, an opening or a reply;
* `Conversation.step`: one step. After an opening nothing is captured; after a reply the
  captured answers overwrite those held before; after a failure the position stays as it was;
* `Conversation.run`: a list of steps.
-/

namespace Dialogue

/-- What a caller asks of an engine. -/
inductive Request
  | begin
  | answer (text : Option String)
  deriving DecidableEq

/-- A request, with a position that replaces the held one. -/
structure Ask where
  position : Option Position
  request : Request
  deriving DecidableEq

/-- What an engine gives to a caller. -/
inductive Answered
  | opening (x : Opening)
  | reply (r : Reply)
  deriving DecidableEq

namespace Conversation

/-- The cursor held after an opening. -/
def afterOpening (x : Opening) : Cursor := ⟨x.stepId, .empty⟩

/-- The cursor held after a reply at a position. -/
def afterReply (p : Position) (r : Reply) : Cursor := ⟨r.nextStepId, p.captured.merge r.captured⟩

/-- What an engine gives at a position, and the cursor to hold after it. -/
def answerAt (e : Engine) (p : Position) : Request → Traced (Answered × Cursor)
  | .begin => do
    let x ← e.begin
    return (.opening x, afterOpening x)
  | .answer text => do
    let r ← e.processAt p text
    return (.reply r, afterReply p r)

/-- One step of a conversation held at `p`, and the position held after it. -/
def step (e : Engine) (p : Position) (a : Ask) : Traced (Answered × Cursor) × Position :=
  let p := a.position.getD p
  let x := answerAt e p a.request
  match x.outcome with
  | .ok (_, cursor) => (x, .cursor cursor)
  | .error _ => (x, p)

/-- The steps of a conversation held at `p`. -/
def run (e : Engine) (p : Position) : List Ask → List (Traced (Answered × Cursor))
  | [] => []
  | a :: r =>
    let (x, p) := step e p a
    x :: run e p r

end Conversation

end Dialogue
