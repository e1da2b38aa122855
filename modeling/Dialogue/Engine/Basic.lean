import Dialogue.Engine.Response
import Dialogue.Engine.Walk
import Dialogue.Flow.Entry
import Dialogue.Number.Decimal
import Dialogue.Text.Blank

/-!
# The engine

An engine runs one flow, with a bound on the number of nodes that are passed without an answer.

* `Engine`: a flow with at least one node, and a bound of at least one;
* `Engine.build`: the engine of a flow;
* `Engine.entryId`: where a conversation starts, noting a start that is stale;
* `Engine.begin`: the opening of a conversation;
* `Engine.process`: the reply to an answer of the user.

An engine keeps nothing between two calls: where a conversation is paused is told to it.
-/

namespace Dialogue

open Text Number

/-- A flow that can be run. -/
structure Engine where
  flow : Flow
  maxSteps : Nat
  nonempty : flow.nodes.isEmpty = false
  positive : 0 < maxSteps

namespace Engine

/-- The bound of an engine for which none is given. -/
def defaultMaxSteps : Nat := 20

/-- The engine of a flow. -/
def build (f : Flow) (maxSteps : Option Int) : Except Failure Engine :=
  if hn : f.nodes.isEmpty = false then
    let bound := (maxSteps.getD defaultMaxSteps).toNat
    if hp : 0 < bound then .ok ⟨f, bound, hn, hp⟩ else .error .stepBound
  else .error .noNodes

variable (e : Engine)

/-- The id of the node where a conversation starts. -/
def entryId : Traced String :=
  match e.flow.entry with
  | .designated id => ⟨.ok id, []⟩
  | .fallback id => ⟨.ok id, [.staleStart e.flow.startNodeId id]⟩
  | .unresolved =>
    ⟨.error (.noStartNode e.flow.startNodeId),
      [.noStart e.flow.startNodeId e.flow.nodes.size]⟩

/-! ### Opening a conversation -/

/-- The opening that a walk from an id gives. -/
def openAt (id : String) : Traced Opening :=
  let w := e.flow.walk e.maxSteps id
  let opening : Opening := ⟨w.messages, w.lastId none, w.isComplete⟩
  ⟨.ok opening, w.events e.maxSteps none
    ++ [.started id opening.stepId opening.messages.length opening.isComplete]⟩

/-- Open a conversation. -/
def begin : Traced Opening := do
  let id ← e.entryId
  e.openAt id

/-! ### Answering the user -/

/-- The id of the node that an answer is for. -/
def positionId (c : Cursor) : Traced String :=
  match given c.stepId with
  | some id => ⟨.ok id, []⟩
  | none => e.entryId

/-- The node that an answer is for. -/
def nodeAt (id : String) : Traced Node :=
  match e.flow.node? id with
  | some n => ⟨.ok n, []⟩
  | none => ⟨.error (.nodeNotFound id), [.lostCursor id]⟩

/-- The reply that asks again. -/
def again (id : String) (reason : RepromptReason) (text : String) (options : List String) :
    Reply :=
  ⟨some id, [⟨text, options, none⟩], false, .empty, some reason⟩

/-- The reply that a walk gives, with the answers captured before it. -/
def advance (id : String) (w : Walk) (captured : Assoc String String) : Reply :=
  ⟨w.lastId (some id), w.messages, w.isComplete, captured, none⟩

/-- What is noted about a walk that an answer led to. -/
def advanceEvents (id : String) (w : Walk) (captured : List Json) : List Event :=
  w.events e.maxSteps (some id)
    ++ [.advanced id (w.lastId (some id)) w.messages.length w.isComplete captured]

/-- A key that is no name, as a step of a path. -/
def keyStep : Json → Step
  | .int n => if fits64 n then .index n else .key (toString n)
  | .bool b => .index (if b then 1 else 0)
  | .float x => .key x.text
  | .str s => .key s
  | _ => .key ""

/-- What stands against a key that is no name. -/
def badKey (key : Json) : Failure :=
  .malformed .reply ⟨[.key "captured_data", keyStep key, .key "[key]"], .notString⟩ []

/-- Go on along a link, keeping the answer. -/
def goOn (id target : String) (slot : Slot) (answer : String) : Traced Reply :=
  let w := e.flow.walk e.maxSteps target
  match slot with
  | .nothing => ⟨.ok (advance id w .empty), e.advanceEvents id w []⟩
  | .name key =>
    ⟨.ok (advance id w (.ofList [(key, stripString answer)])), e.advanceEvents id w [.str key]⟩
  | .scalar key => ⟨.error (badKey key), e.advanceEvents id w [key]⟩
  | .compound isList => ⟨.error (.compoundKey isList), []⟩

/-- The reply to an answer to a node. -/
def reply (id : String) (n : Node) (answer : String) : Traced Reply :=
  match n.respond answer with
  | .again reason text options => ⟨.ok (again id reason text options), [.reprompting id reason]⟩
  | .noText => ⟨.error (.noErrorMessage n.kind), []⟩
  | .badText =>
    ⟨.error (.malformed .message ⟨[.key "text"], .notString⟩ []),
      [.reprompting id .validationFailed]⟩
  | .onward target slot => e.goOn id target slot answer

/-- The reply to an answer of the user; an absent answer is empty. -/
def process (c : Cursor) (answer : Option String) : Traced Reply := do
  let id ← e.positionId c
  let n ← e.nodeAt id
  e.reply id n (answer.getD "")

end Engine

end Dialogue
