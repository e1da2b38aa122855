import Dialogue.Engine.Failure
import Dialogue.Session.Basic

/-!
# The engine's log

* `Event`: what the engine notes while it works;
* `Event.text`, `Event.level`, `Event.fields`: an event as an entry of a log;
* `Traced`: an outcome with the events noted on the way to it, in order. Steps are joined by
  `Traced.bind`: a failure ends the work, and keeps the events before it.
-/

namespace Dialogue

/-- How important an event is. -/
inductive Level
  | debug
  | info
  | warning
  | error
  deriving DecidableEq

/-- The name of a level. -/
def Level.name : Level → String
  | .debug => "debug"
  | .info => "info"
  | .warning => "warning"
  | .error => "error"

/-- What the engine notes. -/
inductive Event
  | staleStart (startNodeId : Option String) (resolved : String)
  | noStart (startNodeId : Option String) (nodeCount : Nat)
  | stepLimit (id : String) (maxSteps : Nat)
  | cycle (id : String)
  | missingLink (id : String) (previous : Option String)
  | traversing (id : String) (kind : NodeKind)
  | started (startId : String) (stepId : Option String) (count : Nat) (isComplete : Bool)
  | reprompting (stepId : String) (reason : RepromptReason)
  | lostCursor (stepId : String)
  | advanced (source : String) (next : Option String) (count : Nat) (isComplete : Bool)
      (captured : List Json)
  deriving DecidableEq

namespace Event

/-- The words for an event. -/
def text : Event → String
  | .staleStart _ _ => "Start node id does not resolve, using first start node"
  | .noStart _ _ => "No start node could be resolved"
  | .stepLimit _ _ => "Auto-advance step limit reached"
  | .cycle _ => "Flow cycle detected during auto-advance"
  | .missingLink _ _ => "Flow links to a missing node, ending flow"
  | .traversing _ _ => "Traversing flow node"
  | .started _ _ _ _ => "Flow started"
  | .reprompting _ _ => "Re-prompting user"
  | .lostCursor _ => "Session cursor points at a missing node"
  | .advanced _ _ _ _ _ => "Flow advanced"

/-- The level of an event. -/
def level : Event → Level
  | .staleStart _ _ | .stepLimit _ _ | .cycle _ | .missingLink _ _ => .warning
  | .noStart _ _ | .lostCursor _ => .error
  | .traversing _ _ => .debug
  | .started _ _ _ _ | .reprompting _ _ | .advanced _ _ _ _ _ => .info

/-- The fields of an event. -/
def fields : Event → List (String × Json)
  | .staleStart startNodeId resolved =>
    [("start_node_id", .ofString? startNodeId), ("resolved_node_id", .str resolved)]
  | .noStart startNodeId nodeCount =>
    [("start_node_id", .ofString? startNodeId), ("node_count", .ofNat nodeCount)]
  | .stepLimit id maxSteps => [("node_id", .str id), ("max_steps", .ofNat maxSteps)]
  | .cycle id => [("node_id", .str id)]
  | .missingLink id previous =>
    [("node_id", .str id), ("previous_node_id", .ofString? previous)]
  | .traversing id kind => [("node_id", .str id), ("node_type", .str kind.name)]
  | .started startId stepId count isComplete =>
    [("start_node_id", .str startId), ("current_step_id", .ofString? stepId),
      ("message_count", .ofNat count), ("is_complete", .bool isComplete)]
  | .reprompting stepId reason =>
    [("current_step_id", .str stepId), ("reason", .str reason.name)]
  | .lostCursor stepId => [("current_step_id", .str stepId)]
  | .advanced source next count isComplete captured =>
    [("from_step_id", .str source), ("next_step_id", .ofString? next),
      ("message_count", .ofNat count), ("is_complete", .bool isComplete),
      ("captured_fields", .arr captured)]

/-- An event as an entry of a log. -/
def record (e : Event) : Json :=
  .object (("event", .str e.text) :: ("log_level", .str e.level.name) :: e.fields)

end Event

/-- An outcome, and the events noted on the way to it. -/
structure Traced (α : Type) where
  outcome : Except Failure α
  events : List Event

namespace Traced

variable {α β : Type}

/-- A result without events. -/
def ok (a : α) : Traced α := ⟨.ok a, []⟩

/-- Go on with a result. -/
def bind (x : Traced α) (f : α → Traced β) : Traced β :=
  match x.outcome with
  | .ok a => ⟨(f a).outcome, x.events ++ (f a).events⟩
  | .error e => ⟨.error e, x.events⟩

instance : Monad Traced where
  pure := ok
  bind := bind

@[simp] theorem pure_eq (a : α) : (pure a : Traced α) = ⟨.ok a, []⟩ := rfl

@[simp] theorem bind_ok (a : α) (es : List Event) (f : α → Traced β) :
    ((⟨.ok a, es⟩ : Traced α) >>= f) = ⟨(f a).outcome, es ++ (f a).events⟩ := rfl

@[simp] theorem bind_error (e : Failure) (es : List Event) (f : α → Traced β) :
    ((⟨.error e, es⟩ : Traced α) >>= f) = ⟨.error e, es⟩ := rfl

end Traced

end Dialogue
