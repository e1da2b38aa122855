import Dialogue.Engine.Event

/-!
# Walking through a flow

A conversation says the texts of nodes one after another until it needs an answer or can go no
further.

* `Stop`: why a walk stops;
* `Walk`: the nodes that were passed, with their ids, and the stop;
* `Flow.walkFrom`: the walk from a link, with a budget of nodes and the ids already passed;
* `Walk.messages`, `Walk.lastId`, `Walk.isComplete`, `Walk.events`: what the walk says, where
  it pauses, whether the flow has ended there, and what is noted about it.

The budget falls with every node, so the walk ends for every graph. At a link the budget is
looked at first, then the ids already passed, then the nodes.
-/

namespace Dialogue

/-- Why a walk stops: at a node that waits for an answer, at an end, at a node without a link,
or before a link that leads to no node, to a node already passed, or beyond the budget. -/
inductive Stop
  | waiting
  | ended
  | deadEnd
  | missing (id : String)
  | repeated (id : String)
  | bounded (id : String)
  deriving DecidableEq

/-- The nodes that were passed, and why the walk stopped after them. -/
structure Walk where
  path : List (String × Node)
  stop : Stop
  deriving DecidableEq

/-- What follows a node on a walk: a stop, or a link. -/
def Node.onward (n : Node) : Stop ⊕ Option String :=
  match n.body with
  | .start next => .inr (given next)
  | .message next => .inr (given next)
  | .question _ _ => .inl .waiting
  | .email _ _ _ _ => .inl .waiting
  | .ending => .inl .ended

/-- The walk from a link, passing at most `budget` nodes and none of those in `seen`. -/
def Flow.walkFrom (f : Flow) : (budget : Nat) → (seen : List String) → Option String → Walk
  | _, _, none => ⟨[], .deadEnd⟩
  | 0, _, some id => ⟨[], .bounded id⟩
  | budget + 1, seen, some id =>
    if seen.contains id then ⟨[], .repeated id⟩
    else
      match f.node? id with
      | none => ⟨[], .missing id⟩
      | some n =>
        match n.onward with
        | .inl stop => ⟨[(id, n)], stop⟩
        | .inr next =>
          let rest := f.walkFrom budget (id :: seen) next
          ⟨(id, n) :: rest.path, rest.stop⟩

/-- The walk from an id, passing at most `budget` nodes. -/
def Flow.walk (f : Flow) (budget : Nat) (id : String) : Walk :=
  f.walkFrom budget [] (given (some id))

/-- The message of a node. -/
def Node.message (n : Node) : Message := ⟨n.text, n.options, some n.kind.name⟩

namespace Walk

/-- What a walk says. -/
def messages (w : Walk) : List Message := w.path.map fun e => e.2.message

/-- The id of the last node passed, or `before` if there is none. -/
def lastId (w : Walk) (before : Option String) : Option String :=
  (w.path.getLast?.map Prod.fst).or before

/-- Whether the flow has ended where the walk stops. -/
def isComplete (w : Walk) : Bool :=
  match w.stop with
  | .ended | .deadEnd | .missing _ => true
  | .waiting | .repeated _ | .bounded _ => false

/-- What is noted about the stop of a walk. -/
def stopEvents (w : Walk) (budget : Nat) (before : Option String) : List Event :=
  match w.stop with
  | .missing id => [.missingLink id (w.lastId before)]
  | .repeated id => [.cycle id]
  | .bounded id => [.stepLimit id budget]
  | .waiting | .ended | .deadEnd => []

/-- What is noted about a walk. -/
def events (w : Walk) (budget : Nat) (before : Option String) : List Event :=
  w.path.map (fun e => .traversing e.1 e.2.kind) ++ w.stopEvents budget before

end Walk

end Dialogue
