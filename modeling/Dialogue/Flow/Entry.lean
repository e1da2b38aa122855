import Dialogue.Flow.Basic

/-!
# Where a conversation starts

* `Flow.designated?`: the start node that the flow names, if it is one of its nodes;
* `Flow.firstStart?`: the first node of kind `start`;
* `Entry`, `Flow.entry`: a conversation starts at the designated node, or else at the first
  start node, so that a name that has become stale does no harm; or nowhere.
-/

namespace Dialogue

/-- Where a conversation starts. -/
inductive Entry
  | designated (id : String)
  | fallback (id : String)
  | unresolved
  deriving DecidableEq

namespace Flow

/-- The start node id, if it names a node. -/
def designated? (f : Flow) : Option String := (given f.startNodeId).filter f.nodes.contains

/-- The first node of kind `start`, in the order of the document. -/
def firstStart? (f : Flow) : Option String :=
  (f.nodes.toList.find? fun e => decide (e.2.kind = .start)).map Prod.fst

/-- Where conversations with a flow start. -/
def entry (f : Flow) : Entry :=
  match f.designated? with
  | some id => .designated id
  | none =>
    match f.firstStart? with
    | some id => .fallback id
    | none => .unresolved

/-- The node that the flow names as its start. -/
def startNode? (f : Flow) : Option Node := f.startNodeId.bind f.node?

end Flow

/-- The id of an entry. -/
def Entry.id? : Entry → Option String
  | .designated id => some id
  | .fallback id => some id
  | .unresolved => none

end Dialogue
