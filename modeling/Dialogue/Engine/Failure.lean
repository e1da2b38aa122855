import Dialogue.Flow.Document

/-!
# Failures

* `Failure`: why the engine gives no result. A bad answer is no failure: the user is asked
  again;
* `Failure.message`: the words for it;
* `Failure.isDefinition`, `Failure.flowKind?`: the failures that a caller can expect, namely
  those of the flow's definition and those of a conversation with it. The others come from
  entries that a node may hold but no author is meant to write, and from documents and bounds
  that lie outside what the engine accepts.
-/

namespace Dialogue

/-- Why the engine gives no result. -/
inductive Failure
  | document (fault : DocumentFault)
  | noNodes
  | stepBound
  | noStartNode (startNodeId : Option String)
  | nodeNotFound (id : String)
  | noErrorMessage (kind : NodeKind)
  | compoundKey (isList : Bool)
  | malformed (record : RecordName) (first : Problem) (more : List Problem)
  deriving DecidableEq

/-- The name of the class of nodes of a kind. -/
def NodeKind.className : NodeKind → String
  | .start => "StartNode"
  | .message => "MessageNode"
  | .question => "QuestionNode"
  | .email => "EmailNode"
  | .ending => "EndNode"

namespace Failure

/-- The words for a failure. -/
def message : Failure → String
  | .document fault => fault.message
  | .noNodes => "Flow definition has no nodes"
  | .stepBound => "max_steps must be at least 1"
  | .noStartNode id =>
    "Start node '" ++ id.getD "None" ++ "' not found and no node has type 'start'"
  | .nodeNotFound id => "Node '" ++ id ++ "' not found"
  | .noErrorMessage kind =>
    "'" ++ kind.className ++ "' object has no attribute 'error_message'"
  | .compoundKey isList => "unhashable type: '" ++ (if isList then "list" else "dict") ++ "'"
  | .malformed record _ more => problemCount (more.length + 1) record

/-- Whether a flow's definition is at fault. -/
def isDefinition : Failure → Bool
  | .document (.longInteger _) => false
  | .document (.tooDeep _) => false
  | .document _ => true
  | .noNodes => true
  | _ => false

/-- The kind of a failure of a conversation with a flow. -/
def flowKind? : Failure → Option String
  | .noStartNode _ => some "no_start_node"
  | .nodeNotFound _ => some "node_not_found"
  | _ => none

/-- The node that a failure of a conversation is about. -/
def nodeId? : Failure → Option String
  | .noStartNode id => id
  | .nodeNotFound id => some id
  | _ => none

end Failure

end Dialogue
