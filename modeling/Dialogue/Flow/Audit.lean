import Dialogue.Flow.Basic

/-!
# Auditing flows

An author is told what the engine will not do as the flow may suggest.

* `Finding`: one thing to be said, with its severity, its code and its words;
* `Issue`: a finding and the node it belongs to, if it belongs to one;
* `Flow.issues`: where the flow starts, then its nodes in the order of the document;
* `Flow.audit`: the report, which surfaces the first error.
-/

namespace Dialogue

/-- How much a finding matters: a flow with an error is not valid. -/
inductive Severity
  | error
  | warning
  deriving DecidableEq

/-- The name of a severity. -/
def Severity.name : Severity → String
  | .error => "error"
  | .warning => "warning"

/-- What an audit can find. -/
inductive Finding
  | emptyFlow
  | noStartNode (startNodeId : Option String)
  | staleStart (startNodeId : String)
  | missingStart
  | routesNotAllowed (kind : NodeKind)
  | danglingNext (target : String)
  | nextIgnored
  | noRoutes
  | unknownCondition (index : Nat) (condition : String)
  | defaultNotLast (index : Nat)
  | routeWithoutTarget (index : Nat)
  | danglingRoute (index : Nat) (target : String)
  | endHasSuccessor
  deriving DecidableEq

namespace Finding

/-- The severity of a finding. -/
def severity : Finding → Severity
  | .emptyFlow | .noStartNode _ | .routesNotAllowed _ | .danglingNext _ | .unknownCondition _ _
  | .routeWithoutTarget _ | .danglingRoute _ _ => .error
  | .staleStart _ | .missingStart | .nextIgnored | .noRoutes | .defaultNotLast _
  | .endHasSuccessor => .warning

/-- The code of a finding. -/
def code : Finding → String
  | .emptyFlow => "EMPTY_FLOW"
  | .noStartNode _ => "NO_START_NODE"
  | .staleStart _ => "STALE_START_NODE_ID"
  | .missingStart => "MISSING_START_NODE_ID"
  | .routesNotAllowed _ => "ROUTES_NOT_ALLOWED"
  | .danglingNext _ => "DANGLING_NEXT"
  | .nextIgnored => "NEXT_IGNORED"
  | .noRoutes => "NO_ROUTES"
  | .unknownCondition _ _ => "UNKNOWN_CONDITION"
  | .defaultNotLast _ => "DEFAULT_NOT_LAST"
  | .routeWithoutTarget _ => "ROUTE_WITHOUT_TARGET"
  | .danglingRoute _ _ => "DANGLING_ROUTE"
  | .endHasSuccessor => "END_HAS_SUCCESSOR"

/-- The words for a finding. -/
def message : Finding → String
  | .emptyFlow => "Flow has no nodes"
  | .noStartNode id =>
    "startNodeId '" ++ id.getD "None" ++ "' does not resolve and no node has type 'start'"
  | .staleStart id =>
    "startNodeId '" ++ id ++ "' does not resolve; the first 'start' node will be used"
  | .missingStart => "startNodeId is not set; the first 'start' node will be used"
  | .routesNotAllowed kind =>
    "'" ++ kind.name ++ "' nodes continue via 'next'; their routes are ignored"
  | .danglingNext target => "next points at unknown node '" ++ target ++ "'"
  | .nextIgnored => "question nodes branch via routes; 'next' is ignored"
  | .noRoutes => "question has no routes; every answer will be re-prompted"
  | .unknownCondition index condition =>
    "route " ++ toString index ++ " has unknown condition '" ++ condition ++ "'"
  | .defaultNotLast index =>
    "route " ++ toString index
      ++ " is a default route but is not last; later routes can never fire"
  | .routeWithoutTarget index => "route " ++ toString index ++ " has no target node"
  | .danglingRoute index target =>
    "route " ++ toString index ++ " points at unknown node '" ++ target ++ "'"
  | .endHasSuccessor => "end nodes are terminal; next/routes are ignored"

end Finding

/-- A finding and the node it belongs to. -/
structure Issue where
  nodeId : Option String
  finding : Finding
  deriving DecidableEq

namespace Flow

variable (f : Flow)

/-- Whether some node is of kind `start`. -/
def hasStart : Bool := f.nodes.values.any fun n => decide (n.kind = .start)

/-- What there is to say of the start. -/
def startFindings : List Finding :=
  match given f.startNodeId with
  | some id =>
    if f.nodes.contains id then []
    else if f.hasStart then [.staleStart id]
    else [.noStartNode f.startNodeId]
  | none => if f.hasStart then [.missingStart] else [.noStartNode f.startNodeId]

/-- What there is to say of one route, given its index and whether it is the last one. -/
def routeFindings (index : Nat) (isLast : Bool) (r : Route) : List Finding :=
  (if r.test? = none then [.unknownCondition index r.condition] else [])
    ++ (if r.test? = some .default ∧ isLast = false then [.defaultNotLast index] else [])
    ++ match given r.next with
      | none => [.routeWithoutTarget index]
      | some target => if f.nodes.contains target then [] else [.danglingRoute index target]

/-- What there is to say of routes, the first of which has the given index. -/
def routesFindings : Nat → List Route → List Finding
  | _, [] => []
  | index, r :: rs => f.routeFindings index rs.isEmpty r ++ routesFindings (index + 1) rs

/-- What there is to say of a node that continues with one link. -/
def linkFindings (n : Node) : List Finding :=
  (if n.extras.contains "routes" then [.routesNotAllowed n.kind] else [])
    ++ match given n.next with
      | none => []
      | some target => if f.nodes.contains target then [] else [.danglingNext target]

/-- What there is to say of a node. -/
def nodeFindings (n : Node) : List Finding :=
  match n.body with
  | .start _ | .message _ | .email _ _ _ _ => f.linkFindings n
  | .question routes _ =>
    (if n.extras.contains "next" then [.nextIgnored] else [])
      ++ (if routes.isEmpty then [.noRoutes] else [])
      ++ f.routesFindings 0 routes
  | .ending =>
    if n.extras.contains "next" || n.extras.contains "routes" then [.endHasSuccessor] else []

/-- All that there is to say of a flow. -/
def issues : List Issue :=
  if f.nodes.isEmpty then [⟨none, .emptyFlow⟩]
  else
    f.startFindings.map (⟨none, ·⟩)
      ++ f.nodes.toList.flatMap fun e => (f.nodeFindings e.2).map (⟨some e.1, ·⟩)

/-- The first issue that is an error. -/
def firstError? : Option Issue := f.issues.find? fun i => i.finding.severity = .error

/-- Whether no issue is an error. -/
def isValid : Bool := f.firstError?.isNone

end Flow

/-- The report of an audit. -/
structure Report where
  firstError : Option Finding
  issues : List Issue
  deriving DecidableEq

/-- Audit a flow. -/
def Flow.audit (f : Flow) : Report := ⟨f.firstError?.map (·.finding), f.issues⟩

end Dialogue
