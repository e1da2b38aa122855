import Dialogue.Json.Value

/-!
# Flows

A flow is a graph of nodes that a conversation walks through.

* `Condition`: the tests that a route can put to an answer;
* `Route`: a branch out of a question;
* `NodeKind`, `Body`, `Node`: the five kinds of node, what each kind holds, and what all of
  them hold;
* `Flow`: the nodes by id, in the order of the document, and where a conversation starts.

An id counts as given only if it is not empty (`given`); an empty or absent link leads
nowhere.
-/

namespace Dialogue

/-- A text that counts as given: present and not empty. -/
def given (s : Option String) : Option String := s.filter (· != "")

@[simp] theorem given_none : given none = none := rfl

theorem given_eq_some {s : Option String} {t : String} :
    given s = some t ↔ s = some t ∧ t ≠ "" := by
  cases s with
  | none => simp [given]
  | some u => simp only [given, Option.filter]; grind

/-- The tests that a route can put to an answer. -/
inductive Condition
  | equals
  | contains
  | default
  deriving DecidableEq

/-- The name of a condition in a document. -/
def Condition.name : Condition → String
  | .equals => "equals"
  | .contains => "contains"
  | .default => "default"

/-- The condition of a name. -/
def Condition.ofName? (s : String) : Option Condition :=
  if s = "equals" then some .equals
  else if s = "contains" then some .contains
  else if s = "default" then some .default
  else none

@[simp] theorem Condition.ofName?_name (c : Condition) : ofName? c.name = some c := by
  cases c <;> rfl

/-- A branch out of a question: where to go if an answer passes the test. A condition is kept
by its name, known or not. -/
structure Route where
  condition : String
  value : Option String
  next : Option String
  deriving DecidableEq

/-- The test of a route, if its condition is known. -/
def Route.test? (r : Route) : Option Condition := Condition.ofName? r.condition

/-- The kinds of node. -/
inductive NodeKind
  | start
  | message
  | question
  | email
  | ending
  deriving DecidableEq

/-- The name of a kind in a document. -/
def NodeKind.name : NodeKind → String
  | .start => "start"
  | .message => "message"
  | .question => "question"
  | .email => "email"
  | .ending => "end"

/-- The kind of a name. -/
def NodeKind.ofName? (s : String) : Option NodeKind :=
  if s = "start" then some .start
  else if s = "message" then some .message
  else if s = "question" then some .question
  else if s = "email" then some .email
  else if s = "end" then some .ending
  else none

@[simp] theorem NodeKind.ofName?_name (k : NodeKind) : ofName? k.name = some k := by
  cases k <;> rfl

/-- What a node holds because of its kind. -/
inductive Body
  | start (next : Option String)
  | message (next : Option String)
  | question (routes : List Route) (saveAs : Option String)
  | email (validates : Bool) (saveAs : String) (errorMessage next : Option String)
  | ending
  deriving DecidableEq

/-- The kind of a body. -/
def Body.kind : Body → NodeKind
  | .start _ => .start
  | .message _ => .message
  | .question _ _ => .question
  | .email _ _ _ _ => .email
  | .ending => .ending

/-- A node: a text for the user with answers to choose from, the part that depends on its kind,
and the entries of its document that belong to no field. -/
structure Node where
  id : String
  text : String
  options : List String
  body : Body
  extras : Assoc String Json
  deriving DecidableEq

namespace Node

/-- The kind of a node. -/
def kind (n : Node) : NodeKind := n.body.kind

/-- The link to the next node; questions branch instead, and an end has none. -/
def next (n : Node) : Option String :=
  match n.body with
  | .start next => next
  | .message next => next
  | .question _ _ => none
  | .email _ _ _ next => next
  | .ending => none

/-- The routes of a question. -/
def routes (n : Node) : List Route :=
  match n.body with
  | .question routes _ => routes
  | _ => []

end Node

/-- A graph of nodes by id, in the order of the document. -/
structure Flow where
  enabled : Bool
  startNodeId : Option String
  nodes : Assoc String Node
  deriving DecidableEq

/-- The node under an id; the empty id has none. -/
def Flow.node? (f : Flow) (id : String) : Option Node :=
  if id = "" then none else f.nodes.get? id

end Dialogue
