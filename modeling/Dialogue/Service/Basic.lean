import Dialogue.Engine.Position
import Dialogue.Service.Tally
import Dialogue.Text.Quoted

/-!
# The turn service

For each turn of a chat the service decides whether it belongs to the flow, and runs it if so.

* `Service`: the bound on steps, whether the end of a flow is announced, and the trigger that
  restarts a flow;
* `Document.given?`: the document of a turn, where null is none;
* `Stored`: the stored state of a conversation, in the form in which it was kept;
* `Service.applies`: whether a turn belongs to the flow;
* `Service.handle`: the turn, with what is counted, recorded and noted on the way.

Nothing is stored here: a turn carries the state to store. Definitions that cannot be used,
states that cannot be read, and failures of a conversation give a turn that is not handled;
only other failures leave the service, and then nothing is counted.
-/

namespace Dialogue

open Text

/-- What is said after the end of a flow. -/
def transitionText : String := "What you want to ask next?"

/-- A record of the service. -/
inductive Record
  | info (text : String)
  | error (text : String)
  deriving DecidableEq

/-- The level of a record. -/
def Record.level : Record → String
  | .info _ => "INFO"
  | .error _ => "ERROR"

/-- The text of a record. -/
def Record.text : Record → String
  | .info text => text
  | .error text => text

/-- The first line of a record. -/
def Record.headline (r : Record) : String :=
  String.ofList (r.text.toList.takeWhile (· != '\n'))

/-- A turn service. -/
structure Service where
  maxSteps : Option Int
  announces : Bool
  trigger : String
  deriving DecidableEq

/-- A service, with the usual behaviour where none is asked for. -/
def Service.make (maxSteps : Option Int) (announces : Option Bool) (trigger : Option String) :
    Service :=
  ⟨maxSteps, announces.getD true, (given trigger).getD "init_flow"⟩

/-- What a new service records. -/
def Service.ready : Record := .info "FlowService initialized."

/-- The document of a turn, if there is one; null is none. -/
def Document.given? : Option Document → Option Document
  | some (.value .null) => none
  | document => document

theorem Document.given?_eq_some {document : Option Document} {d : Document} :
    given? document = some d ↔ document = some d ∧ d ≠ .value .null := by
  unfold given?
  split
  · simpa using Eq.symm
  · next hn => exact ⟨fun h => ⟨h, by rintro rfl; exact hn h⟩, And.left⟩

theorem Document.given?_eq_none {document : Option Document} :
    given? document = none ↔ document = none ∨ document = some (.value .null) := by
  unfold given?
  split
  · simp
  · next hn => simpa using fun h => (hn h).elim

/-- A document that is a flow is not null. -/
theorem Document.given?_of_ok {d : Document} {depth : Nat} {f : Flow}
    (h : Flow.ofDocument d depth = .ok f) : given? (some d) = some d := by
  refine given?_eq_some.2 ⟨rfl, ?_⟩
  rintro rfl
  cases h

/-- The stored state of a conversation. -/
inductive Stored
  | nothing
  | state (s : State)
  | json (j : Json)
  deriving DecidableEq

/-- The stored state of a JSON value; null is no state. -/
def Stored.ofJson : Json → Stored
  | .null => .nothing
  | j => .json j

/-- The state that is stored, if there is one; null is none. -/
def Stored.read : Stored → Checked (Option State)
  | .nothing | .json .null => .valid none
  | .state s => .valid (some s)
  | .json j => some <$> State.read j

theorem Stored.read_json {j : Json} (hj : j ≠ .null) :
    (Stored.json j).read = some <$> State.read j := by
  rw [read.eq_def]
  split <;> simp_all

/-- What comes of a turn, what it counts and records, and what the engine notes. -/
structure Handling where
  outcome : Except Failure Turn
  counters : List Counter
  records : List Record
  events : List Event

namespace Service

variable (s : Service)

/-- Whether a turn belongs to the flow: it does if the flow is restarted, while it is under way,
and on the first message of a conversation. -/
def applies (state : Option State) (trigger : Option String) (messageCount : Int) : Bool :=
  if trigger = some s.trigger then true
  else
    match state with
    | some state => !state.isComplete
    | none => decide (messageCount ≤ 1)

/-! ### Turns -/

/-- The turn that ends with an error. -/
def errorTurn (action : Option String) (kind : String) : Turn :=
  ⟨false, action, [], none, .empty, some kind⟩

/-- The turn that starts a flow. -/
def startTurn (x : Opening) : Turn :=
  ⟨!x.messages.isEmpty, some "start", x.messages, some ⟨x.stepId, x.isComplete, .empty⟩, .empty,
    none⟩

/-- The turn that asks again. -/
def againTurn (state : State) (r : Reply) : Turn :=
  ⟨true, some "continue", r.messages, some ⟨r.nextStepId, false, state.data⟩, .empty, none⟩

/-- Whether the last message already says what the announcement says. -/
def saysTransition (messages : List Message) : Bool :=
  match messages.getLast? with
  | some m => occursIn transitionText.toList m.text.toList
  | none => false

/-- The messages with the announcement, unless the last one already says it. -/
def withTransition (messages : List Message) : List Message :=
  if saysTransition messages then messages
  else messages ++ [⟨transitionText, [], some "text"⟩]

/-- The turn that goes on. -/
def onwardTurn (state : State) (r : Reply) : Turn :=
  let messages := if r.isComplete && s.announces then withTransition r.messages else r.messages
  ⟨!messages.isEmpty, some "continue", messages,
    some ⟨r.nextStepId, r.isComplete, state.data.merge r.captured⟩, r.captured, none⟩

/-! ### Handling -/

/-- A text of an id that may be absent. -/
def idText (id : Option String) : String := id.getD "None"

/-- The handling of a failure: a turn, if the failure is one that callers expect. -/
def failed (action : String) (failure : Failure) (events : List Event) : Handling :=
  if failure.isDefinition then
    ⟨.ok (errorTurn (some action) "invalid_definition"),
      [.error "invalid_definition", .turn action "error"],
      [.error ("Flow definition cannot be executed: " ++ failure.message)], events⟩
  else
    match failure.flowKind? with
    | some kind =>
      ⟨.ok (errorTurn (some action) kind), [.error kind, .turn action "error"],
        [.error ("Flow engine error (" ++ kind ++ "), falling back to free-form chat: "
          ++ failure.message)], events⟩
    | none => ⟨.error failure, [], [], events⟩

/-- The handling of an opening. -/
def started (x : Opening) (events : List Event) : Handling :=
  ⟨.ok (startTurn x), [.turn "start" (if x.isComplete then "completed" else "waiting")],
    [.info ("Flow sequence started with " ++ toString x.messages.length
      ++ " message(s), paused at " ++ idText x.stepId)], events⟩

/-- What is recorded when a flow has ended. -/
def completedRecord (stepId : Option String) (data : Assoc String String) : Record :=
  .info ("Flow completed at " ++ idText stepId ++ " with fields "
    ++ quotedList (data.keys.mergeSort fun a b => decide (a ≤ b)))

/-- The handling of a reply. -/
def replied (state : State) (r : Reply) (events : List Event) : Handling :=
  match r.reason with
  | some reason =>
    ⟨.ok (againTurn state r), [.reprompt reason, .turn "continue" "reprompt"], [], events⟩
  | none =>
    ⟨.ok (s.onwardTurn state r),
      r.captured.keys.map .captured
        ++ [.turn "continue" (if r.isComplete then "completed" else "advanced")],
      if r.isComplete then [completedRecord r.nextStepId (state.data.merge r.captured)] else [],
      events⟩

/-- Start a flow. -/
def start (e : Engine) : Handling :=
  let x := e.begin
  match x.outcome with
  | .ok opening => started opening x.events
  | .error failure => failed "start" failure x.events

/-- Go on with a flow. -/
def proceed (e : Engine) (state : State) (message : Option String) : Handling :=
  let x := e.process state.cursor message
  match x.outcome with
  | .ok r => s.replied state r x.events
  | .error failure => failed "continue" failure x.events

/-- Run a turn that belongs to the flow. -/
def run (f : Flow) (state : Option State) (message trigger : Option String) : Handling :=
  let continued := if trigger = some s.trigger then none else state
  match Engine.build f s.maxSteps, continued with
  | .ok e, none => start e
  | .ok e, some state => s.proceed e state message
  | .error failure, none => failed "start" failure []
  | .error failure, some _ => failed "continue" failure []

/-- A turn that is left to others, for a reason that is counted. -/
def leftAlone (outcome : String) : Handling := ⟨.ok .unhandled, [.turn "none" outcome], [], []⟩

/-- Handle a turn with a flow. -/
def handleFlow (f : Flow) (stored : Stored) (message trigger : Option String)
    (messageCount : Int) : Handling :=
  if f.enabled then
    match stored.read with
    | .invalid _ more =>
      ⟨.ok (errorTurn none "invalid_state"), [.error "invalid_state"],
        [.error ("Stored flow state is unusable: " ++ problemCount (more.length + 1) .state)], []⟩
    | .valid state =>
      if s.applies state trigger messageCount then s.run f state message trigger
      else leftAlone "skipped"
  else leftAlone "disabled"

/-- The handling of a document that is no flow: a turn, if the fault is one that callers
expect. -/
def unusable (fault : DocumentFault) : Handling :=
  let failure := Failure.document fault
  if failure.isDefinition then
    ⟨.ok (errorTurn none "invalid_definition"), [.error "invalid_definition"],
      [.error ("Stored flow definition is unusable: " ++ failure.message)], []⟩
  else ⟨.error failure, [], [], []⟩

/-- Handle a turn. A document that is read for it may be nested `depth` deep. -/
def handle (document : Option Document) (stored : Stored) (message trigger : Option String)
    (messageCount : Int) (depth : Nat := Json.usualDepth) : Handling :=
  match Document.given? document with
  | none => ⟨.ok .unhandled, [], [], []⟩
  | some d =>
    match Flow.ofDocument d depth with
    | .ok f => s.handleFlow f stored message trigger messageCount
    | .error fault => unusable fault

end Service

end Dialogue
