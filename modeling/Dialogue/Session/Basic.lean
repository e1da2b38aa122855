import Dialogue.Assoc

/-!
# What a conversation keeps and says

* `Message`: one message to the user;
* `Cursor`, `State`: where a conversation is paused, and what it has captured so far;
* `Opening`: the messages that open a conversation, and where it pauses then;
* `Reply`: the answer to one message of the user: the flow advances, or asks again;
* `Turn`: what is handed back to the chat, with the state to store.
-/

namespace Dialogue

/-- A message to the user; `kind` is that of the node it comes from. -/
structure Message where
  text : String
  options : List String
  kind : Option String
  deriving DecidableEq

/-- Where a conversation is paused, with the captured answers. -/
structure Cursor where
  stepId : Option String
  captured : Assoc String String
  deriving DecidableEq

/-- A cursor that is nowhere yet. -/
def Cursor.empty : Cursor := ⟨none, .empty⟩

/-- The stored state of a conversation. -/
structure State where
  stepId : Option String
  isComplete : Bool
  data : Assoc String String
  deriving DecidableEq

/-- Where a stored conversation is paused. -/
def State.cursor (s : State) : Cursor := ⟨s.stepId, s.data⟩

/-- Why the user is asked again. -/
inductive RepromptReason
  | validationFailed
  | noRouteMatched
  deriving DecidableEq

/-- The name of a reason. -/
def RepromptReason.name : RepromptReason → String
  | .validationFailed => "validation_failed"
  | .noRouteMatched => "no_route_matched"

/-- The reason of a name. -/
def RepromptReason.ofName? (s : String) : Option RepromptReason :=
  if s = "validation_failed" then some .validationFailed
  else if s = "no_route_matched" then some .noRouteMatched
  else none

/-- The opening of a conversation. -/
structure Opening where
  messages : List Message
  stepId : Option String
  isComplete : Bool
  deriving DecidableEq

/-- The answer to one message of the user. -/
structure Reply where
  nextStepId : Option String
  messages : List Message
  isComplete : Bool
  captured : Assoc String String
  reason : Option RepromptReason
  deriving DecidableEq

/-- Whether the user is asked again. -/
def Reply.isReprompt (r : Reply) : Bool := r.reason.isSome

/-- One turn of a conversation; not `handled` means that the flow does not answer, and a turn
without a state leaves the stored one as it is. -/
structure Turn where
  handled : Bool
  action : Option String
  messages : List Message
  state : Option State
  captured : Assoc String String
  error : Option String
  deriving DecidableEq

/-- The turn that the flow leaves to others. -/
def Turn.unhandled : Turn := ⟨false, none, [], none, .empty, none⟩

end Dialogue
