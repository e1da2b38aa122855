import Dialogue.Answer.Branch
import Dialogue.Answer.Email
import Dialogue.Engine.Event

/-!
# What a node makes of an answer

* `Node.checksEmail`: whether an answer must be an e-mail address. Besides e-mail nodes this
  holds of any node with the further entry `validation` equal to `email`;
* `Slot`, `Node.slot`: under which name an answer is kept. Start and message nodes keep it if
  they have the further entry `save_as`;
* `Node.target?`: the link that an answer takes;
* `Response`, `Node.respond`: the user is asked again, or the conversation goes on.
-/

namespace Dialogue

/-- What is said of an answer that is no e-mail address. -/
def invalidEmailText : String := "Please enter a valid email address."

/-- What is said of an answer that takes no route. -/
def unrecognisedText : String := "I didn't understand that. Please try again."

/-- What is said of an answer that is none of the options. -/
def selectOptionText (options : List String) : String :=
  "Please select one of the options: " ++ ", ".intercalate options

/-- Where an answer is kept: nowhere, under a name, or under an entry that is no name. -/
inductive Slot
  | nothing
  | name (key : String)
  | scalar (key : Json)
  | compound (isList : Bool)
  deriving DecidableEq

/-- The slot that an entry of a node asks for. -/
def Slot.ofEntry (j : Json) : Slot :=
  if j.truthy then
    match j with
    | .str s => .name s
    | .arr _ => .compound true
    | .obj _ => .compound false
    | j => .scalar j
  else .nothing

/-- The slot of a name that may be absent. -/
def Slot.ofName? (s : Option String) : Slot :=
  match given s with
  | some key => .name key
  | none => .nothing

/-- What comes of an answer: the user is asked again, or cannot be for want of a text, or the
conversation goes on along a link. -/
inductive Response
  | again (reason : RepromptReason) (text : String) (options : List String)
  | noText
  | badText
  | onward (target : String) (slot : Slot)
  deriving DecidableEq

namespace Node

/-- Whether an answer must be an e-mail address. -/
def checksEmail (n : Node) : Bool :=
  match n.body with
  | .email validates _ _ _ => validates
  | _ => decide (n.extras.get? "validation" = some (.str "email"))

/-- Whether an answer fails the check of a node. -/
def rejects (n : Node) (answer : String) : Bool := n.checksEmail && (checkEmail answer).isSome

/-- What comes of an answer that is no e-mail address. -/
def rejection (n : Node) : Response :=
  match n.body with
  | .email _ _ errorMessage _ =>
    .again .validationFailed ((given errorMessage).getD invalidEmailText) []
  | _ =>
    match n.extras.get? "error_message" with
    | none => .noText
    | some j =>
      if j.truthy then
        match j with
        | .str s => .again .validationFailed s []
        | _ => .badText
      else .again .validationFailed invalidEmailText []

/-- The link that an answer takes. -/
def target? (n : Node) (answer : String) : Option String :=
  match n.body with
  | .start next => given next
  | .message next => given next
  | .question routes _ => (firstRoute? routes answer).bind fun r => given r.next
  | .email _ _ _ next => given next
  | .ending => none

/-- Where the answer to a node is kept. -/
def slot (n : Node) : Slot :=
  match n.body with
  | .question _ saveAs => .ofName? saveAs
  | .email _ saveAs _ _ => .name ((given (some saveAs)).getD "email")
  | _ =>
    match n.extras.get? "save_as" with
    | some j => .ofEntry j
    | none => .nothing

/-- What is said of an answer that takes no link. -/
def unmatchedText (n : Node) : String :=
  if n.options.isEmpty then unrecognisedText else selectOptionText n.options

/-- What comes of an answer. -/
def respond (n : Node) (answer : String) : Response :=
  if n.rejects answer then n.rejection
  else
    match n.target? answer with
    | some target => .onward target n.slot
    | none => .again .noRouteMatched n.unmatchedText n.options

end Node

end Dialogue
