import Dialogue.Schema.Field
import Dialogue.Session.Basic

/-!
# Records of a conversation as JSON

Each record of `Dialogue.Session.Basic` has a `read`, which checks the shape of a JSON value,
and a `record`, which writes all its fields with keys of either style.
-/

namespace Dialogue

/-! ### Fields -/

/-- The text of a message. -/
def Message.textField : Field := .plain "text"

/-- The answers that a message offers. -/
def Message.optionsField : Field := .plain "options"

/-- The kind of node that a message comes from. -/
def Message.kindField : Field := .plain "type"

/-- Where a conversation is paused. -/
def stepField : Field := ⟨"currentStepId", "current_step_id"⟩

/-- What has been captured. -/
def capturedField : Field := ⟨"capturedData", "captured_data"⟩

/-- Whether a flow has ended. -/
def completeField : Field := ⟨"isComplete", "is_complete"⟩

/-- The messages of an opening, a reply or a turn. -/
def messagesField : Field := .plain "messages"

/-- The captured answers of a state. -/
def State.dataField : Field := .plain "data"

/-- Where a conversation goes. -/
def Reply.nextField : Field := ⟨"nextStepId", "next_step_id"⟩

/-- Why the user is asked again. -/
def Reply.reasonField : Field := ⟨"repromptReason", "reprompt_reason"⟩

/-- Whether the flow answers. -/
def Turn.handledField : Field := .plain "handled"

/-- Whether a turn starts or continues a flow. -/
def Turn.actionField : Field := .plain "action"

/-- The state to store. -/
def Turn.stateField : Field := .plain "state"

/-- The kind of error that ended a turn. -/
def Turn.errorField : Field := .plain "error"

/-! ### Messages -/

/-- A message. -/
def Message.read : Json → Checked Message := readRecord fun o =>
  Message.mk <$> textField.required readString o
    <*> optionsField.default [] (readList readString) o
    <*> kindField.optional readString o

/-- A message as JSON. -/
def Message.record (m : Message) : Json :=
  .object [(textField.snake, .str m.text), (optionsField.snake, .ofStrings m.options),
    (kindField.snake, .ofString? m.kind)]

/-- Messages as JSON. -/
def messageRecords (ms : List Message) : Json := .arr (ms.map Message.record)

/-! ### Positions -/

/-- A cursor. -/
def Cursor.read : Json → Checked Cursor := readRecord fun o =>
  Cursor.mk <$> stepField.optional readString o
    <*> capturedField.default .empty readStringTable o

/-- A cursor as JSON. -/
def Cursor.record (style : KeyStyle) (c : Cursor) : Json :=
  .object [(stepField.key style, .ofString? c.stepId),
    (capturedField.key style, stringTable c.captured)]

/-- A state. -/
def State.read : Json → Checked State := readRecord fun o =>
  State.mk <$> stepField.optional readString o
    <*> completeField.default false readBool o
    <*> State.dataField.default .empty readStringTable o

/-- A state as JSON. -/
def State.record (style : KeyStyle) (s : State) : Json :=
  .object [(stepField.key style, .ofString? s.stepId),
    (completeField.key style, .bool s.isComplete),
    (State.dataField.key style, stringTable s.data)]

/-! ### Outcomes -/

/-- An opening. -/
def Opening.read : Json → Checked Opening := readRecord fun o =>
  Opening.mk <$> messagesField.default [] (readList Message.read) o
    <*> stepField.optional readString o
    <*> completeField.default false readBool o

/-- An opening as JSON. -/
def Opening.record (style : KeyStyle) (x : Opening) : Json :=
  .object [(messagesField.key style, messageRecords x.messages),
    (stepField.key style, .ofString? x.stepId),
    (completeField.key style, .bool x.isComplete)]

/-- The reason for asking again. -/
def RepromptReason.read : Json → Checked RepromptReason
  | .str s =>
    match ofName? s with
    | some r => .valid r
    | none => .fail .notListed
  | _ => .fail .notListed

/-- A reply. -/
def Reply.read : Json → Checked Reply := readRecord fun o =>
  Reply.mk <$> Reply.nextField.optional readString o
    <*> messagesField.default [] (readList Message.read) o
    <*> completeField.default false readBool o
    <*> capturedField.default .empty readStringTable o
    <*> Reply.reasonField.optional RepromptReason.read o

/-- A reply as JSON. -/
def Reply.record (style : KeyStyle) (r : Reply) : Json :=
  .object [(Reply.nextField.key style, .ofString? r.nextStepId),
    (messagesField.key style, messageRecords r.messages),
    (completeField.key style, .bool r.isComplete),
    (capturedField.key style, stringTable r.captured),
    (Reply.reasonField.key style, .ofString? (r.reason.map RepromptReason.name))]

/-- A turn. -/
def Turn.read : Json → Checked Turn := readRecord fun o =>
  Turn.mk <$> Turn.handledField.default false readBool o
    <*> Turn.actionField.optional readString o
    <*> messagesField.default [] (readList Message.read) o
    <*> Turn.stateField.optional State.read o
    <*> capturedField.default .empty readStringTable o
    <*> Turn.errorField.optional readString o

/-- A turn as JSON. -/
def Turn.record (style : KeyStyle) (t : Turn) : Json :=
  .object [(Turn.handledField.key style, .bool t.handled),
    (Turn.actionField.key style, .ofString? t.action),
    (messagesField.key style, messageRecords t.messages),
    (Turn.stateField.key style, (t.state.map (State.record style)).getD .null),
    (capturedField.key style, stringTable t.captured),
    (Turn.errorField.key style, .ofString? t.error)]

end Dialogue
