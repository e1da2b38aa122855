import Dialogue.Flow.Basic
import Dialogue.Json.Reader
import Dialogue.Schema.Field
import Dialogue.Text.Encoding

/-!
# Reading flows

A flow is stored as a JSON object, or as the text of one, or as the bytes of such a text.

* `Route.read`, `Node.read`, `Flow.read`: the shapes of the three records. The kind of a node
  is told by its `type`; its id is the key it stands under; entries that belong to no field
  are kept with the node.
* `Document`: the forms in which a flow is stored;
* `Flow.ofDocument`: the flow of a document, or the `DocumentFault` that stands against it.

Only the shape is checked: links may lead nowhere. Texts are read as deep as the reader's call
stack allows (`depth`).
-/

namespace Dialogue

open Text

/-! ### Fields -/

/-- The name of the test of a route. -/
def Route.conditionField : Field := .plain "condition"

/-- The text that an answer is compared with. -/
def Route.valueField : Field := .plain "value"

/-- The link to the next node. -/
def nextField : Field := .plain "next"

namespace Node

/-- The id of a node. -/
def idField : Field := .plain "id"

/-- The text for the user. -/
def textField : Field := .plain "text"

/-- The answers to choose from. -/
def optionsField : Field := .plain "options"

/-- The kind of a node. -/
def typeField : Field := .plain "type"

/-- The branches of a question. -/
def routesField : Field := .plain "routes"

/-- The name under which an answer is kept. -/
def saveAsField : Field := ⟨"saveAs", "save_as"⟩

/-- How an answer is checked. -/
def validationField : Field := .plain "validation"

/-- What is said of an answer that fails the check. -/
def errorMessageField : Field := ⟨"errorMessage", "error_message"⟩

/-- The fields of a kind of node. -/
def fields (k : NodeKind) : List Field :=
  [idField, textField, optionsField, typeField] ++
    match k with
    | .start => [nextField]
    | .message => [nextField]
    | .question => [routesField, saveAsField]
    | .email => [validationField, saveAsField, errorMessageField, nextField]
    | .ending => []

end Node

/-- Whether a flow is in use. -/
def Flow.enabledField : Field := .plain "enabled"

/-- Where a conversation starts. -/
def Flow.startNodeIdField : Field := ⟨"startNodeId", "start_node_id"⟩

/-- The nodes of a flow. -/
def Flow.nodesField : Field := .plain "nodes"

/-! ### Shapes -/

/-- Null as a default, or a value. -/
def readOr {α : Type} (absent : α) (read : Json → Checked α) : Json → Checked α
  | .null => .valid absent
  | j => read j

/-- A route. -/
def Route.read : Json → Checked Route := readRecord fun o =>
  Route.mk <$> conditionField.default Condition.default.name readString o
    <*> valueField.optional readString o
    <*> nextField.optional readString o

namespace Node

/-- The check of an e-mail node: null for none, or `email`. -/
def readValidation : Json → Checked Bool
  | .null => .valid false
  | .str s =>
    if s = "email" then .valid true
    else if isWhole s then .fail .notLiteral
    else .fail .notUnicode
  | _ => .fail .notLiteral

/-- The name that an e-mail address is kept under: `email` unless another one is given. -/
def readEmailKey (j : Json) : Checked String :=
  if j.truthy then readString j else .valid "email"

/-- The part of a node that depends on its kind. -/
def readBody (k : NodeKind) (o : Assoc String Json) : Checked Body :=
  match k with
  | .start => Body.start <$> nextField.optional readString o
  | .message => Body.message <$> nextField.optional readString o
  | .question =>
    Body.question <$> routesField.default [] (readOr [] (readList Route.read)) o
      <*> saveAsField.optional readString o
  | .email =>
    Body.email <$> validationField.default true readValidation o
      <*> saveAsField.default "email" readEmailKey o
      <*> errorMessageField.optional readString o
      <*> nextField.optional readString o
  | .ending => .valid .ending

/-- A node of a known kind. The keys of its further entries must be whole texts. -/
def readKind (k : NodeKind) (id : String) (o : Assoc String Json) : Checked Node :=
  let further := unknownEntries (fields k) o
  if further.keys.all isWhole then
    (fun text options body => ⟨id, text, options, body, further⟩)
      <$> textField.default "" (readOr "" readString) o
      <*> optionsField.default [] (readOr [] (readList readString)) o
      <*> readBody k o
  else .fail .notUnicode

/-- The node under a key. -/
def read (id : String) (j : Json) : Checked Node :=
  match j.entries? with
  | none => .fail .notNode
  | some o =>
    match o.get? typeField.snake with
    | none => .fail .noTag
    | some (.str s) =>
      match NodeKind.ofName? s with
      | some k => (readKind k id o).under (.key k.name)
      | none => .fail .unknownTag
    | some _ => .fail .unknownTag

end Node

/-- A flow, from the entries of an object. -/
def Flow.readEntries (o : Assoc String Json) : Checked Flow :=
  Flow.mk <$> enabledField.default true (readOr true readBool) o
    <*> startNodeIdField.optional readString o
    <*> nodesField.default .empty (readTable Node.read) o

/-- A flow. -/
def Flow.read : Json → Checked Flow := readRecord Flow.readEntries

/-! ### Stored documents -/

/-- A stored flow: a JSON value, where a string is the text of one; the bytes of a text; or a
flow that has been read before. -/
inductive Document
  | value (j : Json)
  | bytes (b : List UInt8)
  | flow (f : Flow)
  deriving DecidableEq

/-- What a JSON value is, in one word. -/
def Json.kindName : Json → String
  | .null => "NoneType"
  | .bool _ => "bool"
  | .int _ => "int"
  | .float _ => "float"
  | .str _ => "str"
  | .arr _ => "list"
  | .obj _ => "dict"

/-- Why a document is no flow. -/
inductive DocumentFault
  | undecodable (error : Text.DecodeError)
  | unreadable (fault : Json.SyntaxFault) (position : Json.Position)
  | longInteger (digits : Nat)
  | tooDeep (isList : Bool)
  | notObject (found : String)
  | misshapen (first : Problem) (more : List Problem)
  deriving DecidableEq

/-- A position in words. -/
def Json.Position.text (p : Json.Position) : String :=
  "line " ++ toString p.line ++ " column " ++ toString p.column
    ++ " (char " ++ toString p.offset ++ ")"

/-- The words for a fault. -/
def DocumentFault.message : DocumentFault → String
  | .undecodable error => "Flow document is not valid JSON: " ++ error.message
  | .unreadable fault position =>
    "Flow document is not valid JSON: " ++ fault.text ++ ": " ++ position.text
  | .longInteger digits =>
    "Exceeds the limit (" ++ toString Json.digitLimit
      ++ " digits) for integer string conversion: value has " ++ toString digits
      ++ " digits; use sys.set_int_max_str_digits() to increase the limit"
  | .tooDeep isList =>
    "maximum recursion depth exceeded while decoding a JSON "
      ++ (if isList then "array" else "object") ++ " from a unicode string"
  | .notObject found => "Flow document must be an object, got " ++ found
  | .misshapen _ more =>
    "Invalid flow document: " ++ problemCount (more.length + 1) .flow

/-- The fault of a text that cannot be read. -/
def DocumentFault.ofReadError : Json.ReadError → DocumentFault
  | .malformed fault position => .unreadable fault position
  | .longInteger digits => .longInteger digits
  | .tooDeep isList => .tooDeep isList

/-- The JSON value of a document that is not yet a flow. -/
def Json.ofStored (j : Json) (depth : Nat := Json.usualDepth) : Except DocumentFault Json :=
  match j with
  | .str s => (Json.ofText s.toList depth).mapError .ofReadError
  | j => .ok j

/-- The JSON value of a text in bytes. -/
def Json.ofBytes (b : List UInt8) (depth : Nat := Json.usualDepth) : Except DocumentFault Json :=
  match Text.decode b with
  | .ok s => (Json.parse (some (Json.documentLimits depth)) s).mapError .ofReadError
  | .error e => .error (.undecodable e)

/-- The flow of a JSON value. -/
def Flow.ofJson (j : Json) : Except DocumentFault Flow :=
  match j.entries? with
  | none => .error (.notObject j.kindName)
  | some o =>
    match Flow.readEntries o with
    | .valid f => .ok f
    | .invalid p ps => .error (.misshapen p ps)

/-- The flow of a document. -/
def Flow.ofDocument (d : Document) (depth : Nat := Json.usualDepth) : Except DocumentFault Flow :=
  match d with
  | .value j => (Json.ofStored j depth).bind Flow.ofJson
  | .bytes b => (Json.ofBytes b depth).bind Flow.ofJson
  | .flow f => .ok f

end Dialogue
