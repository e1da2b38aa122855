import Dialogue.Flow.Document

/-!
# Writing flows

* `Flow.document`: the document that a flow is stored as, in camel case, without ids and
  without nulls. Entries of a node that belong to no field are written back, nulls among
  them left out; a null inside such an entry stays.
* `Flow.record`: all fields of a flow with their keys in either style, nulls and ids included;
* `Flow.agrees`: whether two flows have the same record.
-/

namespace Dialogue

/-- An entry of a document; none for null. -/
def optionalEntry (key : String) (value : Option Json) : List (String × Json) :=
  match value with
  | some .null => []
  | some v => [(key, v)]
  | none => []

/-- An entry with a text; none if there is no text. -/
def optionalText (key : String) (value : Option String) : List (String × Json) :=
  optionalEntry key (value.map .str)

/-- A route in a document. -/
def Route.document (r : Route) : Json :=
  .object ([(conditionField.camel, .str r.condition)] ++ optionalText valueField.camel r.value
    ++ optionalText nextField.camel r.next)

/-- All fields of a route. -/
def Route.record (r : Route) : Json :=
  .object [(conditionField.snake, .str r.condition), (valueField.snake, .ofString? r.value),
    (nextField.snake, .ofString? r.next)]

namespace Node

/-- The entries of a body in a document. -/
def bodyDocument : Body → List (String × Json)
  | .start next => optionalText nextField.camel next
  | .message next => optionalText nextField.camel next
  | .question routes saveAs =>
    [(routesField.camel, .arr (routes.map Route.document))] ++ optionalText saveAsField.camel saveAs
  | .email validates saveAs errorMessage next =>
    (if validates then [(validationField.camel, .str "email")] else [])
      ++ [(saveAsField.camel, .str saveAs)]
      ++ optionalText errorMessageField.camel errorMessage ++ optionalText nextField.camel next
  | .ending => []

/-- A node in a document. -/
def document (n : Node) : Json :=
  .object ([(textField.camel, .str n.text), (optionsField.camel, .ofStrings n.options),
      (typeField.camel, .str n.kind.name)]
    ++ bodyDocument n.body ++ n.extras.toList.filter fun e => e.2 != .null)

/-- The fields that depend on the kind. -/
def bodyRecord (style : KeyStyle) : Body → List (String × Json)
  | .start next => [(nextField.key style, .ofString? next)]
  | .message next => [(nextField.key style, .ofString? next)]
  | .question routes saveAs =>
    [(routesField.key style, .arr (routes.map Route.record)),
      (saveAsField.key style, .ofString? saveAs)]
  | .email validates saveAs errorMessage next =>
    [(validationField.key style, if validates then .str "email" else .null),
      (saveAsField.key style, .str saveAs),
      (errorMessageField.key style, .ofString? errorMessage),
      (nextField.key style, .ofString? next)]
  | .ending => []

/-- The declared fields of a node. -/
def fieldEntries (style : KeyStyle) (n : Node) : List (String × Json) :=
  [(idField.key style, .str n.id), (textField.key style, .str n.text),
    (optionsField.key style, .ofStrings n.options), (typeField.key style, .str n.kind.name)]
    ++ bodyRecord style n.body

/-- The declared fields and the further entries of a node, side by side. -/
def record (style : KeyStyle) (n : Node) : Json :=
  .object (n.fieldEntries style ++ n.extras.toList)

end Node

namespace Flow

/-- The document that a flow is stored as. -/
def document (f : Flow) : Json :=
  .object ([(enabledField.camel, .bool f.enabled)]
    ++ optionalText startNodeIdField.camel f.startNodeId
    ++ [(nodesField.camel, .obj (f.nodes.toList.map fun e => (e.1, e.2.document)))])

/-- All fields of a flow. -/
def record (style : KeyStyle) (f : Flow) : Json :=
  .object [(enabledField.key style, .bool f.enabled),
    (startNodeIdField.key style, .ofString? f.startNodeId),
    (nodesField.key style, .obj (f.nodes.toList.map fun e => (e.1, e.2.record style)))]

/-- Whether two flows have the same record in snake case, in which a further entry of a node
takes the place of a field with its key. -/
def agrees (f g : Flow) : Bool := decide (f.record .snake = g.record .snake)

end Flow

end Dialogue
