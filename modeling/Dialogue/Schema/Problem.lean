/-!
# Problems of a document

A document of the wrong shape has a list of problems, each with the place where it was found.

* `Step`: one step of a path, to the value under a key or at an index;
* `Fault`: what is wrong there, with its short name `Fault.code`;
* `Problem`: a fault and the path to it;
* `RecordName`: the kinds of record that documents are read as.
-/

namespace Dialogue

/-- One step of a path into a document. -/
inductive Step
  | key (name : String)
  | index (place : Int)
  deriving DecidableEq

/-- What is wrong with a value. -/
inductive Fault
  | notString
  | notUnicode
  | notList
  | notTable
  | notRecord
  | notNode
  | missing
  | notListed
  | notLiteral
  | noTag
  | unknownTag
  | notBool
  | unclearBool
  | notInteger
  | unclearInteger
  | fractional
  | notFinite
  | longInteger
  | rejected (reason : String)
  deriving DecidableEq

/-- The short name of a fault. -/
def Fault.code : Fault → String
  | .notString => "string_type"
  | .notUnicode => "string_unicode"
  | .notList => "list_type"
  | .notTable => "dict_type"
  | .notRecord => "model_type"
  | .notNode => "model_attributes_type"
  | .missing => "missing"
  | .notListed => "enum"
  | .notLiteral => "literal_error"
  | .noTag => "union_tag_not_found"
  | .unknownTag => "union_tag_invalid"
  | .notBool => "bool_type"
  | .unclearBool => "bool_parsing"
  | .notInteger => "int_type"
  | .unclearInteger => "int_parsing"
  | .fractional => "int_from_float"
  | .notFinite => "finite_number"
  | .longInteger => "int_parsing_size"
  | .rejected _ => "value_error"

/-- The words for a value that a rule rejects; other faults have none. -/
def Fault.message? : Fault → Option String
  | .rejected reason => some ("Value error, " ++ reason)
  | _ => none

/-- A fault and the path to it. -/
structure Problem where
  path : List Step
  fault : Fault
  deriving DecidableEq

/-- The kinds of record. -/
inductive RecordName
  | route
  | flow
  | message
  | cursor
  | state
  | opening
  | reply
  | turn
  | settings
  deriving DecidableEq

/-- The name of a kind of record. -/
def RecordName.text : RecordName → String
  | .route => "Route"
  | .flow => "FlowDefinition"
  | .message => "FlowMessage"
  | .cursor => "SessionCursor"
  | .state => "FlowState"
  | .opening => "StartSequence"
  | .reply => "StepResult"
  | .turn => "FlowTurn"
  | .settings => "Settings"

/-- How many problems a record has, in words. -/
def problemCount (n : Nat) (record : RecordName) : String :=
  toString n ++ (if n = 1 then " validation error for " else " validation errors for ")
    ++ record.text

end Dialogue
