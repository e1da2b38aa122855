import Dialogue.Json.Template
import Dialogue.Text.Lines
import Dialogue.Text.Lowercase
import Dialogue.Text.Uppercase

/-!
# The journal of an application

An application writes its log to one handler.

* `Journal.levels`: the names of levels and their weights;
* `Setup`, `Setup.make`: the threshold below which entries are dropped, and how lines are
  rendered. A level that is not known leaves the threshold at that of warnings;
* `Entry`, `Entry.line`: an entry with fields, or a plain one with a text and its arguments, and
  the line that it gives;
* `Line.record`, `Line.display?`: a line as an object, and as text for a console, both without
  its time;
* `Setup.written`: the lines that are written, and `Setup.height`: how high they are.
-/

namespace Dialogue.Journal

open Text

/-! ### Levels -/

/-- The names of levels and their weights; of two names of one level the first is written. -/
def levels : List (String × Nat) := [
  ("CRITICAL", 50), ("FATAL", 50), ("ERROR", 40), ("WARNING", 30), ("WARN", 30), ("INFO", 20),
  ("DEBUG", 10), ("NOTSET", 0)]

/-- The ways to make an entry, and the weights that entries get from them. -/
def methods : List (String × Nat) := [
  ("critical", 50), ("fatal", 50), ("exception", 40), ("error", 40), ("warning", 30),
  ("warn", 30), ("info", 20), ("debug", 10)]

/-- The name of a weight in a line. -/
def levelName (weight : Nat) : String :=
  match levels.find? fun l => l.2 = weight with
  | some (name, _) => lowercaseString name
  | none => "level " ++ toString weight

/-! ### Set-up -/

/-- How lines are written. -/
inductive Renderer
  | json
  | console
  deriving DecidableEq

/-- The name of a renderer. -/
def Renderer.name : Renderer → String
  | .json => "JSONRenderer"
  | .console => "ConsoleRenderer"

/-- The handler of a journal. -/
structure Setup where
  renderer : Renderer
  threshold : Nat
  unknownLevel : Option String
  deriving DecidableEq

namespace Setup

/-- The number of handlers that a set-up adds. -/
def handlers : Nat := 1

/-- The weight below which entries are dropped unless another one is asked for. -/
def usualThreshold : Nat := 30

/-- The handler for an environment, with a level or else that of the settings. -/
def make (environment logLevel : String) (level : Option String) : Setup :=
  let asked := uppercase (if level.getD "" = "" then logLevel else level.getD "")
  let renderer := if environment = "development" then .console else .json
  match levels.lookup asked with
  | some weight => ⟨renderer, weight, none⟩
  | none => ⟨renderer, usualThreshold, some asked⟩

/-- What is said of a level that is not known. -/
def complaint (level : String) : String := "Unknown level: " ++ quoted level

end Setup

/-! ### Lines -/

/-- An entry of a journal. -/
inductive Entry
  | plain (logger method text : String) (arguments : List Json)
  | structured (logger method text : String) (fields : List (String × Json))

/-- A line of a journal, without its time. -/
structure Line where
  weight : Nat
  fields : Assoc String Json

/-- The key of the text of a line. -/
def eventKey : String := "event"

/-- The key of the level of a line. -/
def levelKey : String := "level"

/-- The key of the name of the logger of a line. -/
def loggerKey : String := "logger"

/-- The keys of fields that the journal uses itself, so that what an entry says there is not
written. -/
def reservedKeys : List String :=
  ["timestamp", "exc_info", "stack_info", "_record", "_from_structlog"]

/-- The name of a logger; that without a name is the root. -/
def loggerName (logger : String) : String := if logger = "" then "root" else logger

/-- A line with some fields. -/
def Line.make (weight : Nat) (logger text : String) (fields : List (String × Json)) : Line :=
  ⟨weight, ((Assoc.ofList fields).filter fun k _ => !reservedKeys.contains k).insertAll
    [(eventKey, .str text), (levelKey, .str (levelName weight)),
      (loggerKey, .str (loggerName logger))]⟩

/-- The line of an entry. A plain entry without arguments is taken as it is, and one whose
arguments do not fit its text is not written. -/
def Entry.line : Entry → Option Line
  | .plain logger method text arguments => do
    let weight ← methods.lookup method
    let event ← if arguments.isEmpty then some text else Json.fillTemplate text arguments
    return .make weight logger event []
  | .structured logger method text fields =>
    (methods.lookup method).map fun weight => .make weight logger text fields

/-- A line as an object. -/
def Line.record (l : Line) : Json := .obj l.fields.toList

/-! ### Lines on a console -/

/-- The value of a field on a console. A string is quoted if it holds a space, a quote or
another character that would part it from its key. -/
def fieldText : Json → String
  | .str s =>
    if s.toList.any fun c => [' ', '\t', '=', '\r', '\n', '"', '\x27'].contains c then quoted s
    else s
  | j => j.literal

/-- A text in square brackets. -/
def boxed (s : String) : String := "[" ++ s ++ "]"

/-- The keys of fields that are not written as a key with its value. -/
def placedKeys : List String :=
  [levelKey, eventKey, loggerKey, "logger_name", "stack", "exception"]

/-- The first line of text on a console. -/
def Line.heading (l : Line) : String :=
  let boxes (key : String) := ((l.fields.get? key).map fun j => boxed j.display).toList
  let event := ((l.fields.get? eventKey).map Json.display).toList
  let others := l.fields.filter fun k _ => !placedKeys.contains k
  let sorted := others.toList.mergeSort fun a b => decide (a.1 ≤ b.1)
  " ".intercalate (boxes levelKey ++ event ++ boxes loggerKey ++ boxes "logger_name"
    ++ sorted.map fun e => e.1 ++ "=" ++ fieldText e.2)

/-- A text that is given under a key. There is a failure if something else is given. -/
def Line.text? (l : Line) (key : String) : Option (Option String) :=
  match l.fields.get? key with
  | some (.str s) => some (some s)
  | some .null => some none
  | some _ => none
  | none => some none

/-- What stands between the calls that led to an entry and the failure that it tells of. -/
def ruler : String := "\n\n" ++ String.ofList (List.replicate 79 '=') ++ "\n"

/-- A line as text for a console, without colours. The calls and the failure that it tells of
stand under it; if they are not texts the line is not written. -/
def Line.display? (l : Line) : Option String := do
  let stack ← l.text? "stack"
  let failure ← l.text? "exception"
  let calls :=
    match stack with
    | some s => "\n" ++ s ++ if failure.isSome then ruler else ""
    | none => ""
  return l.heading ++ calls ++ ((failure.map ("\n" ++ ·)).getD "")

/-! ### What is written -/

/-- The lines that are written. -/
def Setup.written (s : Setup) (entries : List Entry) : List Line :=
  (entries.filterMap Entry.line).filter fun l => decide (s.threshold ≤ l.weight)

/-- How many lines of text the written lines take on a console. -/
def Setup.height (s : Setup) (entries : List Entry) : Nat :=
  lineBreaks (((s.written entries).filterMap Line.display?).flatMap fun t => t.toList ++ ['\n'])

end Dialogue.Journal
