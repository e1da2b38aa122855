import Dialogue.Number.Numeral
import Dialogue.Schema.Field
import Dialogue.Text.Lowercase
import Dialogue.Text.Uppercase

/-!
# Settings

* `Settings`: how an application runs flows;
* `Settings.read`: the settings of the variables of an environment, overridden by values that
  are given directly; the names of both count without regard to case;
* `Settings.isRecognised`, `Settings.complaint`: whether the named environment is one of the
  four known ones, and what is printed if not.
-/

namespace Dialogue

open Number Text

/-- How an application runs flows. -/
structure Settings where
  environment : String
  logLevel : String
  maxSteps : Int
  announces : Bool
  trigger : String
  deriving DecidableEq

namespace Settings

/-- The usual settings. -/
def default : Settings := ⟨"production", "INFO", 20, true, "init_flow"⟩

/-! ### Fields -/

/-- Where the application runs. -/
def environmentField : Field := .plain "environment"

/-- From which level on events are logged. -/
def logLevelField : Field := .plain "log_level"

/-- The bound on the steps of a walk. -/
def maxStepsField : Field := .plain "flow_max_auto_advance_steps"

/-- Whether the end of a flow is announced. -/
def announcesField : Field := .plain "flow_complete_transition_enabled"

/-- The trigger that restarts a flow. -/
def triggerField : Field := .plain "flow_init_trigger"

/-! ### Integers -/

/-- A double that stands for an integer. -/
def readWholeDouble (x : Binary64) : Checked Int :=
  match x with
  | .finite _ _ =>
    match x.whole?, word? x with
    | none, _ => .fail .fractional
    | some _, none => .fail .longInteger
    | some _, some n => .valid n
  | _ => .fail .notFinite

/-- An integer, or a value that stands for one. -/
def readInteger : Json → Checked Int
  | .int n => .valid n
  | .bool b => .valid (if b then 1 else 0)
  | .float x => readWholeDouble x
  | .str s =>
    if !isWhole s then .fail .notUnicode
    else if beginsTooLong s.toList then .fail .longInteger
    else
      match numeral? s.toList with
      | some n => .valid n
      | none => .fail .unclearInteger
  | _ => .fail .notInteger

/-! ### Rules -/

/-- A walk needs at least one step. -/
def maxStepsRule (n : Int) : Option Fault :=
  if n < 1 then some (.rejected "FLOW_MAX_AUTO_ADVANCE_STEPS must be at least 1") else none

/-- The levels that events can be logged from. -/
def logLevels : List String := ["DEBUG", "INFO", "WARNING", "ERROR", "CRITICAL"]

/-- A level must be known, in any case. -/
def logLevelRule (level : String) : Option Fault :=
  if logLevels.contains (uppercase level) then none
  else some (.rejected ("Unknown LOG_LEVEL '" ++ level ++ "'"))

/-! ### Reading -/

/-- The settings of a table of values. -/
def ofTable (o : Assoc String Json) : Checked Settings :=
  Settings.mk <$> environmentField.default default.environment readString o
    <*> logLevelField.default default.logLevel
      (fun j => ((readString j).refine logLevelRule).map uppercase) o
    <*> maxStepsField.default default.maxSteps (fun j => (readInteger j).refine maxStepsRule) o
    <*> announcesField.default default.announces readBool o
    <*> triggerField.default default.trigger readString o

/-- The names of the settings. -/
def names : List String :=
  [environmentField, logLevelField, maxStepsField, announcesField, triggerField].map Field.snake

/-- The value given for a name: the first that stands under it in any case. -/
def given? (values : List (String × Json)) (name : String) : Option Json :=
  (values.find? fun e => lowercaseString e.1 = name).map Prod.snd

/-- The settings of an environment, overridden by given values. -/
def read (environment : List (String × String)) (values : List (String × Json)) :
    Checked Settings :=
  let inherited := environment.map fun e => (lowercaseString e.1, Json.str e.2)
  let direct := names.filterMap fun name => (given? values name).map (name, ·)
  ofTable ((Assoc.ofList inherited).insertAll direct)

/-- All settings as JSON. -/
def record (s : Settings) : Json :=
  .object [(environmentField.snake, .str s.environment), (logLevelField.snake, .str s.logLevel),
    (maxStepsField.snake, .int s.maxSteps), (announcesField.snake, .bool s.announces),
    (triggerField.snake, .str s.trigger)]

/-- The known environments. -/
def environments : List String := ["development", "test", "staging", "production"]

/-- Whether the environment is a known one. -/
def isRecognised (s : Settings) : Bool := environments.contains s.environment

/-- What is printed about an unknown environment. -/
def complaint (s : Settings) : String :=
  "--- [ERROR] Environment validation failed: ENVIRONMENT '" ++ s.environment
    ++ "' is not recognised\n"

end Settings

end Dialogue
