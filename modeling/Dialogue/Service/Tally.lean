import Dialogue.Session.Basic

/-!
# Counters

* `Counter`: what the turn service counts, with the name of the count and its labels;
* `Tally`: how often each counter has been raised;
* `Tally.rows`: the counts in the order of names and labels.
-/

namespace Dialogue

/-- What the turn service counts. -/
inductive Counter
  | turn (action outcome : String)
  | reprompt (reason : RepromptReason)
  | error (kind : String)
  | captured (field : String)
  deriving DecidableEq

namespace Counter

/-- The name of the count. -/
def name : Counter → String
  | .turn _ _ => "flow_turns_total"
  | .reprompt _ => "flow_reprompts_total"
  | .error _ => "flow_errors_total"
  | .captured _ => "flow_captured_fields_total"

/-- The labels of the count, in the order of their names. -/
def labels : Counter → List (String × String)
  | .turn action outcome => [("action", action), ("outcome", outcome)]
  | .reprompt reason => [("reason", reason.name)]
  | .error kind => [("kind", kind)]
  | .captured field => [("field", field)]

/-- The texts by which counters are ordered. -/
def order (c : Counter) : List String := c.name :: c.labels.map Prod.snd

/-- The order of lists of texts: by the first text in which they differ. -/
def textsLe : List String → List String → Bool
  | [], _ => true
  | _ :: _, [] => false
  | a :: r, b :: s => decide (a < b) || (a == b && textsLe r s)

end Counter

/-- How often each counter has been raised. -/
abbrev Tally := Assoc Counter Nat

/-- The count of a counter. -/
def Tally.count (t : Tally) (c : Counter) : Nat := (t.get? c).getD 0

/-- Raise counters by one each. -/
def Tally.raise (t : Tally) (cs : List Counter) : Tally :=
  cs.foldl (fun t c => t.insert c (Tally.count t c + 1)) t

/-- The counts, in the order of names and labels. -/
def Tally.rows (t : Tally) : List (Counter × Nat) :=
  t.toList.mergeSort fun a b => Counter.textsLe a.1.order b.1.order

end Dialogue
