import Dialogue.Flow.Basic
import Dialogue.Text.Blank
import Dialogue.Text.Lowercase

/-!
# Choosing a branch

An answer is compared with the values of routes without regard to case or outer blanks.

* `normalize`: the answer without outer blanks, in lower case;
* `Route.fires`: whether a route is taken for an answer;
* `firstRoute?`: the first route that is taken, in the order of the document.
-/

namespace Dialogue

open Text

/-- A text without outer blanks, in lower case. -/
def normalizeText (s : List Char) : List Char := lowercase (strip s)

/-- An answer without outer blanks, in lower case. -/
def normalize (answer : String) : String := String.ofList (normalizeText answer.toList)

/-- Whether a text occurs somewhere in another one. -/
def occursIn (v : List Char) : List Char → Bool
  | [] => v.isEmpty
  | c :: r => v.isPrefixOf (c :: r) || occursIn v r

/-- The value of a route in lower case; an absent value is empty. -/
def Route.target (r : Route) : List Char := lowercase (r.value.getD "").toList

/-- Whether a route is taken for an answer. A route with an unknown condition never is. -/
def Route.fires (r : Route) (answer : String) : Bool :=
  match r.test? with
  | some .equals => decide (normalizeText answer.toList = r.target)
  | some .contains => occursIn r.target (normalizeText answer.toList)
  | some .default => true
  | none => false

/-- The first route that is taken for an answer. -/
def firstRoute? (routes : List Route) (answer : String) : Option Route :=
  routes.find? (·.fires answer)

/-- The place of the first route that is taken for an answer. -/
def firstIndex? (routes : List Route) (answer : String) : Option Nat :=
  routes.findIdx? (·.fires answer)

@[simp] theorem occursIn_nil (s : List Char) : occursIn [] s = true := by
  cases s <;> simp [occursIn]

end Dialogue
