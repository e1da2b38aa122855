import Dialogue.Text.LowerTable
import Dialogue.Text.Standing

/-!
# Lower case

Every character is replaced by its lower case. Two rules go beyond the table of letters:

* the lower case of `İ` is an `i` and a dot above it;
* a capital sigma becomes a final sigma if a letter stands before it and none after it,
  marks being passed over on both sides; else it becomes a plain sigma.

`lowercase` states this on lists of characters, `lowercaseString` on strings.
-/

namespace Dialogue.Text

/-- The lower case of a character by itself. -/
def lowerChar (c : Char) : List Char :=
  if c = 'İ' then ['i', '\u0307'] else [shiftBy lowerShifts c]

/-- Whether the first character that is not passed over is a letter. -/
def letterAhead : List Char → Bool
  | [] => false
  | c :: r =>
    match standing c with
    | .letter => true
    | .mark => letterAhead r
    | .other => false

/-- Whether a letter stands before the next character, given whether one stands before `c`. -/
def letterBehind (behind : Bool) (c : Char) : Bool :=
  match standing c with
  | .letter => true
  | .mark => behind
  | .other => false

/-- The lower case of a text that follows a letter (`behind`) or does not. -/
def lowercaseFrom (behind : Bool) : List Char → List Char
  | [] => []
  | c :: r =>
    let here :=
      if c = 'Σ' then (if behind && !letterAhead r then ['ς'] else ['σ']) else lowerChar c
    here ++ lowercaseFrom (letterBehind behind c) r

/-- The lower case of a text. -/
def lowercase (s : List Char) : List Char := lowercaseFrom false s

/-- The lower case of a string. -/
def lowercaseString (s : String) : String := String.ofList (lowercase s.toList)

@[simp] theorem lowercaseFrom_nil (b : Bool) : lowercaseFrom b [] = [] := rfl

end Dialogue.Text
