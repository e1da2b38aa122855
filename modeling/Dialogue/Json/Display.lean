import Dialogue.Json.Value
import Dialogue.Number.Decimal
import Dialogue.Text.Quoted

/-!
# Values in running text

A value inside a line of text is shown as a literal: strings in quotes, lists in square
brackets, objects in braces, and the three constants as words with a capital letter. A string
that is the whole value is shown as it is.
-/

namespace Dialogue.Json

open Text

mutual

/-- A value as a literal. -/
def literal : Json → String
  | .null => "None"
  | .bool b => if b then "True" else "False"
  | .int n => toString n
  | .float x => x.text
  | .str s => quoted s
  | .arr items => "[" ++ ", ".intercalate (literals items) ++ "]"
  | .obj entries => "\x7b" ++ ", ".intercalate (entryLiterals entries) ++ "\x7d"

/-- Values as literals. -/
def literals : List Json → List String
  | [] => []
  | j :: r => literal j :: literals r

/-- Entries as literals. -/
def entryLiterals : List (String × Json) → List String
  | [] => []
  | (k, j) :: r => (quoted k ++ ": " ++ literal j) :: entryLiterals r

end

/-- A value in running text. -/
def display : Json → String
  | .str s => s
  | j => literal j

end Dialogue.Json
