import Dialogue.Text.UpperTable

/-!
# Upper case

* `upperChar`: the upper case of a character, which may be several characters long;
* `uppercase`: the upper case of a string, character by character.
-/

namespace Dialogue.Text

/-- The upper case of a character. -/
def upperChar (c : Char) : List Char :=
  match upperExpansions.lookup c.toNat with
  | some ns => ns.map Char.ofNat
  | none => [shiftBy upperShifts c]

/-- The upper case of a string. -/
def uppercase (s : String) : String := String.ofList (s.toList.flatMap upperChar)

end Dialogue.Text
