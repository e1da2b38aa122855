import Dialogue.Text.Ranges

/-!
# Lines of a text

A line ends with a line break: one of the vertical controls, the separators of files, groups and
records, the next-line control, the line and paragraph separators, or a carriage return with the
line feed after it, which count as one.

* `lineBreaks`: the number of line breaks of a text.
-/

namespace Dialogue.Text

/-- The code points of line breaks. -/
def lineBreakRanges : Ranges := [(0xA, 0xD), (0x1C, 0x1E), (0x85, 0x85), (0x2028, 0x2029)]

/-- Whether a character breaks a line. -/
def isLineBreak (c : Char) : Bool := lineBreakRanges.has c

/-- The number of line breaks. -/
def lineBreaks : List Char → Nat
  | '\r' :: '\n' :: r => lineBreaks r + 1
  | c :: r => if isLineBreak c then lineBreaks r + 1 else lineBreaks r
  | [] => 0

@[simp] theorem lineBreaks_nil : lineBreaks [] = 0 := rfl

end Dialogue.Text
