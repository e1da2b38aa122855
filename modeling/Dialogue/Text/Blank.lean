import Dialogue.Text.Ranges

/-!
# Blank characters

* `isBlank`: the space, the line and page controls, the separators of files, groups,
  records and units, and the spaces and line separators of other scripts;
* `stripOf`: a text without the characters at its two ends that have a property;
* `strip`: a text without the blanks at its two ends;
* `stripString`: the same of a string.
-/

namespace Dialogue.Text

/-- The code points of blank characters. -/
def blankRanges : Ranges := [
  (0x9, 0xD), (0x1C, 0x20), (0x85, 0x85), (0xA0, 0xA0), (0x1680, 0x1680), (0x2000, 0x200A),
  (0x2028, 0x2029), (0x202F, 0x202F), (0x205F, 0x205F), (0x3000, 0x3000)]

/-- Whether a character is blank. -/
def isBlank (c : Char) : Bool := blankRanges.has c

/-- A text without the characters at its front that have a property. -/
def dropFront (p : Char → Bool) (s : List Char) : List Char := s.dropWhile p

/-- A text without the characters at its end that have a property. -/
def dropBack (p : Char → Bool) (s : List Char) : List Char := (s.reverse.dropWhile p).reverse

/-- A text without the characters at its two ends that have a property. -/
def stripOf (p : Char → Bool) (s : List Char) : List Char := dropBack p (dropFront p s)

/-- A text without the blanks at its two ends. -/
def strip (s : List Char) : List Char := stripOf isBlank s

/-- A string without the blanks at its two ends. -/
def stripString (s : String) : String := String.ofList (strip s.toList)

@[simp] theorem dropBack_nil (p : Char → Bool) : dropBack p [] = [] := rfl

@[simp] theorem dropBack_concat (p : Char → Bool) (s : List Char) (c : Char) :
    dropBack p (s ++ [c]) = if p c then dropBack p s else s ++ [c] := by
  by_cases h : p c <;> simp [dropBack, h]

@[simp] theorem strip_nil : strip [] = [] := rfl

end Dialogue.Text
