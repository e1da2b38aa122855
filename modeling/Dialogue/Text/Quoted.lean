import Dialogue.Text.CodeUnits
import Dialogue.Text.Printable

/-!
# Texts in quotes

A quoted text names every character of a text in a way that can be read on one line.

* The quote is the apostrophe, unless the text holds an apostrophe and no double quote.
* The quote, the backslash, tab, line feed and carriage return are written with a backslash.
* Any other character that does not print, and a half of a surrogate pair by itself, is written
  as its code point in hexadecimal, with two, four or eight digits after `\x`, `\u` or `\U`.

`quoted` writes one text, `quotedList` a list of them in square brackets.
-/

namespace Dialogue.Text

/-- The hexadecimal digit of a number below sixteen. -/
def hexDigit (n : Nat) : Char := if n < 10 then Char.ofNat (48 + n) else Char.ofNat (87 + n)

/-- The last `width` hexadecimal digits of a number. -/
def hexDigits : Nat → Nat → List Char
  | 0, _ => []
  | width + 1, n => hexDigits width (n / 16) ++ [hexDigit (n % 16)]

/-- A code point in hexadecimal. -/
def hexEscape (n : Nat) : List Char :=
  if n < 0x100 then '\\' :: 'x' :: hexDigits 2 n
  else if n < 0x10000 then '\\' :: 'u' :: hexDigits 4 n
  else '\\' :: 'U' :: hexDigits 8 n

/-- A character inside the quotes `quote`. -/
def quotedChar (quote c : Char) : List Char :=
  if c = quote || c = '\\' then ['\\', c]
  else if c = '\t' then ['\\', 't']
  else if c = '\n' then ['\\', 'n']
  else if c = '\r' then ['\\', 'r']
  else if isPrintable c then [c]
  else hexEscape c.toNat

/-- Characters inside the quotes `quote`; a half of a pair is written as its code unit. -/
def quotedChars (quote : Char) : List Char → List Char
  | [] => []
  | [c] => quotedChar quote c
  | c :: d :: r =>
    match half? c d with
    | some n => hexEscape n ++ quotedChars quote r
    | none => quotedChar quote c ++ quotedChars quote (d :: r)

/-- The quote that a text is written in. -/
def quoteOf (s : List Char) : Char :=
  if s.contains '\x27' && !s.contains '"' then '"' else '\x27'

/-- A string in quotes. -/
def quoted (s : String) : String :=
  let q := quoteOf s.toList
  String.ofList (q :: quotedChars q s.toList ++ [q])

/-- Quoted strings between square brackets. -/
def quotedList (l : List String) : String := "[" ++ ", ".intercalate (l.map quoted) ++ "]"

end Dialogue.Text
