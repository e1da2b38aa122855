import Dialogue.Text.Blank

/-!
# Numerals

A numeral is a text that stands for an integer.

* `plain?`: a plain numeral has at most a minus, and digits that do not begin with a needless
  zero and of which there are at most `maxDigits`.
* `withoutZeros`: zeros in front do not count, nor do underscores among them, and a minus may
  still follow them.
* `wholePart`: a point may follow if all digits after it are zeros, at least one.
* `joined`: single underscores may stand between other characters.
* `numeral?`: all of these, after at most one sign and between blanks.
-/

namespace Dialogue.Number

open Text

/-- The most digits of a plain numeral. -/
def maxDigits : Nat := 4300

/-- The number of a list of decimal digits. -/
def ofDigits (s : List Char) : Nat := s.foldl (fun n c => n * 10 + (c.toNat - 48)) 0

/-- Digits that do not begin with a needless zero. -/
def plainDigits? : List Char → Option Nat
  | [] => none
  | ['0'] => some 0
  | '0' :: _ => none
  | s => if s.all Char.isDigit && decide (s.length ≤ maxDigits) then some (ofDigits s) else none

/-- A plain numeral. -/
def plain? : List Char → Option Int
  | '-' :: r => (plainDigits? r).map fun n => -(n : Int)
  | s => (plainDigits? s).map Int.ofNat

/-- Whether a text begins like a plain numeral that is too long. -/
def beginsTooLong (s : List Char) : Bool :=
  let digits := if s.head? = some '-' then s.tail else s
  digits.head? != some '0' && decide (maxDigits < (digits.takeWhile Char.isDigit).length)

/-- Whether a character may stand among the zeros in front. -/
def isFiller (c : Char) : Bool := c == '0' || c == '_'

/-- A text without the zeros in front of it. Where nothing or a point follows them, the last one
is kept. -/
def withoutZeros (s : List Char) : Option (List Char) :=
  match s with
  | [] => none
  | '0' :: _ =>
    let rest := s.dropWhile isFiller
    match rest with
    | c :: _ =>
      if c.isDigit || c = '-' then some rest
      else if c = '.' && (s.takeWhile isFiller).getLast? = some '0' then some ('0' :: rest)
      else none
    | [] => if s.getLast? = some '0' then some ['0'] else none
  | c :: _ => if c.isDigit then some s else none

/-- What stands before the point, if there is one, and only zeros after it. -/
def wholePart (s : List Char) : Option (List Char) :=
  match s.dropWhile (· != '.') with
  | [] => some s
  | _ :: places =>
    if !places.isEmpty && places.all (· == '0') then some (s.takeWhile (· != '.')) else none

/-- Whether two underscores stand side by side. -/
def hasDoubleUnderscore : List Char → Bool
  | '_' :: '_' :: _ => true
  | _ :: r => hasDoubleUnderscore r
  | [] => false

/-- A text without its underscores, which must be single and stand inside. -/
def joined (s : List Char) : Option (List Char) :=
  if s.head? = some '_' || s.getLast? = some '_' || hasDoubleUnderscore s then none
  else some (s.filter (· != '_'))

/-- What is left of a numeral without its sign when it is made plain. -/
def bare? (s : List Char) : Option (List Char) := ((withoutZeros s).bind wholePart).bind joined

/-- The blanks that may stand around a numeral; the separators of files, groups, records and
units may not. -/
def isOuterBlank (c : Char) : Bool :=
  isBlank c && !(decide (0x1C ≤ c.toNat) && decide (c.toNat ≤ 0x1F))

/-- The integer of a numeral. -/
def numeral? (s : List Char) : Option Int :=
  match stripOf isOuterBlank s with
  | '-' :: r => (bare? r).bind fun digits => plain? ('-' :: digits)
  | '+' :: r => (bare? r).bind plain?
  | r => (bare? r).bind plain?

end Dialogue.Number
