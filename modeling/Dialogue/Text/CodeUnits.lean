/-!
# Code units of sixteen bits

A character beyond `U+FFFF` is a pair of code units, a high and a low surrogate.

* `isHighSurrogate`, `isLowSurrogate`: the two halves of a pair;
* `unitChars`: the characters of one code unit by itself; a half without its other half has no
  character of its own and is held as two, the noncharacter `U+8FFFE` and one that tells which
  half it is, from `U+F6000` to `U+F67FF`. Texts in which these two stand next to each other are
  left out: they would be read as a half;
* `half?`, `isWhole`: which halves stand by themselves;
* `replaceHalves`: a text that can be shown where halves cannot;
* `codePoints`: what counts as one character where characters are counted;
* `joinUnits`: the characters of a list of code units, pairs joined.
-/

namespace Dialogue.Text

/-- The first half of a surrogate pair. -/
def isHighSurrogate (n : Nat) : Bool := decide (0xD800 ≤ n) && decide (n < 0xDC00)

/-- The second half of a surrogate pair. -/
def isLowSurrogate (n : Nat) : Bool := decide (0xDC00 ≤ n) && decide (n < 0xE000)

/-- The character before one that stands for a half. -/
def halfMark : Char := Char.ofNat 0x8FFFE

/-- The first character that stands for a half. -/
def standInBase : Nat := 0xF6000

/-- The characters of a code unit or code point by itself. The two of a half are also a text of
their own, in which no half stands; such texts are left out. -/
def unitChars (n : Nat) : List Char :=
  if isHighSurrogate n || isLowSurrogate n then
    [halfMark, Char.ofNat (standInBase + (n - 0xD800))]
  else [Char.ofNat n]

/-- The half that two characters stand for, in a text in which they mean nothing else. -/
def half? (c d : Char) : Option Nat :=
  if c = halfMark ∧ standInBase ≤ d.toNat ∧ d.toNat < standInBase + 0x800 then
    some (d.toNat - standInBase + 0xD800)
  else none

/-- The code points of a text: its characters, with the two that stand for a half together. -/
def codePoints : List Char → List (List Char)
  | [] => []
  | [c] => [[c]]
  | c :: d :: r => if (half? c d).isSome then [c, d] :: codePoints r else [c] :: codePoints (d :: r)

/-- Whether no half stands by itself in a text. -/
def isWhole (s : String) : Bool := (codePoints s.toList).all fun p => p.length = 1

/-- A text in which three replacement characters stand for a half, one for each byte that its
number would take. -/
def replaceHalves (s : String) : String :=
  String.ofList ((codePoints s.toList).flatMap fun p =>
    if p.length = 1 then p else List.replicate 3 '\uFFFD')

/-- The character of a surrogate pair. -/
def pairChar (high low : Nat) : Char :=
  Char.ofNat (0x10000 + (high - 0xD800) * 0x400 + (low - 0xDC00))

/-- The characters of a list of code units, after a high surrogate (`pending`) or not. -/
def joinFrom : (pending : Option Nat) → List Nat → List Char
  | none, [] => []
  | some high, [] => unitChars high
  | none, n :: r =>
    if isHighSurrogate n then joinFrom (some n) r else unitChars n ++ joinFrom none r
  | some high, n :: r =>
    if isLowSurrogate n then pairChar high n :: joinFrom none r
    else if isHighSurrogate n then unitChars high ++ joinFrom (some n) r
    else unitChars high ++ unitChars n ++ joinFrom none r

/-- The characters of a list of code units. -/
def joinUnits (units : List Nat) : List Char := joinFrom none units

end Dialogue.Text
