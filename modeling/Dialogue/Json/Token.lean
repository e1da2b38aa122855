import Dialogue.Json.Value
import Dialogue.Text.CodeUnits

/-!
# The lexemes of a JSON text

A text is cut into brackets, braces, commas, colons, strings, numbers and words, each with
the place where it starts; blanks between them are dropped.

* A string runs to the next double quote. Control characters may not stand in it, and a
  backslash starts one of the escapes of the format.
* A number is the longest text of the form sign, digits without leading zeros, fraction,
  exponent.
* The words are `null`, `true`, `false`, `NaN`, `Infinity` and `-Infinity`.

What is no lexeme ends the list, and so does the end of the text (`tokens`). A string that
is cut short or has a bad escape is a lexeme of its own, with the fault and its place.
-/

namespace Dialogue.Json

open Number Text

/-- What can be wrong inside a string. -/
inductive StringFault
  | unterminated
  | controlCharacter
  | escape
  | codeUnit
  deriving DecidableEq

/-- A lexeme. -/
inductive Token
  | openList
  | closeList
  | openObject
  | closeObject
  | comma
  | colon
  | string (value : String)
  | badString (fault : StringFault) (place : Nat)
  | integer (negative : Bool) (digits : List Char)
  | scalar (value : Json)
  | unknown
  | finish
  deriving DecidableEq

/-- The blanks between lexemes. -/
def isSpace (c : Char) : Bool := c = ' ' || c = '\t' || c = '\n' || c = '\r'

/-! ### Strings -/

/-- The value of a hexadecimal digit. -/
def hexValue (c : Char) : Option Nat :=
  if '0' ≤ c ∧ c ≤ '9' then some (c.toNat - 48)
  else if 'a' ≤ c ∧ c ≤ 'f' then some (c.toNat - 87)
  else if 'A' ≤ c ∧ c ≤ 'F' then some (c.toNat - 55)
  else none

/-- The value of four hexadecimal digits. -/
def codeUnit (a b c d : Char) : Option Nat := do
  let w ← hexValue a
  let x ← hexValue b
  let y ← hexValue c
  let z ← hexValue d
  return ((w * 16 + x) * 16 + y) * 16 + z

/-- The character that an escape of one letter stands for. -/
def simpleEscape : Char → Option Char
  | '"' => some '"'
  | '\\' => some '\\'
  | '/' => some '/'
  | 'b' => some '\x08'
  | 'f' => some '\x0c'
  | 'n' => some '\n'
  | 'r' => some '\r'
  | 't' => some '\t'
  | _ => none

/-- The rest of a string after its opening quote at `start`, read from `place`: the lexeme,
and the place after it. `units` holds the code units read so far, last first. -/
def scanString (start : Nat) : (place : Nat) → (units : List Nat) → List Char → Token × Nat
  | place, _, [] => (.badString .unterminated start, place)
  | place, units, '"' :: _ =>
    (.string (String.ofList (joinUnits units.reverse)), place + 1)
  | place, _, ['\\'] => (.badString .unterminated start, place)
  | place, units, '\\' :: 'u' :: a :: b :: c :: d :: e :: r =>
    match codeUnit a b c d with
    | some n => scanString start (place + 6) (n :: units) (e :: r)
    | none => (.badString .codeUnit (place + 1), place)
  | place, _, '\\' :: 'u' :: _ => (.badString .codeUnit (place + 1), place)
  | place, units, '\\' :: c :: r =>
    match simpleEscape c with
    | some d => scanString start (place + 2) (d.toNat :: units) r
    | none => (.badString .escape place, place)
  | place, units, c :: r =>
    if c.toNat < 0x20 then (.badString .controlCharacter place, place)
    else scanString start (place + 1) (c.toNat :: units) r

/-! ### Numbers -/

/-- Whether a character is one of the ten digits. -/
def isDigit (c : Char) : Bool := decide ('0' ≤ c) && decide (c ≤ '9')

/-- The number that decimal digits stand for. -/
def digitsValue (ds : List Char) : Nat := ds.foldl (fun n c => n * 10 + (c.toNat - 48)) 0

/-- The leading digits of a text, and what follows them. -/
def spanDigits (s : List Char) : List Char × List Char := (s.takeWhile isDigit, s.dropWhile isDigit)

/-- The digits of a whole number: a single zero, or digits that do not start with zero. -/
def spanWhole : List Char → List Char × List Char
  | '0' :: r => (['0'], r)
  | s => spanDigits s

/-- The digits after a decimal point, none if there is no such fraction. -/
def spanFraction : List Char → List Char × List Char
  | '.' :: r =>
    match spanDigits r with
    | ([], _) => ([], '.' :: r)
    | (ds, t) => (ds, t)
  | s => ([], s)

/-- The sign of an exponent, and what follows it. -/
def spanSign : List Char → Bool × List Char
  | '-' :: r => (true, r)
  | '+' :: r => (false, r)
  | s => (false, s)

/-- An exponent, none if there is no such part. -/
def spanExponent : List Char → Option Int × List Char
  | c :: r =>
    if c = 'e' || c = 'E' then
      match spanSign r with
      | (negative, t) =>
        match spanDigits t with
        | ([], _) => (none, c :: r)
        | (ds, u) => (some (if negative then -(digitsValue ds : Int) else digitsValue ds), u)
    else (none, c :: r)
  | [] => (none, [])

/-- A number without its sign, and what follows it; none if no digit comes first. -/
def scanNumber (negative : Bool) (s : List Char) : Option (Token × List Char) :=
  match spanWhole s with
  | ([], _) => none
  | (whole, r) =>
    match spanFraction r with
    | (fraction, t) =>
      match spanExponent t with
      | (exponent, u) =>
        if fraction.isEmpty && exponent.isNone then some (.integer negative whole, u)
        else
          let digits := digitsValue (whole ++ fraction)
          let e := exponent.getD 0 - fraction.length
          some (.scalar (.float (Binary64.ofDecimal negative digits e)), u)

/-! ### Lexemes -/

/-- The words of the format and their values. -/
def words : List (List Char × Json) := [
  ("null".toList, .null), ("true".toList, .bool true), ("false".toList, .bool false),
  ("NaN".toList, .float .nan), ("Infinity".toList, .float (.infinite false)),
  ("-Infinity".toList, .float (.infinite true))]

/-- The word at the front of a text, and its length. -/
def scanWord (s : List Char) : Option (Token × Nat) :=
  (words.find? fun w => w.1.isPrefixOf s).map fun w => (.scalar w.2, w.1.length)

/-- A number at the front of a text, and its length. -/
def scanSigned (s : List Char) : Option (Token × Nat) :=
  let found :=
    match s with
    | '-' :: r => scanNumber true r
    | _ => scanNumber false s
  found.map fun (t, r) => (t, s.length - r.length)

/-- The lexeme that starts with the character `c` at `place`, and its length; none if no
lexeme starts here. -/
def scan (place : Nat) (c : Char) (r : List Char) : Option (Token × Nat) :=
  match c with
  | '[' => some (.openList, 1)
  | ']' => some (.closeList, 1)
  | '\x7b' => some (.openObject, 1)
  | '\x7d' => some (.closeObject, 1)
  | ',' => some (.comma, 1)
  | ':' => some (.colon, 1)
  | '"' =>
    match scanString place (place + 1) [] r with
    | (t, stop) => some (t, stop - place)
  | _ => (scanSigned (c :: r)).or (scanWord (c :: r))

/-- The lexemes of a text from `place` on, of which the first `skip` characters belong to the
lexeme before. -/
def tokensFrom : (skip place : Nat) → List Char → List (Nat × Token)
  | _, place, [] => [(place, .finish)]
  | skip + 1, place, _ :: r => tokensFrom skip (place + 1) r
  | 0, place, c :: r =>
    if isSpace c then tokensFrom 0 (place + 1) r
    else
      match scan place c r with
      | none => [(place, .unknown)]
      | some (.badString fault at_, _) => [(place, .badString fault at_)]
      | some (t, length) => (place, t) :: tokensFrom (length - 1) (place + 1) r

/-- The lexemes of a text, with their places. -/
def tokens (s : List Char) : List (Nat × Token) := tokensFrom 0 0 s

end Dialogue.Json
