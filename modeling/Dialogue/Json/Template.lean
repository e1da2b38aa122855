import Dialogue.Json.Display
import Dialogue.Number.Numeral
import Dialogue.Number.Places

/-!
# Templates

A template is a text with marks, each of which stands for a value. A mark is a percent sign with
* the name of an entry in round brackets, if the values are the entries of an object;
* flags: `-` left, `+` and blank sign, `#` full form, `0` zeros in front;
* a width, and after a point a precision, each a number or `*` for the next value;
* a letter that is passed over (`h`, `l` or `L`);
* a letter for the kind of text.

Two percent signs, with nothing between them, stand for one.

* `Piece`, `pieces`: the parts of a template;
* `Mark.fill`: the text that takes the place of a mark;
* `fillTemplate`: the text of a template; there is none if the values do not fit the marks.
-/

namespace Dialogue.Json

open Number Text

/-! ### Reading templates -/

/-- A width or a precision. -/
inductive Amount
  | number (n : Nat)
  | next
  deriving DecidableEq

/-- A mark of a template. -/
structure Mark where
  name : Option String
  flags : List Char
  width : Option Amount
  precision : Option Amount
  kind : Char
  deriving DecidableEq

/-- A part of a template. -/
inductive Piece
  | plain (c : Char)
  | mark (m : Mark)
  deriving DecidableEq

/-- What stands before the bracket that closes `depth` open ones and the present one, and what
follows it. -/
def bracketed : (depth : Nat) → List Char → Option (List Char × List Char)
  | _, [] => none
  | 0, ')' :: r => some ([], r)
  | depth + 1, ')' :: r => (bracketed depth r).map fun x => (')' :: x.1, x.2)
  | depth, '(' :: r => (bracketed (depth + 1) r).map fun x => ('(' :: x.1, x.2)
  | depth, c :: r => (bracketed depth r).map fun x => (c :: x.1, x.2)

/-- Whether a character is a flag. -/
def isFlag (c : Char) : Bool := ['-', '+', ' ', '#', '0'].contains c

/-- An amount at the front of a text, if there is one, and what follows it. -/
def Amount.read : List Char → Option Amount × List Char
  | '*' :: r => (some .next, r)
  | s =>
    match s.takeWhile Char.isDigit with
    | [] => (none, s)
    | digits => (some (.number (ofDigits digits)), s.dropWhile Char.isDigit)

/-- The name of a mark, if there is one, and what follows it. -/
def Mark.readName : List Char → Option (Option String × List Char)
  | '(' :: r => (bracketed 0 r).map fun x => (some (String.ofList x.1), x.2)
  | s => some (none, s)

/-- The precision of a mark, if there is one, and what follows it. A point alone is a precision
of zero. -/
def Mark.readPrecision : List Char → Option Amount × List Char
  | '.' :: r =>
    let (amount, rest) := Amount.read r
    (some (amount.getD (.number 0)), rest)
  | s => (none, s)

/-- A text without the letter at its front that is passed over. -/
def Mark.skipLetter : List Char → List Char
  | 'h' :: r => r
  | 'l' :: r => r
  | 'L' :: r => r
  | s => s

/-- A mark, without its percent sign, at the front of a text, and what follows it. -/
def Mark.read (s : List Char) : Option (Mark × List Char) := do
  let (name, s) ← readName s
  let (width, r) := Amount.read (s.dropWhile isFlag)
  let (precision, r) := readPrecision r
  match skipLetter r with
  | [] => none
  | kind :: r => some (⟨name, s.takeWhile isFlag, width, precision, kind⟩, r)

/-- The parts of a template, of which there are at most `fuel`. -/
def piecesFrom : (fuel : Nat) → List Char → Option (List Piece)
  | _, [] => some []
  | 0, _ => none
  | fuel + 1, '%' :: '%' :: r => (.plain '%' :: ·) <$> piecesFrom fuel r
  | fuel + 1, '%' :: r => do
    let (m, r) ← Mark.read r
    (.mark m :: ·) <$> piecesFrom fuel r
  | fuel + 1, c :: r => (.plain c :: ·) <$> piecesFrom fuel r

/-- The parts of a template. -/
def pieces (s : List Char) : Option (List Piece) := piecesFrom s.length s

/-! ### Values at marks -/

/-- The text of a value before it is laid out: a number has a sign, a sign for its base, and
digits. -/
inductive Body
  | text (s : List Char)
  | number (negative : Bool) (base : List Char) (digits : List Char)
  deriving DecidableEq

/-- An integer, or the number of a constant. -/
def int? : Json → Option Int
  | .int n => some n
  | .bool b => some (if b then 1 else 0)
  | _ => none

/-- An integer, for which a double loses its places. -/
def truncated? : Json → Option Int
  | .float x => x.truncated?
  | j => j.int?

/-- A double, or the double nearest to an integer. -/
def double? : Json → Option Binary64
  | .float x => some x
  | j => j.int?.bind Binary64.ofInt?

/-- A string of one code point, or a code point by its number. -/
def codePoint? : Json → Option (List Char)
  | .str s =>
    match codePoints s.toList with
    | [p] => some p
    | _ => none
  | j =>
    match j.int? with
    | some n => if 0 ≤ n ∧ n < 0x110000 then some (unitChars n.toNat) else none
    | none => none

/-- A text of the characters of one byte at most, others being written as code points. -/
def narrow (s : String) : List Char :=
  s.toList.flatMap fun c => if c.toNat < 0x80 then [c] else hexEscape c.toNat

/-- A number to a base, with at least so many digits. -/
def based (base : Nat) (sign : List Char) (full : Bool) (least : Nat) (n : Int) : Body :=
  .number (decide (n < 0)) (if full then sign else [])
    (padZeros least (String.ofList (Nat.toDigits base n.natAbs))).toList

/-- A number in capital letters. -/
def Body.capital : Body → Body
  | .number negative base digits =>
    .number negative (base.map Char.toUpper) (digits.map Char.toUpper)
  | .text s => .text s

/-- A double in a style. -/
def placed (style : Style) (places : Option Nat) (full : Bool) (x : Binary64) : Body :=
  .number x.isNegative [] (x.write style (places.getD 6) full)

/-- A text of at most so many characters. -/
def shortened (most : Option Nat) (s : List Char) : Body :=
  .text (match most with
    | some n => ((codePoints s).take n).flatten
    | none => s)

/-- The text of a value of a kind; none if there is no such kind, or the value is not of it. -/
def body (kind : Char) (full : Bool) (precision : Option Nat) (j : Json) : Option Body :=
  let least := precision.getD 0
  match kind with
  | 's' => some (shortened precision j.display.toList)
  | 'r' => some (shortened precision j.literal.toList)
  | 'a' => some (shortened precision (narrow j.literal))
  | 'c' => j.codePoint?.map .text
  | 'd' => j.truncated?.map (based 10 [] false least)
  | 'i' => j.truncated?.map (based 10 [] false least)
  | 'u' => j.truncated?.map (based 10 [] false least)
  | 'o' => j.int?.map (based 8 ['0', 'o'] full least)
  | 'x' => j.int?.map (based 16 ['0', 'x'] full least)
  | 'X' => j.int?.map fun n => (based 16 ['0', 'x'] full least n).capital
  | 'f' => j.double?.map (placed .fixed precision full)
  | 'F' => j.double?.map fun x => (placed .fixed precision full x).capital
  | 'e' => j.double?.map (placed .exponent precision full)
  | 'E' => j.double?.map fun x => (placed .exponent precision full x).capital
  | 'g' => j.double?.map (placed .general precision full)
  | 'G' => j.double?.map fun x => (placed .general precision full x).capital
  | _ => none

/-- The sign of a number. -/
def signOf (flags : List Char) (negative : Bool) : List Char :=
  if negative then ['-']
  else if flags.contains '+' then ['+']
  else if flags.contains ' ' then [' ']
  else []

/-- A body in a field of a width. Zeros in front of a number stand after its signs. -/
def Body.layOut (flags : List Char) (width : Nat) (left : Bool) (b : Body) : List Char :=
  let (signs, rest) :=
    match b with
    | .text s => ([], s)
    | .number negative base digits => (signOf flags negative ++ base, digits)
  let free := width - (codePoints (signs ++ rest)).length
  match left, b with
  | true, _ => signs ++ rest ++ List.replicate free ' '
  | false, .number _ _ _ =>
    if flags.contains '0' then signs ++ List.replicate free '0' ++ rest
    else List.replicate free ' ' ++ signs ++ rest
  | false, .text _ => List.replicate free ' ' ++ rest

/-! ### Filling templates -/

/-- The bound on widths and precisions. -/
def amountBound : Nat := 0x80000000

/-- An amount within the bound. -/
def bounded (n : Int) : Option Int := if n.natAbs < amountBound then some n else none

/-- The number of an amount, and the values that are left after it. -/
def Amount.resolve : Option Amount → List Json → Option (Option Int × List Json)
  | none, values => some (none, values)
  | some (.number n), values => (bounded n).map fun n => (some n, values)
  | some .next, [] => none
  | some .next, j :: r => (j.int?.bind bounded).map fun n => (some n, r)

/-- The values that a mark draws from: that of its entry, or those that are left. -/
def Mark.values (entries : Option (List (String × Json))) (values : List Json) (m : Mark) :
    Option (List Json) :=
  match m.name, entries with
  | none, _ => some values
  | some _, none => none
  | some name, some entries => (entries.lookup name).map ([·])

/-- The text at a mark, and the values that are left after it. -/
def Mark.fill (entries : Option (List (String × Json))) (values : List Json) (m : Mark) :
    Option (List Char × List Json) := do
  let values ← m.values entries values
  let (width, values) ← Amount.resolve m.width values
  let (precision, values) ← Amount.resolve m.precision values
  match values with
  | [] => none
  | j :: r => do
    let b ← j.body m.kind (m.flags.contains '#') (precision.map Int.toNat)
    let width := width.getD 0
    some (b.layOut m.flags width.natAbs (m.flags.contains '-' || decide (width < 0)), r)

/-- The text of the parts of a template. Every value must be used, except that entries need not
be. -/
def fillPieces (entries : Option (List (String × Json))) (values : List Json) :
    List Piece → Option (List Char)
  | [] => if entries.isSome || values.isEmpty then some [] else none
  | .plain c :: r => (c :: ·) <$> fillPieces entries values r
  | .mark m :: r => do
    let (s, values) ← m.fill entries values
    (s ++ ·) <$> fillPieces entries values r

/-- The text of a template. A single object that is not empty gives its entries. -/
def fillTemplate (template : String) (values : List Json) : Option String := do
  let parts ← pieces template.toList
  let entries :=
    match values with
    | [.obj (e :: r)] => some (e :: r)
    | _ => none
  String.ofList <$> fillPieces entries values parts

end Dialogue.Json
