import Dialogue.Json.Token

/-!
# Reading JSON texts

The lexemes of a text are read one after another by a machine with a stack.

* `Mode`: what must come next;
* `Frame`: a list or an object that has been opened and not closed;
* `step`: one lexeme; `run`: all of them;
* `parse`: the value of a text, or the first error with its place;
* `ofText`: the same of a text that must not start with a byte order mark.

A text may be read within `Limits`: reading stops at the first integer of too many digits, and
at the first list or object inside too many others. How many others are too many depends on the
call stack of whoever reads, and is an argument wherever a stored document is read.
-/

namespace Dialogue.Json

open Text

/-- What a syntax error says is wrong. -/
inductive SyntaxFault
  | value
  | key
  | colon
  | comma
  | extraData
  | byteOrderMark
  | string (fault : StringFault)
  deriving DecidableEq

/-- The words for a fault. -/
def SyntaxFault.text : SyntaxFault → String
  | .value => "Expecting value"
  | .key => "Expecting property name enclosed in double quotes"
  | .colon => "Expecting ':' delimiter"
  | .comma => "Expecting ',' delimiter"
  | .extraData => "Extra data"
  | .byteOrderMark => "Unexpected UTF-8 BOM (decode using utf-8-sig)"
  | .string .unterminated => "Unterminated string starting at"
  | .string .controlCharacter => "Invalid control character at"
  | .string .escape => "Invalid \\escape"
  | .string .codeUnit => "Invalid \\uXXXX escape"

/-- A place in a text: lines and columns count from one, the offset from zero. -/
structure Position where
  line : Nat
  column : Nat
  offset : Nat
  deriving DecidableEq

/-- The position of an offset in a text. -/
def Position.of (s : List Char) (offset : Nat) : Position :=
  let before := codePoints (s.take offset)
  ⟨before.count ['\n'] + 1, (before.reverse.takeWhile (· != ['\n'])).length + 1, before.length⟩

/-- Why a text is no value. -/
inductive ReadError
  | malformed (fault : SyntaxFault) (position : Position)
  | longInteger (digits : Nat)
  | tooDeep (isList : Bool)
  deriving DecidableEq

/-- What must come next. -/
inductive Mode
  | value
  | firstItem
  | firstKey
  | nextKey
  | colon (key : String)
  | separator
  | done (value : Json)
  deriving DecidableEq

/-- A list or object that is still open, its last part first. -/
inductive Frame
  | list (items : List Json)
  | object (entries : List (String × Json))
  | entry (entries : List (String × Json)) (key : String)
  deriving DecidableEq

/-- A machine between two lexemes. -/
structure State where
  mode : Mode
  stack : List Frame
  deriving DecidableEq

/-- The machine before the first lexeme. -/
def State.initial : State := ⟨.value, []⟩

/-- Put a finished value where it belongs. -/
def deliver (v : Json) : List Frame → State
  | [] => ⟨.done v, []⟩
  | .list items :: st => ⟨.separator, .list (v :: items) :: st⟩
  | .object entries :: st => ⟨.separator, .object entries :: st⟩
  | .entry entries key :: st => ⟨.separator, .object ((key, v) :: entries) :: st⟩

/-- Why a step fails, before its place has been turned into a position. -/
inductive Stop
  | fault (fault : SyntaxFault) (place : Nat)
  | longInteger (digits : Nat)
  | tooDeep (isList : Bool)
  deriving DecidableEq

/-- The most digits of an integer, and the most lists and objects that may be open at once. -/
structure Limits where
  digits : Nat
  depth : Nat
  deriving DecidableEq

/-- Whether an integer of `n` digits may be read. -/
def allowsDigits (limits : Option Limits) (n : Nat) : Bool :=
  match limits with
  | some l => decide (n ≤ l.digits)
  | none => true

/-- Whether a list or object may be opened when `n` are open. -/
def allowsOpening (limits : Option Limits) (n : Nat) : Bool :=
  match limits with
  | some l => decide (n < l.depth)
  | none => true

/-- A lexeme where a value must come. -/
def stepValue (limits : Option Limits) (st : List Frame) (place : Nat) :
    Token → Except Stop State
  | .openList =>
    if allowsOpening limits st.length then .ok ⟨.firstItem, .list [] :: st⟩
    else .error (.tooDeep true)
  | .openObject =>
    if allowsOpening limits st.length then .ok ⟨.firstKey, .object [] :: st⟩
    else .error (.tooDeep false)
  | .string s => .ok (deliver (.str s) st)
  | .scalar v => .ok (deliver v st)
  | .integer negative digits =>
    if allowsDigits limits digits.length then
      let n : Int := digitsValue digits
      .ok (deliver (.int (if negative then -n else n)) st)
    else .error (.longInteger digits.length)
  | .badString fault at_ => .error (.fault (.string fault) at_)
  | _ => .error (.fault .value place)

/-- A lexeme where a key must come. -/
def stepKey (st : List Frame) (place : Nat) : Token → Except Stop State
  | .string key => .ok ⟨.colon key, st⟩
  | .badString fault at_ => .error (.fault (.string fault) at_)
  | _ => .error (.fault .key place)

/-- A lexeme after a value inside an open list or object. -/
def stepSeparator (place : Nat) : List Frame → Token → Except Stop State
  | .list items :: st, .comma => .ok ⟨.value, .list items :: st⟩
  | .list items :: st, .closeList => .ok (deliver (.arr items.reverse) st)
  | .object entries :: st, .comma => .ok ⟨.nextKey, .object entries :: st⟩
  | .object entries :: st, .closeObject => .ok (deliver (object entries.reverse) st)
  | _, _ => .error (.fault .comma place)

/-- Read one lexeme. -/
def step (limits : Option Limits) (s : State) (place : Nat) (t : Token) : Except Stop State :=
  match s.mode with
  | .value => stepValue limits s.stack place t
  | .firstItem =>
    match s.stack, t with
    | .list items :: st, .closeList => .ok (deliver (.arr items.reverse) st)
    | st, t => stepValue limits st place t
  | .firstKey =>
    match s.stack, t with
    | .object entries :: st, .closeObject => .ok (deliver (object entries.reverse) st)
    | st, t => stepKey st place t
  | .nextKey => stepKey s.stack place t
  | .colon key =>
    match s.stack, t with
    | .object entries :: st, .colon => .ok ⟨.value, .entry entries key :: st⟩
    | _, _ => .error (.fault .colon place)
  | .separator => stepSeparator place s.stack t
  | .done _ => if t = .finish then .ok s else .error (.fault .extraData place)

/-- Read all lexemes. -/
def run (limits : Option Limits) : State → List (Nat × Token) → Except Stop State
  | s, [] => .ok s
  | s, (place, t) :: r =>
    match step limits s place t with
    | .ok s' => run limits s' r
    | .error e => .error e

/-- The value of a text within some limits. -/
def parse (limits : Option Limits) (s : List Char) : Except ReadError Json :=
  match run limits .initial (tokens s) with
  | .ok ⟨.done v, _⟩ => .ok v
  | .ok _ => .error (.malformed .value (.of s s.length))
  | .error (.fault fault place) => .error (.malformed fault (.of s place))
  | .error (.longInteger n) => .error (.longInteger n)
  | .error (.tooDeep isList) => .error (.tooDeep isList)

/-- The most digits of an integer in a stored document. -/
def digitLimit : Nat := 4300

/-- How many lists and objects may be open at once where little of the call stack is in use. -/
def usualDepth : Nat := 988

/-- The limits for stored documents, for a reader whose call stack has room for `depth` lists
and objects inside one another. -/
def documentLimits (depth : Nat) : Limits := ⟨digitLimit, depth⟩

/-- The value of a stored text. -/
def ofText (s : List Char) (depth : Nat := usualDepth) : Except ReadError Json :=
  match s with
  | '\uFEFF' :: _ => .error (.malformed .byteOrderMark (.of s 0))
  | _ => parse (some (documentLimits depth)) s

end Dialogue.Json
