import Dialogue.Number.Binary64

/-!
# The decimal text of a double

A double is written with the fewest digits that read back as that double; of those digit
strings the nearest one is taken, and of two equally near ones that with an even last digit.

* `Magnitude.reads`: whether a decimal reads back as a magnitude;
* `Magnitude.shortest`: digits and exponent of the written decimal, found on the coarsest
  power of ten of which some multiple reads back;
* `Layout`: where positional writing ends, and how an exponent is written;
* `Binary64.text`: the text, with positions from `1e-04` up to sixteen digits.
-/

namespace Dialogue.Number

/-- A decimal: `digits * 10 ^ exponent`. -/
structure Decimal where
  digits : Nat
  exponent : Int
  deriving DecidableEq

namespace Magnitude

/-- Four times the magnitude, in units of `2 ^ -1074`. -/
def quarters (x : Magnitude) : Nat := 4 * x.mantissa * pow2 x.scale

/-- The lower end of the numbers that round to `x`, in quarter units. The gap below a power
of two is half of the gap above it. -/
def lowerEnd (x : Magnitude) : Nat :=
  if x.mantissa = pow2 52 ∧ x.scale ≠ 0 then (4 * x.mantissa - 1) * pow2 x.scale
  else (4 * x.mantissa - 2) * pow2 x.scale

/-- The upper end of the numbers that round to `x`, in quarter units. -/
def upperEnd (x : Magnitude) : Nat := (4 * x.mantissa + 2) * pow2 x.scale

/-- Both factors that make `c * 10 ^ p` and a number of quarter units comparable: the first
belongs to `c`, the second to the quarter units. -/
def factors (p : Int) : Nat × Nat :=
  if 0 ≤ p then (pow10 p.toNat * pow2 1076, 1) else (pow2 1076, pow10 (-p).toNat)

/-- Whether `c * 10 ^ p` rounds to `x`; the ends of the interval do if the mantissa is even. -/
def reads (x : Magnitude) (c : Nat) (p : Int) : Bool :=
  let (f, g) := factors p
  let low := x.lowerEnd * g
  let high := x.upperEnd * g
  if x.mantissa % 2 = 0 then decide (low ≤ c * f) && decide (c * f ≤ high)
  else decide (low < c * f) && decide (c * f < high)

/-- The multiple of `10 ^ p` that reads back as `x` and is nearest to it. -/
def onGrid (x : Magnitude) (p : Int) : Option Nat :=
  let (f, g) := factors p
  let c := x.quarters * g / f
  match x.reads c p, x.reads (c + 1) p with
  | false, false => none
  | true, false => some c
  | false, true => some (c + 1)
  | true, true => some (roundDiv (x.quarters * g) f)

/-- Search the powers of ten from `10 ^ p` downwards for one with a multiple that reads back. -/
def search (x : Magnitude) : Nat → Int → Decimal
  | 0, p => ⟨0, p⟩
  | fuel + 1, p =>
    match x.onGrid p with
    | some c => ⟨c, p⟩
    | none => x.search fuel (p - 1)

/-- The shortest decimal that reads back as a magnitude other than zero. -/
def shortest (x : Magnitude) : Decimal := x.search 660 310

end Magnitude

/-- How decimals are written: positionally while the decimal point stands after at least
`least` and at most `most` digits, else with an exponent of at least `width` digits. -/
structure Layout where
  least : Int
  most : Int
  width : Nat

/-- Positions down to three zeros after the point and up to sixteen digits before it; an
exponent has a sign and at least two digits. -/
def plainLayout : Layout := ⟨-3, 16, 2⟩

/-- A text filled up with zeros on the left. -/
def padZeros (width : Nat) (s : String) : String :=
  String.ofList (List.replicate (width - s.length) '0') ++ s

/-- A decimal of the given digits, of which `point` stand before the decimal point. -/
def Layout.write (f : Layout) (digits : List Char) (point : Int) : String :=
  let zeros (n : Nat) := List.replicate n '0'
  if f.least ≤ point ∧ point ≤ f.most then
    if point ≤ 0 then String.ofList ('0' :: '.' :: zeros (-point).toNat ++ digits)
    else if digits.length ≤ point.toNat then
      String.ofList (digits ++ zeros (point.toNat - digits.length) ++ ['.', '0'])
    else String.ofList (digits.take point.toNat ++ '.' :: digits.drop point.toNat)
  else
    let fraction := if digits.length ≤ 1 then [] else '.' :: digits.drop 1
    let e := point - 1
    String.ofList (digits.take 1 ++ fraction ++ ['e', if e < 0 then '-' else '+'])
      ++ padZeros f.width (toString e.natAbs)

/-- The text of a double. -/
def Binary64.text : Binary64 → String
  | .nan => "nan"
  | .infinite negative => if negative then "-inf" else "inf"
  | .finite negative x =>
    let size :=
      if x.mantissa = 0 then "0.0"
      else
        let d := x.shortest
        let digits := Nat.toDigits 10 d.digits
        plainLayout.write digits (digits.length + d.exponent)
    if negative then "-" ++ size else size

end Dialogue.Number
