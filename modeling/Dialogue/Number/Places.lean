import Dialogue.Number.Decimal

/-!
# Doubles with a given number of places

Unlike the shortest text of a double these texts have as many digits as are asked for; the value
is rounded to the nearest such text, a half to the even one.

* `Style.fixed`: so many places after the point;
* `Style.exponent`: one digit, so many places, and an exponent;
* `Style.general`: so many digits in all, positionally unless the exponent is small or large,
  without zeros at the end of the places.

`Magnitude.write` gives the text; on request the point, and in the last style the zeros, are
always written.
-/

namespace Dialogue.Number

/-- How the digits of a double are laid out. -/
inductive Style
  | fixed
  | exponent
  | general
  deriving DecidableEq

/-- A number in decimal digits, of which the last `places` stand after the point. -/
def withPoint (places : Nat) (always : Bool) (n : Nat) : List Char :=
  let digits := (padZeros (places + 1) (toString n)).toList
  let before := digits.length - places
  digits.take before
    ++ if places = 0 && !always then [] else '.' :: digits.drop before

/-- A text with a point, without the zeros at its end; the point goes with the last of them. -/
def withoutTrailingZeros (s : List Char) : List Char :=
  if s.contains '.' then
    let kept := (s.reverse.dropWhile (· == '0')).reverse
    if kept.getLast? = some '.' then kept.dropLast else kept
  else s

/-- An exponent with its sign and at least two digits. -/
def exponentText (e : Int) : List Char :=
  'e' :: (if e < 0 then '-' else '+') :: (padZeros plainLayout.width (toString e.natAbs)).toList

namespace Magnitude

/-- The nearest multiple of `10 ^ -places`, as a number of them. -/
def roundedAt (x : Magnitude) (places : Int) : Nat :=
  let units := x.mantissa * pow2 x.scale
  if 0 ≤ places then roundDiv (units * pow10 places.toNat) (pow2 1074)
  else roundDiv units (pow2 1074 * pow10 (-places).toNat)

/-- The exponent of the first digit. -/
def leadingExponent (x : Magnitude) : Int :=
  let shifted := x.mantissa * pow2 x.scale * pow10 330 / pow2 1074
  ((toString shifted).length : Int) - 331

/-- The nearest number of one digit and so many places, without the point, and its exponent. -/
def scientific (x : Magnitude) (places : Nat) : Nat × Int :=
  if x.mantissa = 0 then (0, 0)
  else
    let e := x.leadingExponent
    let n := x.roundedAt (places - e)
    if n = pow10 (places + 1) then (pow10 places, e + 1) else (n, e)

/-- The text of a magnitude. -/
def write (x : Magnitude) (style : Style) (places : Nat) (always : Bool) : List Char :=
  match style with
  | .fixed => withPoint places always (x.roundedAt places)
  | .exponent =>
    let (n, e) := x.scientific places
    withPoint places always n ++ exponentText e
  | .general =>
    let further := places - 1
    let (n, e) := x.scientific further
    let tidy (s : List Char) := if always then s else withoutTrailingZeros s
    if -4 ≤ e ∧ e ≤ further then tidy (withPoint (further - e).toNat always n)
    else tidy (withPoint further always n) ++ exponentText e

end Magnitude

/-- The text of a double without its sign. -/
def Binary64.write (x : Binary64) (style : Style) (places : Nat) (always : Bool) : List Char :=
  match x with
  | .nan => ['n', 'a', 'n']
  | .infinite _ => ['i', 'n', 'f']
  | .finite _ size => size.write style places always

end Dialogue.Number
