/-!
# Double precision numbers

A double is not a number, or infinite, or a signed multiple of a power of two.

* `Magnitude`: a mantissa of at most 53 bits times `2 ^ (scale - 1074)`, in the one form
  where the mantissa has 53 bits or the scale is zero;
* `Magnitude.ofRatio`: the magnitude nearest to a quotient, of two equally near ones that
  with the even mantissa;
* `Binary64`: a signed magnitude, an infinity, or not a number;
* `Binary64.ofDecimal`: the double nearest to a decimal.
-/

namespace Dialogue.Number

/-- A power of two. -/
def pow2 (n : Nat) : Nat := Nat.pow 2 n

/-- A power of ten. -/
def pow10 (n : Nat) : Nat := Nat.pow 10 n

/-- The quotient of `n` by `d`, rounded to the nearest number, a half to the even one. -/
def roundDiv (n d : Nat) : Nat :=
  let q := n / d
  let r := n % d
  if 2 * r < d then q else if d < 2 * r then q + 1 else q + q % 2

/-- A mantissa with the place of its last bit: `mantissa * 2 ^ (scale - 1074)`. -/
structure Magnitude where
  mantissa : Nat
  scale : Nat
  canonical : mantissa < pow2 53 ∧ (scale = 0 ∨ pow2 52 ≤ mantissa)
  deriving DecidableEq

namespace Magnitude

/-- The magnitude of zero. -/
def zero : Magnitude := ⟨0, 0, by decide⟩

/-- The largest scale of a finite double. -/
def maxScale : Nat := 2045

/-- The magnitude nearest to `num / den`; none if it would exceed every finite double. -/
def ofRatio (num den : Nat) : Option Magnitude :=
  let units := num * pow2 1074
  let scale := (units / den).log2 - 52
  let mantissa := roundDiv units (den * pow2 scale)
  let rounded : Magnitude :=
    if h : mantissa < pow2 53 ∧ (scale = 0 ∨ pow2 52 ≤ mantissa) then ⟨mantissa, scale, h⟩
    else ⟨pow2 52, scale + 1, by decide, .inr (by decide)⟩
  if rounded.scale ≤ maxScale then some rounded else none

end Magnitude

/-- A double precision number. -/
inductive Binary64
  | nan
  | infinite (negative : Bool)
  | finite (negative : Bool) (size : Magnitude)
  deriving DecidableEq

namespace Binary64

/-- Whether the number is zero, of either sign. -/
def isZero : Binary64 → Bool
  | .finite _ x => x.mantissa == 0
  | _ => false

/-- The signed magnitude, or the infinity of that sign if there is none. -/
def ofMagnitude? (negative : Bool) : Option Magnitude → Binary64
  | some x => .finite negative x
  | none => .infinite negative

/-- The double nearest to `± digits * 10 ^ exponent`. Exponents far outside the range of
doubles are not evaluated: there the answer is zero or infinite whatever the digits. -/
def ofDecimal (negative : Bool) (digits : Nat) (exponent : Int) : Binary64 :=
  if digits = 0 then .finite negative .zero
  else if 400 < exponent then .infinite negative
  else if exponent < -(digits.log2 + 400 : Nat) then .finite negative .zero
  else if 0 ≤ exponent then
    ofMagnitude? negative (Magnitude.ofRatio (digits * pow10 exponent.toNat) 1)
  else ofMagnitude? negative (Magnitude.ofRatio digits (pow10 (-exponent).toNat))

/-- Whether the number has a minus. -/
def isNegative : Binary64 → Bool
  | .nan => false
  | .infinite negative => negative
  | .finite negative _ => negative

/-- The double nearest to an integer; none if that would be infinite. -/
def ofInt? (n : Int) : Option Binary64 :=
  (Magnitude.ofRatio n.natAbs 1).map (.finite (decide (n < 0)))

/-- The value without its places; none if it is not finite. -/
def truncated? : Binary64 → Option Int
  | .finite negative x =>
    let n : Int := (x.mantissa * pow2 x.scale / pow2 1074 : Nat)
    some (if negative then -n else n)
  | _ => none

/-- The value, if it is a whole number. -/
def whole? : Binary64 → Option Int
  | .finite negative x =>
    let units := x.mantissa * pow2 x.scale
    if units % pow2 1074 = 0 then
      let n : Int := (units / pow2 1074 : Nat)
      some (if negative then -n else n)
    else none
  | _ => none

end Binary64

end Dialogue.Number
