/-!
# Letters that move by a fixed distance

A case table says of runs of letters how far away their other case lies.

* `Shift`: every `step`-th code point from `first` to `last` moves by `offset`;
* `shiftBy`: a character moved by the run that holds it, or left where it is.
-/

namespace Dialogue.Text

/-- A run of code points that move by one distance. -/
structure Shift where
  first : Nat
  last : Nat
  step : Nat
  offset : Int
  deriving DecidableEq

/-- Whether a run holds a code point. -/
def Shift.holds (s : Shift) (n : Nat) : Bool :=
  decide (s.first ≤ n) && decide (n ≤ s.last) && decide ((n - s.first) % s.step = 0)

/-- Move a character by the run that holds it. -/
def shiftBy (table : List Shift) (c : Char) : Char :=
  match table.find? (·.holds c.toNat) with
  | some s => Char.ofNat (c.toNat + s.offset).toNat
  | none => c

end Dialogue.Text
