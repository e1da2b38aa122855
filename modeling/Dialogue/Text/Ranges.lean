/-!
# Sets of characters by code point

* `Ranges`: a list of closed intervals of code points;
* `Ranges.has`: membership of a character.
-/

namespace Dialogue.Text

/-- Closed intervals of code points. -/
abbrev Ranges := List (Nat × Nat)

/-- Whether some interval holds the character. -/
def Ranges.has (rs : Ranges) (c : Char) : Bool :=
  rs.any fun r => decide (r.1 ≤ c.toNat) && decide (c.toNat ≤ r.2)

end Dialogue.Text
