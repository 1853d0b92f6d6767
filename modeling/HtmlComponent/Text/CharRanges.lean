/-!
# Sets of characters by ranges

A character property is given as a list of closed ranges of code points.
-/

namespace HtmlComponent.Text

/-- Closed ranges `(lo, hi)` of code points. -/
abbrev CharRanges : Type := List (Nat × Nat)

/-- Whether the code point of `c` lies in one of the ranges. -/
def CharRanges.has (ranges : CharRanges) (c : Char) : Bool :=
  ranges.any fun r => r.1 ≤ c.toNat && c.toNat ≤ r.2

end HtmlComponent.Text
