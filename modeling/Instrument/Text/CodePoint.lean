/-!
Sets of characters given by intervals of code points.
-/

namespace Instrument.Text

/-- Closed intervals of code points, in increasing order. -/
abbrev CodePoints := List (Nat × Nat)

/-- A character belongs to a set when one of its intervals holds the code point. -/
def CodePoints.has (set : CodePoints) (c : Char) : Bool :=
  set.any fun range => range.1 ≤ c.toNat && c.toNat ≤ range.2

end Instrument.Text
