/-!
Sets of code points, held as ascending ranges with both ends included.
-/

namespace EchoFilter

/-- Ranges of code points, each with both its ends. -/
abbrev CodePoints := List (Nat × Nat)

namespace CodePoints

/-- A character belongs to a set when one of the ranges holds its code point. -/
def has (ranges : CodePoints) (c : Char) : Bool :=
  ranges.any fun r => r.1 ≤ c.toNat && c.toNat ≤ r.2

end CodePoints

end EchoFilter
