/-! Sets of characters given by ascending ranges of code points, both ends included. -/

namespace ToolSchema.Text

abbrev CodeRanges := List (Nat × Nat)

def CodeRanges.contains (ranges : CodeRanges) (c : Char) : Bool :=
  ranges.any fun range => range.1 ≤ c.toNat && c.toNat ≤ range.2

end ToolSchema.Text
