/-!
Sets of characters as ascending ranges of code points, both ends included.
-/

namespace DocumentSearch.Text

abbrev Ranges := Array (Nat × Nat)

def Ranges.contains (ranges : Ranges) (c : Char) : Bool :=
  ranges.any fun range => range.1 ≤ c.toNat && c.toNat ≤ range.2

end DocumentSearch.Text
