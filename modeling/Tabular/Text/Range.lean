/-!
This module holds ranges of code points, from which the character classes are built.
-/

namespace Tabular.Text

/-- A range holds the code points from `first` to `last`, both included. -/
structure Range where
  first : Nat
  last : Nat

namespace Range

/-- This function tells whether some range of the list holds the code point. -/
def contains (ranges : List Range) (code : Nat) : Bool :=
  ranges.any fun range => range.first ≤ code && code ≤ range.last

end Range

end Tabular.Text
