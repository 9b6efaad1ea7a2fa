import Tabular.Text.Range

/-!
This module holds the blank characters and the removal of blanks at both ends of a text.
-/

namespace Tabular.Text

/-- These are the blank code points: spaces, line ends and the four separator controls. -/
def blanks : List Range :=
  [⟨0x9, 0xd⟩, ⟨0x1c, 0x20⟩, ⟨0x85, 0x85⟩, ⟨0xa0, 0xa0⟩, ⟨0x1680, 0x1680⟩, ⟨0x2000, 0x200a⟩,
   ⟨0x2028, 0x2029⟩, ⟨0x202f, 0x202f⟩, ⟨0x205f, 0x205f⟩, ⟨0x3000, 0x3000⟩]

def isBlank (c : Char) : Bool := Range.contains blanks c.toNat

/-- This function removes the blanks at both ends. -/
def stripList (cs : List Char) : List Char :=
  ((cs.dropWhile isBlank).reverse.dropWhile isBlank).reverse

def strip (s : String) : String := String.ofList (stripList s.toList)

example : strip " a b\u2003\n" = "a b" := by decide

end Tabular.Text
