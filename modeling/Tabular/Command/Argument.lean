import Tabular.Json.Reader
import Tabular.Text.Letter

/-!
This module reads the filters, the ordering terms and the column lists that commands take as text.
-/

namespace Tabular.Command

/-- This function reads a filter. An absent or empty text is no filter. -/
def readFilter (text : Option String) : Except Failure Value :=
  match text with
  | none | some "" => pure .null
  | some text => do
      match ← Json.read text with
      | .map entries => pure (.map entries)
      | _ => throw (.filterText text)

/-- This function reads a column, or a column and a direction after a colon. -/
def readOrdering (text : String) : Value :=
  let cs := text.toList
  match cs.dropWhile (· ≠ ':') with
  | [] => .text text
  | _ :: direction =>
      .map [(.text (String.ofList (cs.takeWhile (· ≠ ':'))),
        .text (Text.lower (String.ofList direction)))]

/-- This function splits at every comma. -/
def splitCommas : List Char → List (List Char)
  | [] => [[]]
  | c :: rest =>
      match c, splitCommas rest with
      | ',', parts => [] :: parts
      | _, first :: parts => (c :: first) :: parts
      | _, [] => [[c]]

/-- This function reads a list of columns and leaves out the blank ones. -/
def readColumns (text : Option String) : Option (List String) :=
  match text with
  | none | some "" => none
  | some text =>
      some (((splitCommas text.toList).map fun part => String.ofList (Text.stripList part)).filter
        (· ≠ ""))

example : readColumns (some " a ,, b") = some ["a", "b"] := by decide +kernel

end Tabular.Command
