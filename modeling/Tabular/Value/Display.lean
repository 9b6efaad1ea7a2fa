import Tabular.Text.Quoted
import Tabular.Value

/-!
This module writes values, both as literals for messages and as plain texts.
-/

namespace Tabular.Value

mutual

/-- This function writes a value as a literal. -/
def literal : Value → String
  | .null => "None"
  | .bool value => if value then "True" else "False"
  | .int value => toString value
  | .float value => value.toText
  | .text value => Text.literal value
  | .bytes value => Text.byteLiteral value
  | .list items => "[" ++ String.intercalate ", " (literals items) ++ "]"
  | .tuple items =>
      let close := if items.length = 1 then ",)" else ")"
      "(" ++ String.intercalate ", " (literals items) ++ close
  | .map entries => "\x7b" ++ String.intercalate ", " (entryLiterals entries) ++ "\x7d"
  | .date value => value.literal
  | .moment value => value.literal

def literals : List Value → List String
  | [] => []
  | item :: rest => literal item :: literals rest

def entryLiterals : List (Value × Value) → List String
  | [] => []
  | (key, value) :: rest => (literal key ++ ": " ++ literal value) :: entryLiterals rest

end

/-- This function writes a value as plain text. Texts and dates are written without quotes. -/
def toText : Value → String
  | .text value => value
  | .date value => value.toText
  | .moment value => value.toText
  | value => value.literal

example : literal (.map [("a", .tuple [.int 1])]) = "\x7b'a': (1,)\x7d" := by decide +kernel

end Tabular.Value
