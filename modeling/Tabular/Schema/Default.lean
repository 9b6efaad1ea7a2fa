import Tabular.Schema.Definition

/-!
This module reads the defaults that the database reports and compares them with declared ones.
-/

namespace Tabular

/-- What of a default counts when two are compared. -/
inductive DefaultKey where
  | none
  | number (value : Binary64)
  | text (literal : String)
  | other (literal : String)
  deriving DecidableEq

namespace DefaultKey

/-- This function gives the key of a rounded number. One that was too great has none. -/
def ofRounded (rounded : Option Binary64) : Except Failure DefaultKey :=
  match rounded with
  | some value => pure (.number value)
  | .none => throw .floatOverflow

/-- This function gives the key of a default. Numbers are compared as floating-point numbers. -/
def ofValue (default : Value) : Except Failure DefaultKey :=
  match default with
  | .null => pure .none
  | .float value => pure (.number value)
  | .text value => pure (.text (Text.sqlLiteral value))
  | value =>
      match value.integer? with
      | some whole => ofRounded (Binary64.ofInt? whole)
      | .none => pure (.other value.literal)

def same : DefaultKey → DefaultKey → Bool
  | .number first, .number second => first.equal second
  | .number _, _ | _, .number _ => false
  | first, second => first == second

def toValue : DefaultKey → Value
  | .none => .tuple [.text "none"]
  | .number value => .tuple [.text "number", .float value]
  | .text literal => .tuple [.text "text", .text literal]
  | .other literal => .tuple [.text "other", .text literal]

end DefaultKey

namespace Text

/-- This function replaces each pair of quotes by one quote. -/
def halveQuotes (quote : Char) : List Char → List Char
  | first :: second :: rest =>
      if first = quote ∧ second = quote then quote :: halveQuotes quote rest
      else first :: halveQuotes quote (second :: rest)
  | cs => cs

/-- This function gives the text inside a quoted literal. -/
def unquoted? : List Char → Option (List Char)
  | first :: rest =>
      if (first = '\'' ∨ first = '"') ∧ rest.getLast? = some first then
        some (halveQuotes first rest.dropLast)
      else none
  | [] => none

end Text

/-- This function reads a default as it is reported. Text that is neither quoted nor a number is
an expression and is kept as it is. -/
def readDefault (reported : String) : Value :=
  match Text.unquoted? reported.toList with
  | some content => .text (String.ofList content)
  | none =>
      match IntegerText.read reported with
      | .value whole => .int whole
      | _ =>
          match Binary64.read? reported with
          | some value => .float value
          | none => .text reported

example : readDefault "'it''s'" = .text "it's" := by decide +kernel

example : readDefault "-1" = .int (-1) ∧ readDefault "CURRENT_TIME" = .text "CURRENT_TIME" := by
  decide +kernel

end Tabular
