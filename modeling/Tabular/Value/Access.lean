import Tabular.Failure

/-!
This module takes dynamic values apart where a certain form is asked for.
-/

namespace Tabular.Value

/-- This function gives the values over which a loop runs. -/
def items (value : Value) : Except Failure (List Value) :=
  match value.elements? with
  | some items => pure items
  | none => throw .wrongType

/-- This function gives the only name of a text, or the items of any other value. -/
def nameList (value : Value) : Except Failure (List Value) :=
  match value with
  | .text _ => pure [value]
  | _ => value.items

def asText (value : Value) : Except Failure String :=
  match value with
  | .text content => pure content
  | _ => throw .wrongType

/-- This function joins texts with commas and refuses any other value. -/
def commaList (values : List Value) : Except Failure String := do
  pure (String.intercalate ", " (← values.mapM asText))

/-- This function gives the entry of a mapping that has to be there. -/
def member (value : Value) (key : String) : Except Failure Value :=
  match value with
  | .map entries =>
      match Keyed.get? entries (.text key) with
      | some found => pure found
      | none => throw (.key (.text key))
  | _ => throw .wrongType

/-- This function gives the entries of a mapping. -/
def entries (value : Value) : Except Failure (List (Value × Value)) :=
  match value with
  | .map entries => pure entries
  | _ => throw .missingAttribute

/-- This function reads one pair of a list of pairs. -/
def pair (index : Nat) (value : Value) : Except Failure (Value × Value) := do
  match ← value.items with
  | [key, found] => if key.isKey then pure (key, found) else throw .wrongType
  | items => throw (.pairLength index items.length)

def pairs : Nat → List Value → Except Failure (List (Value × Value))
  | _, [] => pure []
  | index, value :: rest => do
      let first ← pair index value
      pure (first :: (← pairs (index + 1) rest))

/-- This function makes a mapping from a mapping or from a list of pairs. -/
def asMap (value : Value) : Except Failure (List (Value × Value)) :=
  match value with
  | .map entries => pure entries
  | _ => do pure (Keyed.ofEntries (← pairs 0 (← value.items)))

/-- This function gives the entry of the first key that is present. -/
def pick (entries : List (Value × Value)) (keys : List String) : Option Value :=
  keys.findSome? fun key => Keyed.get? entries (.text key)

end Tabular.Value
