import Tabular.Failure

/-!
This module gives the stored form of values and numbers the parameters of one statement. A failed
addition leaves the binder as it was, and the parameters are named `p1`, `p2` and so on.
-/

namespace Tabular

/-- This function gives the stored form of a value. Truth values become one and zero, and dates and
moments become milliseconds. Containers have no stored form. -/
def Value.stored : Value → Except Failure Value
  | .null => pure .null
  | .bool value => pure (.int (if value then 1 else 0))
  | .int value => pure (.int value)
  | .float value => pure (.float value)
  | .text value => pure (.text value)
  | .bytes value => pure (.bytes value)
  | .moment value => pure (.int value.milliseconds)
  | .date value => pure (.int (Moment.midnight value).milliseconds)
  | value => throw (.parameter value)

/-- The values bound so far, in the order of their numbers. -/
structure Binder where
  values : List Value := []
  deriving DecidableEq

namespace Binder

def empty : Binder := {}

def size (binder : Binder) : Nat := binder.values.length

/-- This function names the parameter with the given number. -/
def name (number : Nat) : String := "p" ++ toString number

def placeholder (number : Nat) : String := "$" ++ name number

/-- This function names the values, from the given number on. -/
def named : Nat → List Value → List (Value × Value)
  | _, [] => []
  | number, value :: rest => (.text (name number), value) :: named (number + 1) rest

/-- This function gives the parameters of the statement by name. -/
def parameters (binder : Binder) : Value := .map (named 1 binder.values)

end Binder

/-- A step that binds values. The binder is kept when the step fails. -/
abbrev Binding := ExceptT Failure (StateM Binder)

namespace Binding

/-- This step binds the stored form of a value to the next number and gives its placeholder. -/
def add (value : Value) : Binding String := do
  let stored ← (value.stored : Except Failure Value)
  let binder ← get
  set ({ values := binder.values ++ [stored] } : Binder)
  pure (Binder.placeholder (binder.size + 1))

/-- This function runs a step and keeps the binder also when the step fails. -/
def runWith {α : Type} (step : Binding α) (binder : Binder) : Except Failure α × Binder :=
  (ExceptT.run step).run binder

end Binding

end Tabular
