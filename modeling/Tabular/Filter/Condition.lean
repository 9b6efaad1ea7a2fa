import Tabular.Filter.Reader

/-!
This module writes filters as SQL conditions and binds their operands from left to right.
-/

namespace Tabular.Filter

mutual

/-- This step writes a filter. A comparison and a list stand in brackets, a conjunction does not. -/
def condition : Filter → Binding String
  | .comparison column comparator operand => do
      let placeholder ← Binding.add operand
      pure ("(" ++ column ++ " " ++ comparator.symbol ++ " " ++ placeholder ++ ")")
  | .logical connective operands => do
      let parts ← conditions operands
      pure ("(" ++ String.intercalate connective.symbol parts ++ ")")
  | .conjunction terms => do
      let parts ← conditions terms
      pure (String.intercalate Connective.all.symbol parts)

def conditions : List Filter → Binding (List String)
  | [] => pure []
  | filter :: rest => do
      let first ← condition filter
      pure (first :: (← conditions rest))

end

/-- This step reads a filter and writes it. -/
def compile (value : Value) : Binding String := do
  let filter ← (read value : Except Failure Filter)
  condition filter

end Tabular.Filter
