import Tabular.Proofs.Filter.Grammar
import Tabular.Filter.Condition
import Tabular.Value.Access

/-!
This module gives conditions a truth value of three. The same mapping can be read directly, as the
filter that is read from it, and as the written condition that is read back.
-/

namespace Tabular

/-- A comparison with a missing value is neither true nor false. -/
inductive Truth where
  | false
  | unknown
  | true
  deriving DecidableEq, Repr

namespace Truth

def both : Truth → Truth → Truth
  | .true, second => second
  | .unknown, .false => .false
  | .unknown, _ => .unknown
  | .false, _ => .false

def either : Truth → Truth → Truth
  | .false, second => second
  | .unknown, .true => .true
  | .unknown, _ => .unknown
  | .true, _ => .true

@[simp] theorem both_true (truth : Truth) : both truth .true = truth := by cases truth <;> rfl

@[simp] theorem either_false (truth : Truth) : either truth .false = truth := by
  cases truth <;> rfl

theorem both_assoc (first second third : Truth) :
    both (both first second) third = both first (both second third) := by
  cases first <;> cases second <;> cases third <;> rfl

/-- This function joins the truth values of a list. -/
def all (truths : List Truth) : Truth := truths.foldr both .true

def any (truths : List Truth) : Truth := truths.foldr either .false

end Truth

/-- An assignment gives a truth value to each column, comparison and bound value. -/
abbrev Assignment := String → String → Value → Truth

/-! ## The direct reading of a mapping -/

namespace Value

/-- These are the names of the comparisons in a mapping. -/
def comparisonSign? : String → Option String
  | "$eq" => some "="
  | "$gt" => some ">"
  | "$lt" => some "<"
  | "$ge" => some ">="
  | "$le" => some "<="
  | _ => none

/-- A comparison is made with the stored form of its operand. -/
def comparisonTruth (assignment : Assignment) (column sign : String) (operand : Value) :
    Option Truth :=
  match operand.stored with
  | .ok stored => some (assignment column sign stored)
  | .error _ => none

/-- This function reads an entry that compares a column. -/
def fieldTruth (assignment : Assignment) (key value : Value) : Option Truth :=
  match key, value with
  | .text column, .map [(.text name, operand)] =>
      (comparisonSign? name).bind fun sign => comparisonTruth assignment column sign operand
  | .text column, value => comparisonTruth assignment column "=" value
  | _, _ => none

/-- This function reads an entry with a list of mappings. -/
def listTruth (key : Value) (truths : Option (List Truth)) : Option Truth :=
  match key with
  | .text "$and" => truths.map Truth.all
  | .text "$or" => truths.map Truth.any
  | _ => none

mutual

/-- A mapping holds when all its entries hold. -/
def truth (assignment : Assignment) : Value → Option Truth
  | .map entries => (entriesTruth assignment entries).map Truth.all
  | _ => none

def entryTruth (assignment : Assignment) (key : Value) : Value → Option Truth
  | .list items => listTruth key (itemsTruth assignment items)
  | .tuple items => listTruth key (itemsTruth assignment items)
  | value => fieldTruth assignment key value

def entriesTruth (assignment : Assignment) : List (Value × Value) → Option (List Truth)
  | [] => some []
  | (key, value) :: rest => do
      let first ← entryTruth assignment key value
      pure (first :: (← entriesTruth assignment rest))

def itemsTruth (assignment : Assignment) : List Value → Option (List Truth)
  | [] => some []
  | item :: rest => do
      let first ← truth assignment item
      pure (first :: (← itemsTruth assignment rest))

end

end Value

/-! ## The reading of a filter -/

namespace Filter

def connectiveTruth : Connective → List Truth → Truth
  | .all => Truth.all
  | .any => Truth.any

mutual

def truth (assignment : Assignment) : Filter → Option Truth
  | .comparison column comparator operand =>
      Value.comparisonTruth assignment column comparator.symbol operand
  | .logical connective operands =>
      (truths assignment operands).map (connectiveTruth connective)
  | .conjunction terms => (truths assignment terms).map Truth.all

def truths (assignment : Assignment) : List Filter → Option (List Truth)
  | [] => some []
  | filter :: rest => do
      let first ← truth assignment filter
      pure (first :: (← truths assignment rest))

end

mutual

/-- A filter can be written when its columns are named, its operands can be stored and its lists
are not empty. -/
def Writable : Filter → Prop
  | .comparison column _ operand => isColumnName column = true ∧ operand.isOperand = true
  | .logical _ operands => operands ≠ [] ∧ AllWritable operands
  | .conjunction terms => terms ≠ [] ∧ AllWritable terms

def AllWritable : List Filter → Prop
  | [] => True
  | filter :: rest => Writable filter ∧ AllWritable rest

end

end Filter

/-! ## The reading of a written condition -/

namespace Condition

mutual

/-- A comparison looks its parameter up by name. -/
def Expression.truth (assignment : Assignment) (parameters : Value) : Expression → Option Truth
  | .single term => term.truth assignment parameters
  | .either term rest => do
      pure ((← term.truth assignment parameters).either (← rest.truth assignment parameters))

def Term.truth (assignment : Assignment) (parameters : Value) : Term → Option Truth
  | .single factor => factor.truth assignment parameters
  | .both factor rest => do
      pure ((← factor.truth assignment parameters).both (← rest.truth assignment parameters))

def Factor.truth (assignment : Assignment) (parameters : Value) : Factor → Option Truth
  | .group inner => inner.truth assignment parameters
  | .comparison column operator number =>
      match parameters.member ("p" ++ toString number) with
      | .ok bound => some (assignment column.text operator.text bound)
      | .error _ => none

end

end Condition

end Tabular
