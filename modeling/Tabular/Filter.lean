import Tabular.Parameter

/-!
This module holds filters, which say which rows a statement is about, and the values that can be
compared with a column.
-/

namespace Tabular

/-- A comparison of a column with a value. -/
inductive Comparator where
  | equal
  | greater
  | less
  | atLeast
  | atMost
  deriving DecidableEq, Repr

def Comparator.symbol : Comparator → String
  | .equal => "="
  | .greater => ">"
  | .less => "<"
  | .atLeast => ">="
  | .atMost => "<="

/-- This function reads the name of a comparison. -/
def Comparator.ofName? : String → Option Comparator
  | "$eq" => some .equal
  | "$gt" => some .greater
  | "$lt" => some .less
  | "$ge" => some .atLeast
  | "$le" => some .atMost
  | _ => none

/-- A list of filters holds when all of them hold, or when some of them holds. -/
inductive Connective where
  | all
  | any
  deriving DecidableEq, Repr

def Connective.symbol : Connective → String
  | .all => " AND "
  | .any => " OR "

/-- This function reads the name of a connective. -/
def Connective.ofName? : String → Option Connective
  | "$and" => some .all
  | "$or" => some .any
  | _ => none

/-- A filter. A conjunction comes from a mapping with several entries. -/
inductive Filter where
  | comparison (column : String) (comparator : Comparator) (operand : Value)
  | logical (connective : Connective) (operands : List Filter)
  | conjunction (terms : List Filter)
  deriving Inhabited, Repr

/-- These values can be compared with a column. A text that begins with a dollar cannot. -/
def Value.isOperand : Value → Bool
  | .text value => value.toList.head? != some '$'
  | .bool _ | .int _ | .float _ | .bytes _ | .date _ | .moment _ => true
  | _ => false

end Tabular
