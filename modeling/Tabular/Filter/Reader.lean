import Tabular.Filter

/-!
This module reads filters from mappings. Every value that is no filter is refused with the part of
it that is wrong.
-/

namespace Tabular

namespace Text

def isNameStart (c : Char) : Bool := c.isAlpha || c = '_'

def isNameChar (c : Char) : Bool := c.isAlphanum || c = '_'

/-- This function tells whether the characters are a plain identifier. -/
def isName : List Char → Bool
  | [] => false
  | first :: rest => isNameStart first && rest.all isNameChar

/-- This function tells whether the characters are an identifier, or two with a dot between. -/
def isQualifiedName (cs : List Char) : Bool :=
  match cs.dropWhile (· ≠ '.') with
  | [] => isName cs
  | _ :: rest => isName (cs.takeWhile (· ≠ '.')) && isName rest

/-- This function removes one line end at the end. -/
def dropLineEnd (cs : List Char) : List Char :=
  if cs.getLast? = some '\n' then cs.dropLast else cs

end Text

/-- A column is named by an identifier, or by two with a dot between. One line end may follow. -/
def isColumnName (name : String) : Bool :=
  Text.isQualifiedName name.toList || Text.isQualifiedName (Text.dropLineEnd name.toList)

namespace Filter

def unknownOperator (operator : Value) : String := "unknown operator " ++ operator.toText

/-- This function reads a comparison with a column, where `fragment` is the whole entry. -/
def compare (fragment : Value) (column : String) (comparator : Comparator) (operand : Value) :
    Except Failure Filter :=
  if isColumnName column then pure (.comparison column comparator operand)
  else throw (.filter fragment ("invalid column name " ++ Text.literal column))

/-- This function reads the comparison that an inner mapping stands for. -/
def readComparison (fragment : Value) (column : String) (entries : List (Value × Value)) :
    Except Failure Filter :=
  match entries with
  | [(operator, operand)] =>
      match operator.text?.bind Comparator.ofName? with
      | none => throw (.filter (.map entries) (unknownOperator operator))
      | some comparator =>
          if operand.isOperand then compare fragment column comparator operand
          else throw (.filter operand "")
  | _ => throw (.filter (.map entries) "")

def startsWithDollar (name : String) : Bool := name.toList.head? == some '$'

/-- This function refuses an entry whose value is no operand of its key. -/
def refuseEntry (name : String) (fragment : Value) : Except Failure Filter :=
  throw (.filter fragment (if startsWithDollar name then unknownOperator name else ""))

def emptyOperands (name : String) : String := name ++ " expects a non-empty list"

/-- This function joins the operands of a list, which it has already read, under its key. -/
def joinOperands (key value : Value) (operands : Except Failure (List Filter)) :
    Except Failure Filter :=
  match key with
  | .text name =>
      match Connective.ofName? name with
      | some connective =>
          if value.isTrue then operands.map (.logical connective)
          else throw (.filter (.map [(key, value)]) (emptyOperands name))
      | none => refuseEntry name (.map [(key, value)])
  | _ => throw (.filter (.map [(key, value)]) "")

/-- This function reads an entry whose value is no list. -/
def readField (key value : Value) : Except Failure Filter :=
  match key with
  | .text name =>
      if value.isOperand then compare (.map [(key, value)]) name .equal value
      else if (Connective.ofName? name).isSome then
        throw (.filter (.map [(key, value)]) (emptyOperands name))
      else
        match startsWithDollar name, value with
        | false, .map entries => readComparison (.map [(key, value)]) name entries
        | _, _ => refuseEntry name (.map [(key, value)])
  | _ => throw (.filter (.map [(key, value)]) "")

mutual

/-- This function reads a filter. -/
def read : Value → Except Failure Filter
  | .map [] => throw (.filter (.map []) "")
  | .map [(key, value)] => readEntry key value
  | .map entries => (readEntries entries).map .conjunction
  | value => throw (.filter value "")

/-- This function reads one entry of a mapping. -/
def readEntry (key : Value) : Value → Except Failure Filter
  | .list items => joinOperands key (.list items) (readAll items)
  | .tuple items => joinOperands key (.tuple items) (readAll items)
  | value => readField key value

/-- This function reads every entry of a mapping. -/
def readEntries : List (Value × Value) → Except Failure (List Filter)
  | [] => pure []
  | (key, value) :: rest => do
      let first ← readEntry key value
      pure (first :: (← readEntries rest))

/-- This function reads every filter of a list. -/
def readAll : List Value → Except Failure (List Filter)
  | [] => pure []
  | value :: rest => do
      let first ← read value
      pure (first :: (← readAll rest))

end

end Filter

end Tabular
