import Tabular.Value.Access

/-!
This module orders values. Numbers are ordered among each other and so are texts, and a list that
mixes them or holds anything else has no order.
-/

namespace Tabular

namespace Binary64

/-- This function gives a finite number in units of the least magnitude. -/
def signedUnits : Binary64 → Int
  | .finite negative rank => if negative then -(units rank : Int) else units rank
  | .infinite negative => if negative then -(Nat.pow 2 3000 : Int) else Nat.pow 2 3000
  | .nan => 0

end Binary64

namespace Value

/-- What counts when values are ordered. -/
inductive SortKey where
  | number (units : Int)
  | text (codes : List Nat)

/-- This function gives what counts of a value. A number counts in units of the least magnitude. -/
def sortKey? (value : Value) : Option SortKey :=
  match value with
  | .float number => some (.number number.signedUnits)
  | .text content => some (.text (content.toList.map Char.toNat))
  | _ => value.integer?.map fun whole => .number (whole * Binary64.unit)

def SortKey.isNumber : SortKey → Bool
  | .number _ => true
  | .text _ => false

/-- This function tells whether the first list of codes comes before the second or is equal. -/
def codesAtMost : List Nat → List Nat → Bool
  | [], _ => true
  | _ :: _, [] => false
  | first :: rest, second :: others =>
      if first = second then codesAtMost rest others else first < second

def SortKey.atMost : SortKey → SortKey → Bool
  | .number first, .number second => first ≤ second
  | .text first, .text second => codesAtMost first second
  | .number _, .text _ => true
  | .text _, .number _ => false

/-- This function puts an entry behind all entries that are at most as great. -/
def insertSorted {α : Type} (entry : SortKey × α) : List (SortKey × α) → List (SortKey × α)
  | [] => [entry]
  | other :: rest =>
      if other.1.atMost entry.1 then other :: insertSorted entry rest else entry :: other :: rest

/-- This function sorts entries by their keys and keeps the order of equal ones. One entry alone
needs no order. -/
def sortedBy {α : Type} (entries : List (Value × α)) : Except Failure (List α) :=
  match entries with
  | [] => pure []
  | [entry] => pure [entry.2]
  | entries =>
      match entries.mapM fun entry => entry.1.sortKey?.map fun key => (key, entry.2) with
      | none => throw .wrongType
      | some keyed =>
          if keyed.all (fun entry => entry.1.isNumber) || keyed.all (fun entry => !entry.1.isNumber)
          then pure ((keyed.foldl (fun sorted entry => insertSorted entry sorted) []).map Prod.snd)
          else throw .wrongType

/-- This function sorts values. -/
def sorted (values : List Value) : Except Failure (List Value) :=
  sortedBy (values.map fun value => (value, value))

/-- This function tells whether a number is greater than zero. -/
def isPositive (value : Value) : Except Failure Bool :=
  match value.sortKey? with
  | some (.number units) => pure (0 < units)
  | _ => throw .wrongType

example : (sorted [.text "b", .text "a"]).toOption = some [.text "a", .text "b"] := by
  decide +kernel

end Value

end Tabular
