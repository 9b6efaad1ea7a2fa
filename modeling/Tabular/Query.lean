import Tabular.Filter.Condition
import Tabular.Value.Access

/-!
This module holds queries as sets of clauses. A clause is kept as it is given and is checked when
a statement is built, and a query is never changed by the clauses that are added to it.
-/

namespace Tabular

/-- A query over one table. The selection is null, a text, or a tuple of columns. -/
structure Query where
  selection : Value := .null
  table : Value := .null
  filter : List (Value × Value) := []
  grouping : List Value := []
  ordering : List Value := []
  limit : Value := .null
  offset : Value := .null
  deriving DecidableEq

namespace Query

def empty : Query := {}

/-- This function replaces the selected columns. -/
def select (query : Query) (columns : Value) : Except Failure Query :=
  match columns with
  | .text _ => pure { query with selection := columns }
  | _ => do pure { query with selection := .tuple (← columns.items) }

/-- This function names the table whose rows the query is about. -/
def withTable (query : Query) (table : Value) : Query := { query with table := table }

/-- This function adds conditions. A column that already has one gets the new one in its place. -/
def find (query : Query) (filter : Value) : Except Failure Query :=
  match filter with
  | .map (entry :: rest) => pure { query with filter := Keyed.merge query.filter (entry :: rest) }
  | _ => throw (.filter filter "no columns specified for where clause")

/-- This function replaces the grouping columns. -/
def groupBy (query : Query) (columns : Value) : Except Failure Query :=
  match columns with
  | .text _ => pure { query with grouping := [columns] }
  | _ => do pure { query with grouping := ← columns.items }

/-- This function adds ordering terms after the present ones. -/
def orderBy (query : Query) (terms : Value) : Except Failure Query :=
  match terms with
  | .text _ | .map _ => pure { query with ordering := query.ordering ++ [terms] }
  | _ => do pure { query with ordering := query.ordering ++ (← terms.items) }

def withLimit (query : Query) (count : Value) : Query := { query with limit := count }

def withOffset (query : Query) (count : Value) : Query := { query with offset := count }

end Query

end Tabular
