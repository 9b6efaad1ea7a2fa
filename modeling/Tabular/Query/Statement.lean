import Tabular.Query

/-!
This module builds the SELECT, COUNT, DELETE and UPDATE statements of a query. The filter is checked
first, then the columns, the limit, the offset, the grouping, the ordering and the table.
-/

namespace Tabular

/-- A statement text with the parameters that belong to it. -/
structure BoundText where
  sql : String
  parameters : Value
  deriving DecidableEq

namespace Query

/-- This function reads a direction. A truth value is none, although it counts as a number. -/
def direction (value : Value) : Except Failure String :=
  match value with
  | .bool _ => throw (.orderDirection value)
  | _ =>
      if [Value.text "asc", .text "ascending", .int 1].any value.same then pure "ASC"
      else if [Value.text "desc", .text "descending", .int (-1)].any value.same then pure "DESC"
      else throw (.orderDirection value)

def orderTerm (term : Value) : Except Failure String :=
  match term with
  | .text column => pure column
  | .map [(column, way)] => do pure (column.toText ++ " " ++ (← direction way))
  | _ => throw (.orderTerm term)

/-- The written clauses of a query. An absent clause is an empty text. -/
structure Clauses where
  columns : String
  source : String
  condition : String
  grouping : String
  ordering : String
  limit : String
  offset : String
  deriving DecidableEq

def conditionClause (query : Query) : Binding String :=
  if query.filter.isEmpty then pure ""
  else do pure ("WHERE (" ++ (← Filter.compile (.map query.filter)) ++ ")")

def columnsClause (query : Query) : Except Failure String :=
  match query.selection with
  | .text columns => pure columns
  | .tuple (column :: rest) => Value.commaList (column :: rest)
  | _ => pure "*"

def limitClause (query : Query) : Except Failure String :=
  match query.limit with
  | .null => pure ""
  | .int count => if 0 < count then pure ("LIMIT " ++ toString count) else throw (.limit query.limit)
  | _ => throw (.limit query.limit)

/-- An offset of zero is not written. -/
def offsetClause (query : Query) : Except Failure String :=
  match query.offset with
  | .null => pure ""
  | .int count =>
      if count < 0 then throw (.offset query.offset)
      else if 0 < count then pure ("OFFSET " ++ toString count)
      else pure ""
  | _ => throw (.offset query.offset)

def groupingClause (query : Query) : Except Failure String :=
  if query.grouping.isEmpty then pure ""
  else do pure ("GROUP BY " ++ (← Value.commaList query.grouping))

def orderingClause (query : Query) : Except Failure String :=
  if query.ordering.isEmpty then pure ""
  else do pure ("ORDER BY " ++ String.intercalate ", " (← query.ordering.mapM orderTerm))

def sourceClause (query : Query) : Except Failure String :=
  if query.table.isTrue then pure ("FROM " ++ query.table.toText)
  else throw (.queryShape "query" "no table")

/-- This step checks and writes all clauses. -/
def clauses (query : Query) : Binding Clauses := do
  let condition ← conditionClause query
  let columns ← (columnsClause query : Except Failure String)
  let limit ← (limitClause query : Except Failure String)
  let offset ← (offsetClause query : Except Failure String)
  let grouping ← (groupingClause query : Except Failure String)
  let ordering ← (orderingClause query : Except Failure String)
  let source ← (sourceClause query : Except Failure String)
  pure ⟨columns, source, condition, grouping, ordering, limit, offset⟩

/-- This function joins the clauses that are present. -/
def joinParts (parts : List String) : String :=
  String.intercalate " " (parts.filter (· ≠ ""))

/-- This function refuses a statement with a clause that it cannot have. -/
def reject (statement : String) (found : List (String × String)) : Except Failure Unit :=
  match found.find? fun clause => clause.1 ≠ "" with
  | some clause => throw (.queryShape statement clause.2)
  | none => pure ()

/-- This function runs a building step from the first parameter on. -/
def finish (step : Binding String) : Except Failure BoundText :=
  match step.runWith .empty with
  | (.ok sql, binder) => pure ⟨sql, binder.parameters⟩
  | (.error failure, _) => throw failure

/-- An offset without a limit is written after an endless limit. -/
def selectStatement (query : Query) : Except Failure BoundText := finish do
  let written ← clauses query
  let limit :=
    if written.limit = "" && written.offset ≠ "" then "LIMIT -1" else written.limit
  pure (joinParts ["SELECT " ++ written.columns, written.source, written.condition,
    written.grouping, written.ordering, limit, written.offset])

/-- The rows of a grouped query are counted through an inner query. -/
def countStatement (query : Query) : Except Failure BoundText := finish do
  let written ← clauses query
  (reject "count" [(written.limit, "limit"), (written.offset, "offset"),
    (written.ordering, "orderBy")] : Except Failure Unit)
  if written.grouping = "" then
    pure (joinParts ["SELECT COUNT(*) AS count", written.source, written.condition])
  else
    pure ("SELECT COUNT(*) AS count FROM (" ++
      joinParts ["SELECT 1", written.source, written.condition, written.grouping] ++ ")")

def rejectAll (statement : String) (written : Clauses) : Except Failure Unit :=
  reject statement [(written.grouping, "groupBy"), (written.limit, "limit"),
    (written.offset, "offset"), (written.ordering, "orderBy")]

def deleteStatement (query : Query) : Except Failure BoundText := finish do
  let written ← clauses query
  (rejectAll "remove" written : Except Failure Unit)
  pure (joinParts ["DELETE", written.source, written.condition])

/-- This step writes the new values, whose parameters follow those of the condition. -/
def assignments : List (Value × Value) → Binding (List String)
  | [] => pure []
  | (column, value) :: rest => do
      let placeholder ← Binding.add value
      pure ((column.toText ++ " = " ++ placeholder) :: (← assignments rest))

def updateStatement (query : Query) (newValues : Value) : Except Failure BoundText := finish do
  let written ← clauses query
  (rejectAll "update" written : Except Failure Unit)
  if newValues.isTrue then
    match newValues with
    | .map entries =>
        let changes ← assignments entries
        pure (joinParts ["UPDATE " ++ query.table.toText ++ " SET " ++
          String.intercalate ", " changes, written.condition])
    | _ => throw .missingAttribute
  else throw (.queryShape "update" "no values")

end Query

end Tabular
