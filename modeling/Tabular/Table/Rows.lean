import Tabular.Query.Terminal
import Tabular.Table.Reconciler

/-!
This module inserts, updates and finds the rows of a declared table. A row is found again by its
primary key or by the first unique column that it has.
-/

namespace Tabular

open Tabular.Action

namespace Value

/-- This function gives the names of the columns of a row. -/
def columnNames (row : Value) : Except Failure (List Value) := row.items

def hasColumn (row : Value) (column : Value) : Except Failure Bool := do
  pure ((← row.columnNames).any column.same)

/-- This function gives the value of a column that a row has. -/
def columnValue (row : Value) (column : Value) : Except Failure Value :=
  match row with
  | .map entries =>
      match Keyed.get? entries column with
      | some value => pure value
      | none => throw (.key column)
  | _ => throw .wrongType

/-- This function sets the columns of a row over those of a stored row. -/
def mergedOver (row : Value) (stored : Row) : Except Failure Value :=
  match row with
  | .map entries => pure (.map (Keyed.merge stored entries))
  | _ => throw .wrongType

/-- This function gives the stored form of every value of a row. -/
def storedEntries : List (Value × Value) → Except Failure (List (Value × Value))
  | [] => pure []
  | (column, value) :: rest => do
      let stored ← value.stored
      pure ((column, stored) :: (← storedEntries rest))

end Value

namespace Schema

variable {σ : Type}

/-- This function gives the column that is declared as primary key. -/
def keyColumn? (schema : Schema) : Option Value := schema.flaggedColumns.head?

/-- This function starts a query over the table. -/
def query (schema : Schema) : Query := Query.empty.withTable schema.name

/-- This function starts a query over the rows that match a filter. -/
def find (schema : Schema) (filter : Value) : Except Failure Query :=
  if filter.isNull then pure schema.query else schema.query.find filter

def checkColumns (schema : Schema) : List Value → Except Failure Unit
  | [] => pure ()
  | column :: rest =>
      if !column.isKey then throw .wrongType
      else if schema.columns.has column then checkColumns schema rest
      else throw (.unknownColumn column schema.name)

/-- This function finds the first unique column that the row has. -/
def firstUnique (schema : Schema) (row : Value) : Keyed Column → Except Failure Value
  | [] => throw (.noUniqueColumn schema.name)
  | (name, column) :: rest => do
      if column.unique && (← row.hasColumn name) then pure name else firstUnique schema row rest

/-- This function finds the column that identifies a row. -/
def lookupColumn (schema : Schema) (row : Value) : Except Failure Value := do
  match schema.keyColumn? with
  | some key => if ← row.hasColumn key then pure key else firstUnique schema row schema.columns
  | none => firstUnique schema row schema.columns

/-- This function gives the filter that identifies a row. -/
def lookup (schema : Schema) (row : Value) : Except Failure Value := do
  checkColumns schema (← row.columnNames)
  let column ← schema.lookupColumn row
  pure (.map [(column, ← row.columnValue column)])

/-- This function builds the statement that inserts a row. A row without columns gets defaults. -/
def insertStatement (schema : Schema) (row : Value) : Except Failure BoundText := do
  if row.isTrue then
    let columns ← row.columnNames
    let list ← Value.commaList columns
    let places := columns.map fun column => "$" ++ column.toText
    let stored ← Value.storedEntries (← row.entries)
    pure ⟨"INSERT INTO " ++ schema.name.toText ++ " (" ++ list ++ ") VALUES (" ++
      String.intercalate ", " places ++ ")", .map stored⟩
  else pure ⟨"INSERT INTO " ++ schema.name.toText ++ " DEFAULT VALUES", .null⟩

/-- This action inserts a row. -/
def insert (schema : Schema) (database : Database) (row : Value) : Action σ RunResult := do
  let bound ← (schema.insertStatement row : Except Failure BoundText)
  database.run bound.sql bound.parameters

/-- This action updates the rows that match a filter. -/
def updateWhere (schema : Schema) (database : Database) (filter row : Value) :
    Action σ RunResult := do
  let query ← (schema.find filter : Except Failure Query)
  query.update database row

/-- This action updates the row that the unique columns of a row identify. -/
def updateUnique (schema : Schema) (database : Database) (row : Value) : Action σ RunResult := do
  let filter ← (schema.lookup row : Except Failure Value)
  schema.updateWhere database filter row

/-- This action finds the stored row of a filter. -/
def storedRow (schema : Schema) (database : Database) (filter : Value) :
    Action σ (Option Row) := do
  let query ← (schema.find filter : Except Failure Query)
  query.first database

/-- This function adds the new key to a row that has none. -/
def withNewKey (schema : Schema) (row : Value) (result : RunResult) : Except Failure Value :=
  match row with
  | .map entries =>
      match schema.keyColumn? with
      | some key =>
          if key.isTrue && !Keyed.has entries key then
            pure (.map (entries ++ [(key, (result.lastInsertId.map Value.int).getD .null)]))
          else pure row
      | none => pure row
  | _ => throw .wrongType

/-- This action inserts the row, or updates the stored one, and gives the row as it is stored. -/
def writeOver (schema : Schema) (database : Database) (filter row : Value) (stored : Option Row) :
    Action σ Value := do
  match stored with
  | none =>
      let result ← schema.insert database row
      (schema.withNewKey row result : Except Failure Value)
  | some stored =>
      match schema.keyColumn? with
      | some key =>
          let value ← ((Value.map stored).columnValue key : Except Failure Value)
          let _ ← schema.updateWhere database (.map [(key, value)]) row
      | none =>
          let _ ← schema.updateWhere database filter row
      (row.mergedOver stored : Except Failure Value)

def rowLogger : String := "litetable.table"

/-- This action finds the stored row and writes the new one. -/
def tryUpsert (schema : Schema) (database : Database) (filter row : Value) : Action σ Value := do
  schema.writeOver database filter row (← schema.storedRow database filter)

/-- This action inserts a row or updates the stored one with the same key. When another writer
inserts the key first, the row is looked up again and updated. -/
def upsert (schema : Schema) (database : Database) (row : Value) : Action σ Value := do
  let filter ← (schema.lookup row : Except Failure Value)
  match ← attempt (schema.tryUpsert database filter row) with
  | .ok result => pure result
  | .error failure =>
      if failure.isEngine && failure.isUniqueViolation then
        log .warning rowLogger ("Row " ++ filter.literal ++ " inserted concurrently into " ++
          schema.name.toText ++ ", updating instead")
        match ← schema.storedRow database filter with
        | none => throw failure
        | some stored => schema.writeOver database filter row (some stored)
      else throw failure

/-- This action completes a partial row with the stored one. The values of the row count more. -/
def extend (schema : Schema) (database : Database) (row : Value) : Action σ Value := do
  let filter ← (schema.lookup row : Except Failure Value)
  let stored ← schema.storedRow database filter
  (row.mergedOver (stored.getD []) : Except Failure Value)

/-- This action completes rows one after the other. -/
def extendAll (schema : Schema) (database : Database) : List Value → Action σ (List Value)
  | [] => pure []
  | row :: rest => do
      let first ← schema.extend database row
      pure (first :: (← extendAll schema database rest))

end Schema

end Tabular
