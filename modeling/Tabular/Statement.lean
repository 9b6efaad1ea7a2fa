import Tabular.Database

/-!
This module holds prepared statements. A statement is executed at its first fetch, and it is
executed again when it is bound to new parameters.
-/

namespace Tabular

/-- A prepared statement with its current parameters, and its cursor once it has one. -/
structure Statement where
  sql : String
  parameters : Value := .null
  cursor : Option Cursor := none
  finalized : Bool := false
  deriving DecidableEq

open Tabular.Action

namespace Statement

def logger : String := "litetable.statement"

/-- This action fails when the statement is finalized. -/
def checkOpen : Action Statement Unit := do
  let statement ← get
  if statement.finalized then
    throw (.engine "Statement is finalized" statement.sql statement.parameters)

/-- This action gives the cursor and makes one if there is none. -/
def theCursor (database : Database) : Action Statement Cursor := do
  match (← get).cursor with
  | some cursor => pure cursor
  | none =>
      let cursor ← ask (.cursor (← database.connected))
      modify fun statement => { statement with cursor := some cursor }
      pure cursor

/-- This action executes the statement with new parameters. -/
def bind (database : Database) (parameters : Value) : Action Statement RunResult := do
  checkOpen
  modify fun statement => { statement with parameters }
  let cursor ← theCursor database
  let sql := (← get).sql
  log .debug logger (sql ++ " " ++ parameters.literal)
  attached sql parameters
    (← ask (.execute cursor sql (Database.driverParameters parameters)))

/-- This action gives the cursor. It executes the statement if there is no cursor yet. -/
def executed (database : Database) : Action Statement Cursor := do
  checkOpen
  match (← get).cursor with
  | some cursor => pure cursor
  | none =>
      let _ ← bind database (← get).parameters
      theCursor database

/-- This action takes the answer of a fetch. -/
def fetched {α : Type} (answer : Except Outside α) : Action Statement α := do
  let statement ← get
  attached statement.sql statement.parameters answer

/-- This action gives the next row, if there is one. -/
def first (database : Database) : Action Statement (Option Row) := do
  let cursor ← executed database
  fetched (← ask (.fetchOne cursor))

/-- This action gives the next rows, as many as asked for or fewer at the end. -/
def many (database : Database) (count : Int) : Action Statement (List Row) := do
  let cursor ← executed database
  fetched (← ask (.fetchMany cursor count))

/-- This action gives all rows that are left. -/
def all (database : Database) : Action Statement (List Row) := do
  let cursor ← executed database
  fetched (← ask (.fetchAll cursor))

/-- This action gives every row that is left to a callback and counts the rows. -/
def each {σ : Type} (database : Database) (callback : Callback σ) : Action (Statement × σ) Nat := do
  let cursor ← onPart Prod.fst (fun state statement => (statement, state.2)) (executed database)
  let statement := (← get).1
  attaching statement.sql statement.parameters
    (onPart Prod.snd (fun state inner => (state.1, inner)) (eachRow cursor callback))

/-- This action releases the cursor. A second time it does nothing. -/
def finalize : Action Statement Unit := do
  let statement ← get
  if statement.finalized then return
  set { statement with finalized := true, cursor := none }
  match statement.cursor with
  | some cursor => ask (.closeCursor cursor)
  | none => pure ()

end Statement

end Tabular
