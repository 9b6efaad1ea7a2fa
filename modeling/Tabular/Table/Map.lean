import Tabular.Table.Rows

/-!
This module keeps texts by key in a table. Keys are bound to statements directly and are never read
as filters.
-/

namespace Tabular

/-- A table of texts by unique key. -/
structure MapTable where
  name : Value
  deriving DecidableEq

open Tabular.Action

namespace MapTable

variable {σ : Type}

/-- This is the declaration of the table. -/
def schema (table : MapTable) : Schema where
  name := table.name
  columns := [(.text "id", { storage := .integer, primaryKey := true }),
    (.text "key", { storage := .text, unique := true }), (.text "value", { storage := .text })]

def create (table : MapTable) (database : Database) : Action σ SyncResult :=
  table.schema.createOrUpdate database

def createIfAbsent (table : MapTable) (database : Database) : Action σ SyncResult :=
  table.schema.createIfAbsent database

/-- This action gives the text of a key, or null. -/
def get (table : MapTable) (database : Database) (key : Value) : Action σ Value := do
  let sql := "SELECT value FROM " ++ table.name.toText ++ " WHERE key = ?"
  match ← database.first sql (.tuple [key]) with
  | none | some [] => pure .null
  | some row => (row.column "value" : Except Failure Value)

/-- This action sets the text of a key. -/
def set (table : MapTable) (database : Database) (key value : Value) : Action σ Unit := do
  let sql := "INSERT INTO " ++ table.name.toText ++ " (key, value) VALUES (?, ?) " ++
    "ON CONFLICT (key) DO UPDATE SET value = excluded.value"
  let _ ← database.run sql (.tuple [key, value])

/-- This action removes a key and counts the removed rows. -/
def delete (table : MapTable) (database : Database) (key : Value) : Action σ Int := do
  let sql := "DELETE FROM " ++ table.name.toText ++ " WHERE key = ?"
  pure (← database.run sql (.tuple [key])).changes

/-- This action gives all keys and their texts in the order of the keys. -/
def items (table : MapTable) (database : Database) : Action σ (List (Value × Value)) := do
  let query ← (do
    let query ← table.schema.query.select (.list [.text "key", .text "value"])
    query.orderBy (.text "key") : Except Failure Query)
  let rows ← query.all database
  (rows.mapM fun row => do pure (← row.column "key", ← row.column "value") :
    Except Failure (List (Value × Value)))

def contains (table : MapTable) (database : Database) (key : Value) : Action σ Bool := do
  let sql := "SELECT 1 AS found FROM " ++ table.name.toText ++ " WHERE key = ?"
  pure (← database.first sql (.tuple [key])).isSome

end MapTable

end Tabular
