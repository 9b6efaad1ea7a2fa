import Tabular.Schema.Default

/-!
This module decides whether a table in the database is as it is declared. Columns, their types,
their defaults and foreign keys count, and indices do not.
-/

namespace Tabular.Schema

/-- This function compares the named columns of two tables. -/
def columnsAgree (declared actual : Schema) : Keyed Column → Except Failure Bool
  | [] => pure true
  | (name, column) :: rest =>
      match actual.columns.get? name with
      | none => throw (.key name)
      | some old =>
          if column.storage ≠ old.storage then pure false
          else if declared.isNotNull name column != actual.isNotNull name old then pure false
          else do
            let expected ← DefaultKey.ofValue column.default
            let found ← DefaultKey.ofValue old.default
            if expected.same found then columnsAgree declared actual rest else pure false

/-- This function finds the first foreign key with the same columns. -/
def counterpart (old : ForeignKey) : List ForeignKey → Except Failure (Option ForeignKey)
  | [] => pure none
  | key :: rest => do
      let columns ← key.sourceColumns
      let wanted ← old.sourceColumns
      if Value.sameItems columns wanted then pure (some key) else counterpart old rest

/-- This function writes a table name in small letters. -/
def lowerName (name : Value) : Except Failure String :=
  match name with
  | .text name => pure (Text.lower name)
  | _ => throw .missingAttribute

/-- This function compares two foreign keys with the same columns. -/
def sameTarget (key old : ForeignKey) : Except Failure Bool := do
  let table ← lowerName (← key.table)
  let oldTable ← lowerName (← old.table)
  if table ≠ oldTable then pure false
  else do
    let columns ← key.targetColumns
    let oldColumns ← old.targetColumns
    pure (Value.sameItems columns oldColumns)

def foreignKeysAgree (declared : List ForeignKey) : List ForeignKey → Except Failure Bool
  | [] => pure true
  | old :: rest => do
      match ← counterpart old declared with
      | none => pure false
      | some key => if ← sameTarget key old then foreignKeysAgree declared rest else pure false

/-- This function tells whether the table in the database needs no change. -/
def agrees (declared actual : Schema) : Except Failure Bool := do
  if !Keyed.sameKeys declared.columns actual.columns then pure false
  else if ← columnsAgree declared actual declared.columns then
    if actual.foreignKeys.length ≠ declared.foreignKeys.length then pure false
    else foreignKeysAgree declared.foreignKeys actual.foreignKeys
  else pure false

end Tabular.Schema
