import Tabular.Text.Letter
import Tabular.Value.Access

/-!
This module holds declared tables: their columns, indices, foreign keys and primary keys. Names are
kept as they are declared, and a name that is no text is refused where a text is needed.
-/

namespace Tabular

/-- A type in which a column is stored. -/
inductive Storage where
  | integer
  | numeric
  | text
  | real
  | blob
  deriving DecidableEq, Repr, Inhabited

namespace Storage

def name : Storage → String
  | .integer => "INTEGER"
  | .numeric => "NUMERIC"
  | .text => "TEXT"
  | .real => "REAL"
  | .blob => "BLOB"

/-- This function reads a type name or an alias in capitals. -/
def ofAlias? : String → Option Storage
  | "INTEGER" | "BOOLEAN" | "DATE" => some .integer
  | "NUMERIC" => some .numeric
  | "TEXT" => some .text
  | "FLOAT" | "REAL" => some .real
  | "BLOB" => some .blob
  | _ => none

/-- This function reads a type name or an alias in any case. -/
def resolve (name : Value) : Except Failure Storage :=
  match name.text?.bind fun text => ofAlias? (Text.upper text) with
  | some storage => pure storage
  | none => throw (.columnType name)

/-- This function tells whether a value is the name of a type and not an alias. -/
def isName (name : Value) : Bool :=
  [integer, numeric, text, real, blob].any fun storage => name == .text storage.name

/-- This function reads the type that the database reports. An unknown type is stored as it is. -/
def ofReported (reported : String) : Storage :=
  match Text.upper reported with
  | "INTEGER" => .integer
  | "NUMERIC" => .numeric
  | "TEXT" => .text
  | "REAL" => .real
  | _ => .blob

end Storage

/-- A declared column. -/
structure Column where
  storage : Storage
  primaryKey : Bool := false
  unique : Bool := false
  notNull : Bool := false
  default : Value := .null
  collation : Value := .null
  indexed : Bool := false
  deriving DecidableEq, Inhabited

/-- A declared index over columns. -/
structure Index where
  columns : List Value
  unique : Bool := false
  deriving DecidableEq, Inhabited

/-- A declared foreign key. Its references have one entry, from the table to its columns. -/
structure ForeignKey where
  source : Value
  references : Keyed Value
  deriving DecidableEq, Inhabited

namespace ForeignKey

def sourceColumns (key : ForeignKey) : Except Failure (List Value) := key.source.nameList

/-- This function gives the only entry of the references. -/
def target (key : ForeignKey) : Except Failure (Value × Value) :=
  match key.references with
  | [entry] => pure entry
  | references => throw (.foreignKey references)

def table (key : ForeignKey) : Except Failure Value := do pure (← key.target).1

def targetColumns (key : ForeignKey) : Except Failure (List Value) := do (← key.target).2.nameList

end ForeignKey

/-- A declared table. -/
structure Schema where
  name : Value
  columns : Keyed Column
  indices : Keyed Index := []
  foreignKeys : List ForeignKey := []
  primaryKey : Option (List Value) := none
  deriving DecidableEq, Inhabited

namespace Schema

/-- This function gives the names of the columns that are declared as primary keys. -/
def flaggedColumns (schema : Schema) : List Value :=
  (schema.columns.filter fun entry => entry.2.primaryKey).map Prod.fst

/-- This function gives the composite primary key, which is empty when there is none. -/
def compositeKey (schema : Schema) : List Value := schema.primaryKey.getD []

/-- This function accepts a table with one primary key at most. -/
def check (schema : Schema) : Except Failure Schema :=
  match schema.flaggedColumns with
  | [] => pure schema
  | [_] => if schema.compositeKey.isEmpty then pure schema else throw (.primaryKeyTwice schema.name)
  | columns => throw (.severalPrimaryKeys schema.name columns)

/-- A table has a primary key on one column, or it may have one as a list. -/
theorem check_cases {schema : Schema} (valid : schema.check = .ok schema) :
    (∃ key, schema.flaggedColumns = [key] ∧ schema.compositeKey = []) ∨ schema.flaggedColumns = [] := by
  rw [check] at valid
  split at valid
  · next none => exact .inr none
  · next key flagged =>
      split at valid
      · next empty => exact .inl ⟨key, flagged, List.isEmpty_iff.mp empty⟩
      · cases valid
  · cases valid

/-- This function gives the columns of the primary key. -/
def primaryKeyColumns (schema : Schema) : List Value :=
  if schema.compositeKey.isEmpty then schema.flaggedColumns else schema.compositeKey

def isPrimaryKey (schema : Schema) (column : Value) : Bool :=
  schema.primaryKeyColumns.any column.same

/-- A column of the primary key takes no null, whether it is declared so or not. -/
def isNotNull (schema : Schema) (name : Value) (column : Column) : Bool :=
  column.notNull || schema.isPrimaryKey name

end Schema

end Tabular
