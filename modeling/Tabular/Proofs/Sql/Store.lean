import Tabular.Proofs.Sql.Statement

/-!
This module gives statements their meaning over a store of named tables and indices. Names are
compared as they are written, since no two names of a store differ in case only.
-/

namespace Tabular.Sql

variable {Cell : Type}

/-- A row gives a cell for each column of its table. -/
abbrev Record (Cell : Type) := String → Cell

structure Table (Cell : Type) where
  columns : List ColumnClause
  rows : List (Record Cell)

namespace Table

def names (table : Table Cell) : List String := table.columns.map ColumnClause.name

/-- This function gives the literal of the default of a column, if there is one. -/
def defaultOf (columns : List ColumnClause) (name : String) : Option Token :=
  (columns.find? fun column => column.name = name).bind ColumnClause.default

end Table

/-- An index with its table. -/
structure TableIndex where
  table : String
  unique : Bool
  columns : List String
  deriving DecidableEq, Repr

/-- A store holds tables and indices by name. -/
structure Store (Cell : Type) where
  tables : String → Option (Table Cell)
  indices : String → Option TableIndex

namespace Store

def setTable (store : Store Cell) (name : String) (table : Option (Table Cell)) : Store Cell :=
  { store with tables := Function.update store.tables name table }

def setIndex (store : Store Cell) (name : String) (index : Option TableIndex) : Store Cell :=
  { store with indices := Function.update store.indices name index }

/-- An index moves along with its table. -/
def moveIndices (store : Store Cell) (table name : String) : Store Cell :=
  { store with
    indices := fun index => (store.indices index).map fun entry =>
      if entry.table = table then { entry with table := name } else entry }

def dropIndicesOf (store : Store Cell) (table : String) : Store Cell :=
  { store with indices := fun index => (store.indices index).filter fun entry => entry.table ≠ table }

variable (store : Store Cell) (name : String)

@[simp] theorem setTable_indices (table : Option (Table Cell)) :
    (store.setTable name table).indices = store.indices := rfl

@[simp] theorem setIndex_same (index : Option TableIndex) :
    (store.setIndex name index).indices name = index := Function.update_self ..

variable {name} {other : String}

theorem setIndex_other (differ : other ≠ name) (index : Option TableIndex) :
    (store.setIndex name index).indices other = store.indices other :=
  Function.update_of_ne differ ..

end Store

/-- The columns that are listed get what the selected columns hold, and every other column gets its
default. -/
def copiedRow (fill : Option Token → Cell) (target : List ColumnClause)
    (listed selected : List String) (row : Record Cell) : Record Cell := fun name =>
  match (listed.zip selected).lookup name with
  | some source => row source
  | none => fill (Table.defaultOf target name)

namespace Statement

/-- This function runs a statement, which may fail. The cell of a default is given by `fill`. -/
def run (fill : Option Token → Cell) (statement : Statement) (store : Store Cell) :
    Option (Store Cell) :=
  match statement with
  | .rename table name =>
      match store.tables table, store.tables name with
      | some content, none =>
          some (((store.setTable table none).setTable name (some content)).moveIndices table name)
      | _, _ => none
  | .createTable name columns =>
      if (store.tables name).isNone ∧ columns ≠ [] ∧ (columns.map ColumnClause.name).Nodup then
        some (store.setTable name (some ⟨columns, []⟩))
      else none
  | .createIndex unique name table columns =>
      if (store.indices name).isSome then some store
      else
        match store.tables table with
        | some content =>
            if ∀ column ∈ columns, column ∈ content.names then
              some (store.setIndex name (some ⟨table, unique, columns⟩))
            else none
        | none => none
  | .dropIndex name =>
      if (store.indices name).isSome then some (store.setIndex name none) else none
  | .copy table columns source selected =>
      match store.tables table, store.tables source with
      | some target, some origin =>
          if columns.length = selected.length ∧ (∀ column ∈ columns, column ∈ target.names) ∧
              ∀ column ∈ selected, column ∈ origin.names then
            some (store.setTable table (some { target with
              rows := target.rows ++
                origin.rows.map (copiedRow fill target.columns columns selected) }))
          else none
      | _, _ => none
  | .dropTable name =>
      match store.tables name with
      | some _ => some ((store.setTable name none).dropIndicesOf name)
      | none => none

end Statement

/-- This function runs statements in order. -/
def Statement.runAll (fill : Option Token → Cell) : List Statement → Store Cell → Option (Store Cell)
  | [], store => some store
  | statement :: rest, store => (statement.run fill store).bind (runAll fill rest)

theorem Statement.runAll_append (fill : Option Token → Cell) (first second : List Statement)
    (store : Store Cell) :
    runAll fill (first ++ second) store = (runAll fill first store).bind (runAll fill second) := by
  induction first generalizing store with
  | nil => rfl
  | cons statement rest inductionHypothesis =>
      rw [List.cons_append, runAll, runAll, Option.bind_assoc]
      exact congrArg _ (funext inductionHypothesis)

/-- This function reads statements and runs them in order. -/
def runTexts (fill : Option Token → Cell) : List String → Store Cell → Option (Store Cell)
  | [], store => some store
  | text :: rest, store => do
      let statement ← Statement.ofText? text
      runTexts fill rest (← statement.run fill store)

/-- Texts that are read as statements run as these statements. -/
theorem runTexts_read (fill : Option Token → Cell) {texts : List String}
    {statements : List Statement}
    (read : List.Forall₂ (fun text statement => Statement.ofText? text = some statement) texts
      statements) (store : Store Cell) :
    runTexts fill texts store = Statement.runAll fill statements store := by
  induction read generalizing store with
  | nil => rfl
  | cons first _ inductionHypothesis =>
      rw [runTexts, first, Statement.runAll, ← funext inductionHypothesis]
      rfl

end Tabular.Sql
