import Tabular.Database
import Tabular.Schema.Drift
import Tabular.Schema.Migration
import Tabular.Value.Order

/-!
This module brings a table in the database in line with its declaration. A table is absent, equal to
its declaration, or different from it, and only a migration changes a table that is different.
-/

namespace Tabular

/-- What was done to a table. -/
structure SyncResult where
  wasCreated : Bool
  wasUpdated : Bool := false
  deriving DecidableEq, Repr

/-- This function gives a column of an answer row, which has to be there. -/
def Keyed.column (row : Row) (name : String) : Except Failure Value := (Value.map row).member name

open Tabular.Action

namespace Schema

variable {σ : Type}

def logger : String := "litetable.reconciler"

def countTableText : String :=
  "SELECT count(*) AS count FROM sqlite_master WHERE type='table' AND name=? COLLATE NOCASE"

def indexNamesText : String :=
  "SELECT name FROM sqlite_master " ++
    "WHERE type='index' AND tbl_name=? COLLATE NOCASE AND sql IS NOT NULL"

def pragmaText (pragma : String) (name : Value) : String :=
  "PRAGMA " ++ pragma ++ "(" ++ name.toText ++ ")"

/-- This action tells whether a table of this name is in the database. -/
def exists? (schema : Schema) (database : Database) : Action σ Bool := do
  match ← database.first countTableText (.tuple [schema.name]) with
  | none | some [] => pure false
  | some row => (do (← row.column "count").isPositive : Except Failure Bool)

/-- This function reads whether a reported flag is set. -/
def reportedFlag (row : Row) (name : String) : Except Failure Bool := do
  pure (← row.column name).isTrue

/-- This function gives the reported columns of the primary key, in the order of their places. -/
def reportedKey (rows : List Row) : Except Failure (List Value) := do
  let placed ← rows.mapM fun row => do pure (← row.column "pk", row)
  let sorted ← Value.sortedBy placed
  let named ← sorted.filterMapM fun row => do
    if ← reportedFlag row "pk" then pure (some (← row.column "name")) else pure none
  pure named

/-- This function reads a reported type. Null stands for no type. -/
def reportedStorage (reported : Value) : Except Failure Storage :=
  match reported with
  | .text name => pure (Storage.ofReported name)
  | _ => if reported.isTrue then throw .missingAttribute else pure .blob

/-- This function reads a reported default. Null stands for none. -/
def reportedDefault (reported : Value) : Except Failure Value :=
  match reported with
  | .null => pure .null
  | .text default => pure (readDefault default)
  | _ => throw .wrongType

/-- This function reads one reported column. -/
def reportedColumn (single : Option Value) (unique : List Value) (row : Row) :
    Except Failure (Value × Column) := do
  let storage ← reportedStorage (← row.column "type")
  let name ← row.column "name"
  let notNull ← reportedFlag row "notnull"
  let default ← reportedDefault (← row.column "dflt_value")
  pure (name, {
    storage
    primaryKey := match single with
      | some key => name.same key
      | none => name.isNull
    unique := unique.any name.same
    notNull
    default })

/-- This action gives the columns of an index in their order. -/
def indexColumns (database : Database) (index : Value) : Action σ (List Value) := do
  let rows ← database.all (pragmaText "index_info" index)
  (do
    let placed ← rows.mapM fun row => do pure (← row.column "seqno", row)
    (← Value.sortedBy placed).mapM fun row => row.column "name" : Except Failure (List Value))

/-- This function tells whether an index was made by a constraint of the table. -/
def isConstraintIndex (row : Row) : Except Failure Bool := do
  if (← row.column "origin").same (.text "u") then reportedFlag row "unique" else pure false

/-- This action gives the columns of the constraint indices that have one column. -/
def uniqueFrom (database : Database) : List Row → Action σ (List Value)
  | [] => pure []
  | row :: rest => do
      if ← (isConstraintIndex row : Except Failure Bool) then
        let columns ← indexColumns database (← (row.column "name" : Except Failure Value))
        let others ← uniqueFrom database rest
        match columns with
        | [column] => pure (column :: others)
        | _ => pure others
      else uniqueFrom database rest

def uniqueColumns (schema : Schema) (database : Database) : Action σ (List Value) := do
  uniqueFrom database (← database.all (pragmaText "index_list" schema.name))

def indexStart (schema : Schema) : String := "ix_" ++ schema.name.toText ++ "_"

/-- This function gives the declared part of the name of an index that was created for the table. -/
def declaredIndexName (schema : Schema) (row : Row) : Except Failure (Option String) := do
  if (← row.column "origin").same (.text "c") then
    match ← row.column "name" with
    | .text name =>
        let start := schema.indexStart.toList
        if start.isPrefixOf name.toList then
          pure (some (String.ofList (name.toList.drop start.length)))
        else pure none
    | _ => throw .missingAttribute
  else pure none

def explicitFrom (schema : Schema) (database : Database) : List Row → Keyed Index →
    Action σ (Keyed Index)
  | [], found => pure found
  | row :: rest, found => do
      match ← (declaredIndexName schema row : Except Failure (Option String)) with
      | none => explicitFrom schema database rest found
      | some name =>
          let columns ← indexColumns database (← (row.column "name" : Except Failure Value))
          let unique ← (reportedFlag row "unique" : Except Failure Bool)
          explicitFrom schema database rest (found.put (.text name) { columns, unique })

/-- This action gives the indices that were created for the table, by their declared names. -/
def explicitIndices (schema : Schema) (database : Database) : Action σ (Keyed Index) := do
  explicitFrom schema database (← database.all (pragmaText "index_list" schema.name)) []

/-- This function collects the rows of each foreign key in the order of their first rows. -/
def groupRows : List Row → Keyed (List Row) → Except Failure (Keyed (List Row))
  | [], groups => pure groups
  | row :: rest, groups => do
      let number ← row.column "id"
      groupRows rest (groups.put number ((groups.get? number).getD [] ++ [row]))

/-- This function gives a single column alone and several as a tuple. -/
def oneOrTuple (columns : List Value) : Value :=
  match columns with
  | [column] => column
  | _ => .tuple columns

/-- This function reads the foreign key that a group of rows describes. -/
def reportedForeignKey (rows : List Row) : Except Failure ForeignKey := do
  let placed ← rows.mapM fun row => do pure (← row.column "seq", row)
  let sorted ← Value.sortedBy placed
  let source ← sorted.mapM fun row => row.column "from"
  let target ← sorted.mapM fun row => row.column "to"
  match sorted with
  | [] => throw .wrongType
  | row :: _ =>
      pure {
        source := oneOrTuple source
        references := [(← row.column "table", oneOrTuple (target.filter fun value => !value.isNull))] }

/-- This action gives the foreign keys of the table. -/
def reportedForeignKeys (schema : Schema) (database : Database) : Action σ (List ForeignKey) := do
  let rows ← database.all (pragmaText "foreign_key_list" schema.name)
  (do (← groupRows rows []).mapM fun group => reportedForeignKey group.2 :
    Except Failure (List ForeignKey))

/-- This action rebuilds the declaration of the table in the database. -/
def introspect (schema : Schema) (database : Database) : Action σ Schema := do
  let rows ← database.all (pragmaText "table_info" schema.name)
  let key ← (reportedKey rows : Except Failure (List Value))
  let single := match key with
    | [column] => some column
    | _ => none
  let unique ← uniqueColumns schema database
  let columns ← (rows.mapM (reportedColumn single unique) : Except Failure _)
  let indices ← explicitIndices schema database
  let foreignKeys ← reportedForeignKeys schema database
  (check {
    name := schema.name
    columns := Keyed.ofEntries columns
    indices
    foreignKeys
    primaryKey := if 1 < key.length then some key else none } : Except Failure Schema)

/-- This action gives the names of all indices that were created for the table. -/
def explicitIndexNames (schema : Schema) (database : Database) : Action σ (List Value) := do
  let rows ← database.all indexNamesText (.tuple [schema.name])
  (rows.mapM fun row => row.column "name" : Except Failure (List Value))

/-- This action tells whether the table in the database is as it is declared. -/
def matchesDatabase (schema : Schema) (database : Database) : Action σ Bool := do
  let actual ← introspect schema database
  (schema.agrees actual : Except Failure Bool)

def runDefinitions (database : Database) : List Definition → Action σ Unit
  | [] => pure ()
  | definition :: rest => do
      let _ ← database.run definition.sql
      runDefinitions database rest

/-- This action creates the table and its indices in one transaction. -/
def create (schema : Schema) (database : Database) : Action σ Unit := do
  let definitions ← (schema.definitions : Except Failure (List Definition))
  database.transaction (runDefinitions database definitions)
  log .info logger ("Created table " ++ schema.name.toText)

/-- This action creates the table if it is absent and refuses one that is different. -/
def createIfAbsent (schema : Schema) (database : Database) : Action σ SyncResult := do
  if ← schema.exists? database then
    if ← schema.matchesDatabase database then pure { wasCreated := false }
    else throw (.schemaMismatch schema.name)
  else do
    schema.create database
    pure { wasCreated := true }

def runSteps (database : Database) : List MigrationStep → Action σ Unit
  | [] => pure ()
  | step :: rest => do
      log .debug logger ("Migration step: " ++ step.description)
      let _ ← database.run step.sql
      runSteps database rest

def sharedText (shared : List String) : String :=
  let text := String.intercalate ", " shared
  if text = "" then "no columns" else text

/-- This action replaces the table and keeps the values of the columns that both tables have. While
it runs, other tables keep their references to the name of the table. -/
def migrate (schema old : Schema) (database : Database) : Action σ Unit := do
  let backup := Schema.backupName schema.name (← ask .time)
  let indices ← explicitIndexNames schema database
  let steps ← (schema.migration old backup indices : Except Failure (List MigrationStep))
  let shared ← ((sharedColumns schema old).mapM Value.asText : Except Failure (List String))
  log .info logger ("Migrating table " ++ schema.name.toText ++ " via " ++ backup ++ ", copying " ++
    sharedText shared)
  let legacy ← database.pragma "legacy_alter_table"
  database.setPragma "legacy_alter_table" (Database.onOff true)
  ensuring (database.transaction (runSteps database steps))
    (database.setPragma "legacy_alter_table" (Database.onOff legacy.isTrue))
  log .info logger ("Migrated table " ++ schema.name.toText)

/-- This action creates the table if it is absent and migrates one that is different. -/
def createOrUpdate (schema : Schema) (database : Database) : Action σ SyncResult := do
  if ← database.foreignKeysEnabled then throw .foreignKeysEnabled
  if ← schema.exists? database then
    let old ← schema.introspect database
    if ← (schema.agrees old : Except Failure Bool) then pure { wasCreated := false }
    else do
      schema.migrate old database
      pure { wasCreated := false, wasUpdated := true }
  else do
    schema.create database
    pure { wasCreated := true }

end Schema

end Tabular
