import Tabular.Schema.Definition

/-!
This module plans how a table is replaced: it is renamed, the declared table is created, the columns
of both tables are copied, and the old table is dropped.
-/

namespace Tabular

/-- A step of a migration. -/
inductive MigrationStep where
  | rename (table backup : String)
  | dropIndex (index : String)
  | create (definition : Definition)
  | copy (table backup : String) (columns : List String)
  | dropTable (table : String)
  deriving DecidableEq

namespace MigrationStep

def sql : MigrationStep → String
  | .rename table backup => "ALTER TABLE " ++ table ++ " RENAME TO " ++ backup
  | .dropIndex index => "DROP INDEX " ++ index
  | .create definition => definition.sql
  | .copy table backup columns =>
      let list := String.intercalate ", " columns
      "INSERT INTO " ++ table ++ " (" ++ list ++ ") SELECT " ++ list ++ " FROM " ++ backup
  | .dropTable table => "DROP TABLE " ++ table

/-- This function describes a step. A definition is described by its text before the first bracket,
in small letters. -/
def description : MigrationStep → String
  | .rename table backup => "rename " ++ table ++ " to " ++ backup
  | .dropIndex index => "drop index " ++ index
  | .create definition =>
      Text.lower (Text.strip (String.ofList (definition.sql.toList.takeWhile (· ≠ '('))))
  | .copy _ _ columns => "copy " ++ String.intercalate ", " columns
  | .dropTable table => "drop " ++ table

end MigrationStep

namespace Schema

/-- This function names the table that keeps the old rows. -/
def backupName (table : Value) (now : Binary64) : String :=
  "backup_" ++ table.toText ++ "_" ++ toString (((now.scale 1000).truncate?).getD 0)

/-- This function gives the declared columns that the old table has, too. -/
def sharedColumns (schema old : Schema) : List Value :=
  schema.columns.keys.filter old.columns.has

def copyStep (schema old : Schema) (backup : String) : Except Failure (List MigrationStep) := do
  match ← (sharedColumns schema old).mapM Value.asText with
  | [] => pure []
  | columns => pure [.copy schema.name.toText backup columns]

/-- This function plans the steps of a migration. The indices of the old table move along with it
and are dropped, so that their names are free again. -/
def migration (schema old : Schema) (backup : String) (indices : List Value) :
    Except Failure (List MigrationStep) := do
  let definitions ← schema.definitions
  let copy ← copyStep schema old backup
  pure ([.rename schema.name.toText backup] ++
    indices.map (fun index => .dropIndex index.toText) ++ definitions.map .create ++ copy ++
    [.dropTable backup])

end Schema

end Tabular
