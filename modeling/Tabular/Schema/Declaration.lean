import Tabular.Schema

/-!
This module reads tables from mappings and writes them back. Most keys have two spellings, of which
the first one that is present counts.
-/

namespace Tabular

/-- This function reads a flag. Any value counts by its truth, and an absent one is false. -/
def Value.flag (entries : List (Value × Value)) (keys : List String) : Bool :=
  ((Value.pick entries keys).getD (.bool false)).isTrue

/-- This function writes an entry when it is asked for. -/
def entryWhen (condition : Bool) (key : String) (value : Value) : List (Value × Value) :=
  if condition then [(.text key, value)] else []

namespace Column

/-- This function reads a column from its type or from a mapping. -/
def ofValue (value : Value) : Except Failure Column :=
  match value with
  | .text _ => do pure { storage := ← Storage.resolve value }
  | .map entries => do
      pure {
        storage := ← Storage.resolve ((Value.pick entries ["type"]).getD .null)
        primaryKey := Value.flag entries ["primary_key", "primaryKey"]
        unique := Value.flag entries ["unique"]
        notNull := Value.flag entries ["not_null", "notNull"]
        default := (Value.pick entries ["default_value", "defaultValue"]).getD .null
        collation := (Value.pick entries ["collate"]).getD .null
        indexed := Value.flag entries ["index"] }
  | _ => throw .missingAttribute

/-- This function writes a column and leaves out what has its usual value. -/
def toValue (column : Column) : Value :=
  .map ((.text "type", .text column.storage.name) ::
    entryWhen column.primaryKey "primary_key" (.bool true) ++
    entryWhen column.unique "unique" (.bool true) ++
    entryWhen column.notNull "not_null" (.bool true) ++
    entryWhen (!column.default.isNull) "default_value" column.default ++
    entryWhen column.collation.isTrue "collate" column.collation ++
    entryWhen column.indexed "index" (.bool true))

/-- This function compares two columns field by field. -/
def same (first second : Column) : Bool :=
  first.storage == second.storage && first.primaryKey == second.primaryKey &&
    first.unique == second.unique && first.notNull == second.notNull &&
    first.default.same second.default && first.collation.same second.collation &&
    first.indexed == second.indexed

end Column

namespace Index

def ofValue (value : Value) : Except Failure Index := do
  let columns ← value.member "columns"
  let entries ← value.entries
  pure { columns := ← columns.nameList, unique := Value.flag entries ["unique"] }

def toValue (index : Index) : Value :=
  .map ((.text "columns", .list index.columns) :: entryWhen index.unique "unique" (.bool true))

def same (first second : Index) : Bool :=
  Value.sameItems first.columns second.columns && first.unique == second.unique

end Index

namespace ForeignKey

def ofValue (value : Value) : Except Failure ForeignKey := do
  let references ← value.member "references"
  let entries ← value.entries
  pure {
    source := (Value.pick entries ["from", "from_"]).getD .null
    references := ← references.asMap }

/-- This function writes a single column alone and several as a list. -/
def collapse (columns : List Value) : Value :=
  match columns with
  | [column] => column
  | _ => .list columns

def toValue (key : ForeignKey) : Except Failure Value := do
  let source ← key.sourceColumns
  let table ← key.table
  let target ← key.targetColumns
  pure (.map [(.text "from", collapse source),
    (.text "references", .map [(table, collapse target)])])

def same (first second : ForeignKey) : Bool :=
  first.source.same second.source &&
    (Value.map first.references).same (.map second.references)

end ForeignKey

namespace Keyed

/-- This function reads every entry of a mapping. -/
def readAll {α : Type} (read : Value → Except Failure α) (entries : List (Value × Value)) :
    Except Failure (Keyed α) :=
  entries.mapM fun entry => do pure (entry.1, ← read entry.2)

/-- This function compares two mappings without regard to order. -/
def sameBy {α : Type} (same : α → α → Bool) (first second : Keyed α) : Bool :=
  first.length == second.length && first.all fun entry =>
    match second.get? entry.1 with
    | some value => same entry.2 value
    | none => false

end Keyed

namespace Schema

/-- This function gives the entries of a mapping that may be absent or empty. -/
def optionalEntries (value : Option Value) : Except Failure (List (Value × Value)) :=
  match value with
  | some value => if value.isTrue then value.entries else pure []
  | none => pure []

def optionalItems (value : Option Value) : Except Failure (List Value) :=
  match value with
  | some value => if value.isTrue then value.items else pure []
  | none => pure []

/-- This function reads the list of columns of a primary key. Null stands for none. -/
def keyColumns (value : Option Value) : Except Failure (Option (List Value)) :=
  match value with
  | none | some .null => pure none
  | some value => do pure (some (← value.nameList))

/-- This function reads a table. -/
def ofValue (value : Value) : Except Failure Schema := do
  let name ← value.member "name"
  let declared ← value.member "columns"
  let columns ← Keyed.readAll Column.ofValue (← declared.entries)
  let entries ← value.entries
  let indices ← Keyed.readAll Index.ofValue (← optionalEntries (Value.pick entries ["indices"]))
  let foreignKeys ← (← optionalItems (Value.pick entries ["foreign_keys", "foreignKeys"])).mapM
    ForeignKey.ofValue
  let primaryKey ← keyColumns (Value.pick entries ["primary_key", "primaryKey"])
  check { name, columns, indices, foreignKeys, primaryKey }

/-- This function writes every entry of a mapping. -/
def written {α : Type} (write : α → Value) (entries : Keyed α) : Value :=
  .map (entries.map fun entry => (entry.1, write entry.2))

/-- This function writes a table and leaves out what is empty. -/
def toValue (schema : Schema) : Except Failure Value := do
  let foreignKeys ← schema.foreignKeys.mapM ForeignKey.toValue
  pure (.map ([(.text "name", schema.name), (.text "columns", written Column.toValue schema.columns)] ++
    entryWhen (!schema.indices.isEmpty) "indices" (written Index.toValue schema.indices) ++
    entryWhen (!foreignKeys.isEmpty) "foreign_keys" (.list foreignKeys) ++
    entryWhen (!schema.compositeKey.isEmpty) "primary_key" (.list schema.compositeKey)))

def sameLists {α : Type} (same : α → α → Bool) : List α → List α → Bool
  | [], [] => true
  | x :: xs, y :: ys => same x y && sameLists same xs ys
  | _, _ => false

def samePrimaryKey : Option (List Value) → Option (List Value) → Bool
  | none, none => true
  | some first, some second => Value.sameItems first second
  | _, _ => false

/-- This function compares two tables part by part. -/
def same (first second : Schema) : Bool :=
  first.name.same second.name && Keyed.sameBy Column.same first.columns second.columns &&
    Keyed.sameBy Index.same first.indices second.indices &&
    sameLists ForeignKey.same first.foreignKeys second.foreignKeys &&
    samePrimaryKey first.primaryKey second.primaryKey

end Schema

end Tabular
