import Tabular.Proofs.Engine.Finding
import Tabular.Proofs.Table.Columns

/-!
This module says what an engine reports of any table, and which table the reports describe. The rows
of each report come in any order.
-/

namespace Tabular

/-- A text that may be missing. -/
def Value.orNull : Option String → Value
  | some content => .text content
  | none => .null

/-- The items in the order of their places. -/
def inPlaces {α : Type} (place : α → Int) (items : List α) : List α :=
  items.mergeSort fun first second => place first ≤ place second

/-! ## Reports -/

/-- A column as it is reported. Its place in the primary key is zero where it does not belong to
it. -/
structure ReportedColumn where
  name : String
  storage : Option String
  notNull : Int
  default : Option String
  place : Int

/-- One part of an index with its place. An expression has no name. -/
structure ReportedPart where
  place : Int
  name : Option String

structure ReportedIndex where
  name : String
  origin : String
  unique : Int
  parts : List ReportedPart

/-- One column of a foreign key with its place. The column that it refers to may be left out. -/
structure ReportedLink where
  number : Int
  place : Int
  table : String
  source : String
  target : Option String

/-- All that is reported of a table. -/
structure Replies where
  columns : List ReportedColumn
  indices : List ReportedIndex
  links : List ReportedLink

/-- Names differ, and so do the places of what has an order. -/
structure Replies.Distinct (replies : Replies) : Prop where
  columns : (replies.columns.map ReportedColumn.name).Nodup
  key : ((replies.columns.filter fun column => column.place ≠ 0).map ReportedColumn.place).Nodup
  indices : (replies.indices.map ReportedIndex.name).Nodup
  parts : ∀ index ∈ replies.indices, (index.parts.map ReportedPart.place).Nodup
  links : (replies.links.map fun link => (link.number, link.place)).Nodup

/-! ## Rows -/

/-- A row of `table_info` stands for a column. -/
structure ColumnReply (column : ReportedColumn) (row : Row) : Prop where
  name : row.column "name" = .ok (.text column.name)
  storage : row.column "type" = .ok (.orNull column.storage)
  notNull : row.column "notnull" = .ok (.int column.notNull)
  default : row.column "dflt_value" = .ok (.orNull column.default)
  place : row.column "pk" = .ok (.int column.place)

/-- A row of `index_info` stands for a part of an index. -/
structure PartReply (part : ReportedPart) (row : Row) : Prop where
  place : row.column "seqno" = .ok (.int part.place)
  name : row.column "name" = .ok (.orNull part.name)

/-- A row of `index_list` stands for an index. -/
structure IndexReply (index : ReportedIndex) (row : Row) : Prop where
  name : row.column "name" = .ok (.text index.name)
  origin : row.column "origin" = .ok (.text index.origin)
  unique : row.column "unique" = .ok (.int index.unique)

/-- A row of `foreign_key_list` stands for one column of a foreign key. -/
structure LinkReply (link : ReportedLink) (row : Row) : Prop where
  number : row.column "id" = .ok (.int link.number)
  place : row.column "seq" = .ok (.int link.place)
  table : row.column "table" = .ok (.text link.table)
  source : row.column "from" = .ok (.text link.source)
  target : row.column "to" = .ok (.orNull link.target)

/-- In a valid state the engine gives the replies about a table. Each time it may choose another
order of the rows. -/
structure Reporting {τ : Type} (engine : Engine τ) (connection : Connection) (valid : τ → Prop)
    (schema : Schema) (replies : Replies) : Prop where
  accepts : Accepting engine connection valid
  columns : Executes engine connection valid (Schema.pragmaText "table_info" schema.name)
    (Lists ColumnReply replies.columns)
  indices : Executes engine connection valid (Schema.pragmaText "index_list" schema.name)
    (Lists IndexReply replies.indices)
  parts : ∀ index ∈ replies.indices,
    Executes engine connection valid (Schema.pragmaText "index_info" (.text index.name))
      (Lists PartReply index.parts)
  links : Executes engine connection valid (Schema.pragmaText "foreign_key_list" schema.name)
    (Lists LinkReply replies.links)

/-! ## The described table -/

namespace ReportedIndex

def columns (index : ReportedIndex) : List Value :=
  (inPlaces ReportedPart.place index.parts).map fun part => .orNull part.name

/-- The only column of an index that a constraint made. -/
def uniqueColumn? (index : ReportedIndex) : Option Value :=
  if index.origin = "u" ∧ index.unique ≠ 0 then Schema.onlyColumn index.columns else none

/-- The declared part of the name of an index that was created for the table. -/
def declaredName? (schema : Schema) (index : ReportedIndex) : Option String :=
  let start := schema.indexStart.toList
  if index.origin = "c" ∧ start <+: index.name.toList then
    some (String.ofList (index.name.toList.drop start.length))
  else none

/-- The index under its declared name, where it was created for the table. -/
def declared? (schema : Schema) (index : ReportedIndex) : Option (Value × Index) :=
  (index.declaredName? schema).map fun name =>
    (.text name, { columns := index.columns, unique := index.unique ≠ 0 })

end ReportedIndex

/-- The foreign key that some links describe. -/
def ReportedLink.foreignKey? (links : List ReportedLink) : Option ForeignKey :=
  let ordered := inPlaces ReportedLink.place links
  ordered.head?.map fun first => {
    source := Schema.oneOrTuple ((ordered.map ReportedLink.source).map Value.text)
    references := [(.text first.table,
      Schema.oneOrTuple ((ordered.filterMap ReportedLink.target).map Value.text))] }

namespace Replies

variable (replies : Replies)

/-- The columns of the primary key in the order of their places. -/
def key : List Value :=
  (inPlaces ReportedColumn.place (replies.columns.filter fun column => column.place ≠ 0)).map
    fun column => .text column.name

def uniqueColumns : List Value := replies.indices.filterMap ReportedIndex.uniqueColumn?

def entry (column : ReportedColumn) : Value × Column :=
  (.text column.name, {
    storage := (column.storage.map Storage.ofReported).getD .blob
    primaryKey := Schema.isOnlyColumn (Schema.onlyColumn replies.key) (.text column.name)
    unique := replies.uniqueColumns.any (Value.text column.name).same
    notNull := column.notNull ≠ 0
    default := (column.default.map readDefault).getD .null })

/-- The links with one number. -/
def linksOf (number : Int) : List ReportedLink :=
  replies.links.filter fun link => link.number = number

/-- The foreign keys by their numbers. -/
def foreignKeys : List ForeignKey :=
  (replies.links.map ReportedLink.number).dedup.filterMap fun number =>
    ReportedLink.foreignKey? (replies.linksOf number)

/-- A table is the one that the replies describe, up to the order of its parts. -/
structure Describes (schema found : Schema) : Prop where
  name : found.name = schema.name
  columns : found.columns.Perm (replies.columns.map replies.entry)
  indices : found.indices.Perm (replies.indices.filterMap (ReportedIndex.declared? schema))
  foreignKeys : found.foreignKeys.Perm replies.foreignKeys
  primaryKey : found.primaryKey = if 1 < replies.key.length then some replies.key else none

end Replies

end Tabular
