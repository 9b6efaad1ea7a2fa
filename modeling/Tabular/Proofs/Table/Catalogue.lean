import Mathlib.Data.List.Perm.Basic
import Mathlib.Data.List.ReduceOption
import Tabular.Proofs.Engine.Answers
import Tabular.Proofs.Outcome
import Tabular.Proofs.Value.Sorted
import Tabular.Table.Reconciler

/-!
This module says what an engine reports of a table that was created for a declaration. Rows come in
any order, and some of them are put in the order of their places.
-/

namespace Tabular

variable {α : Type}

/-- The rows stand for the items, in any order. -/
def Lists (stands : α → Row → Prop) (items : List α) (rows : List Row) : Prop :=
  ∃ listed : List α, listed.Perm items ∧ List.Forall₂ stands listed rows

/-- The rows stand for the items and number their places from zero. -/
def ListsPlaces (place : String) (stands : α → Row → Prop) (items : List α) (rows : List Row) :
    Prop :=
  Lists (fun entry row => row.column place = .ok (.int entry.2) ∧ stands entry.1 row)
    items.zipIdx rows

/-! ## Reported columns -/

/-- The place of a column in the primary key, counted from one. Other columns have zero. -/
def Schema.keyPlace (schema : Schema) (name : Value) : Nat :=
  if name ∈ schema.primaryKeyColumns then schema.primaryKeyColumns.idxOf name + 1 else 0

/-- A row of `table_info` stands for a column as it is written. A column of the primary key may be
reported with or without its constraint. -/
structure ColumnRow (schema : Schema) (entry : Value × Column) (row : Row) : Prop where
  name : row.column "name" = .ok entry.1
  storage : row.column "type" = .ok (.text entry.2.storage.name)
  notNull : ∃ flag : Bool, row.column "notnull" = .ok (.int (if flag then 1 else 0)) ∧
    (entry.1 ∉ schema.primaryKeyColumns → (flag = true ↔ "NOT NULL" ∈ entry.2.constraints))
  default : (entry.2.default = .null ∧ row.column "dflt_value" = .ok .null) ∨
    ∃ text, Column.defaultText entry.1 entry.2.default = .ok text ∧
      row.column "dflt_value" = .ok (.text text)
  key : row.column "pk" = .ok (.int (schema.keyPlace entry.1))

/-! ## Reported foreign keys -/

/-- A foreign key that is reported under a number. -/
structure NumberedKey where
  number : Int
  source : List Value
  table : Value
  target : List Value

/-- One column of a foreign key, with its place. -/
structure Link where
  number : Int
  table : Value
  columns : (Value × Value) × Nat

namespace NumberedKey

def links (key : NumberedKey) : List Link :=
  (key.source.zip key.target).zipIdx.map fun columns => ⟨key.number, key.table, columns⟩

/-- A declared foreign key is reported under some number. -/
structure Describes (declared : ForeignKey) (key : NumberedKey) : Prop where
  source : declared.sourceColumns = .ok key.source
  table : declared.table = .ok key.table
  target : declared.targetColumns = .ok key.target

end NumberedKey

/-- A row of `foreign_key_list` stands for one column of a foreign key. -/
structure LinkRow (link : Link) (row : Row) : Prop where
  number : row.column "id" = .ok (.int link.number)
  place : row.column "seq" = .ok (.int link.columns.2)
  table : row.column "table" = .ok link.table
  source : row.column "from" = .ok link.columns.1.1
  target : row.column "to" = .ok link.columns.1.2

/-! ## Reported indices -/

/-- A row of `index_info` stands for a column. -/
def NamesColumn (column : Value) (row : Row) : Prop := row.column "name" = .ok column

/-- The columns of an index are known. -/
def AnswersIndex (answers : Answers) (index : Value) (columns : List Value) : Prop :=
  ∃ rows, answers (Schema.pragmaText "index_info" index) (.tuple []) = some rows ∧
    ListsPlaces "seqno" NamesColumn columns rows

/-- A row of `index_list` that stands for a created index. -/
structure CreatedRow (schema : Schema) (answers : Answers) (entry : Value × IndexPlan) (row : Row) :
    Prop where
  origin : row.column "origin" = .ok (.text "c")
  name : row.column "name" = .ok (.text (Schema.indexName schema.name entry.1))
  unique : row.column "unique" = .ok (.int (if entry.2.index.unique then 1 else 0))
  columns : AnswersIndex answers (.text (Schema.indexName schema.name entry.1)) entry.2.index.columns

/-- A row of `index_list` that stands for an index of a constraint. -/
structure ConstraintRow (answers : Answers) (row : Row) : Prop where
  origin : row.column "origin" = .ok (.text "u") ∨ row.column "origin" = .ok (.text "pk")
  unique : row.column "unique" = .ok (.int 1)
  columns : ∃ name columns, row.column "name" = .ok (.text name) ∧
    AnswersIndex answers (.text name) columns

/-- A row of `index_list` stands for a created index, or for none where a constraint made it. -/
def IndexRow (schema : Schema) (answers : Answers) (entry : Option (Value × IndexPlan)) (row : Row) :
    Prop :=
  match entry with
  | some created => CreatedRow schema answers created row
  | none => ConstraintRow answers row

/-- The answers tell of a table that was created for a declaration with planned indices. -/
structure Reports (answers : Answers) (schema : Schema) (plans : Keyed IndexPlan) : Prop where
  counted : ∃ row, answers Schema.countTableText (.tuple [schema.name]) = some [row] ∧
    row.column "count" = .ok (.int 1)
  columns : ∃ rows, answers (Schema.pragmaText "table_info" schema.name) (.tuple []) = some rows ∧
    Lists (ColumnRow schema) schema.columns rows
  foreignKeys : ∃ rows keys,
    answers (Schema.pragmaText "foreign_key_list" schema.name) (.tuple []) = some rows ∧
    List.Forall₂ NumberedKey.Describes schema.foreignKeys keys ∧
    (keys.map NumberedKey.number).Nodup ∧
    Lists LinkRow (keys.flatMap NumberedKey.links) rows
  indices : ∃ rows listed,
    answers (Schema.pragmaText "index_list" schema.name) (.tuple []) = some rows ∧
    List.Forall₂ (IndexRow schema answers) listed rows ∧ listed.reduceOption.Perm plans

/-! ## Rows in their places -/

/-- The place that a row reports, where it reports a whole number. -/
def placeOf (place : String) (row : Row) : Int :=
  match row.column place with
  | .ok (.int number) => number
  | _ => 0

theorem placeOf_eq {place : String} {row : Row} {number : Int}
    (reports : row.column place = .ok (.int number)) : placeOf place row = number := by
  rw [placeOf, reports]

/-- Rows are read with their places before they are sorted. -/
theorem mapM_place {place : String} {rows : List Row}
    (numbered : ∀ row ∈ rows, ∃ number, row.column place = .ok (.int number)) :
    (rows.mapM fun row => do pure (← row.column place, row) : Except Failure (List (Value × Row))) =
      .ok ((rows.map fun row => (placeOf place row, row)).map Value.numbered) := by
  rw [List.map_map, Outcome.mapM_eq_ok, List.forall₂_map_right_iff, List.forall₂_same]
  intro row member
  obtain ⟨number, reports⟩ := numbered row member
  rw [Function.comp_apply, placeOf_eq reports, reports]
  rfl

/-- The rows are sorted by the places that they report. -/
theorem Lists.sorted {stands : α → Row → Prop} {items : List α} {rows : List Row}
    (lists : Lists stands items rows) {name : String} {place : α → Int}
    (reports : ∀ item row, stands item row → row.column name = .ok (.int (place item))) :
    ∃ placed sorted ordered, (rows.mapM fun row => do pure (← row.column name, row) :
        Except Failure (List (Value × Row))) = .ok placed ∧
      Value.sortedBy placed = .ok sorted ∧ List.Forall₂ stands ordered sorted ∧
      ordered.Perm items ∧ ordered.Pairwise fun first second => place first ≤ place second := by
  obtain ⟨listed, perm, each⟩ := lists
  have numbered : ∀ row ∈ rows, ∃ number, row.column name = .ok (.int number) := by
    intro row member
    obtain ⟨item, -, stands⟩ := Outcome.standing each member
    exact ⟨_, reports item row stands⟩
  obtain ⟨result, sorted, permResult, inOrder⟩ :=
    Value.sortedBy_numbered (rows.map fun row => (placeOf name row, row))
  have permRows : (result.map Prod.snd).Perm rows := by
    have placed := permResult.map Prod.snd
    rwa [List.map_map, show Prod.snd ∘ (fun row => (placeOf name row, row)) = id from rfl,
      List.map_id] at placed
  obtain ⟨ordered, eachOrdered, permOrdered⟩ := List.perm_comp_forall₂ permRows each.flip
  refine ⟨_, _, ordered, mapM_place numbered, sorted, eachOrdered.flip, permOrdered.trans perm, ?_⟩
  have places : ordered.map place = result.map Prod.fst := by
    have first : result.map Prod.fst = (result.map Prod.snd).map (placeOf name) := by
      rw [List.map_map]
      refine List.map_congr_left fun entry member => ?_
      obtain ⟨row, -, rfl⟩ := List.mem_map.mp (permResult.subset member)
      rfl
    rw [first, ← List.forall₂_eq_eq_eq, List.forall₂_map_left_iff, List.forall₂_map_right_iff]
    exact eachOrdered.flip.imp fun item row stands => (placeOf_eq (reports item row stands)).symm
  rw [← List.pairwise_map (R := (· ≤ ·)), places, List.pairwise_map]
  exact inOrder

/-- Rows with places are sorted into the order of the items. -/
theorem ListsPlaces.sorted {place : String} {stands : α → Row → Prop} {items : List α}
    {rows : List Row} (lists : ListsPlaces place stands items rows) :
    ∃ placed sorted, (rows.mapM fun row => do pure (← row.column place, row) :
        Except Failure (List (Value × Row))) = .ok placed ∧
      Value.sortedBy placed = .ok sorted ∧ List.Forall₂ stands items sorted := by
  obtain ⟨placed, sorted, ordered, placedDone, sortedDone, each, perm, inOrder⟩ :=
    Lists.sorted lists fun _ _ reports => reports.1
  have increasing : items.zipIdx.Pairwise fun one other => (one.2 : Int) < other.2 := by
    rw [← List.pairwise_map (R := fun one other : Nat => (one : Int) < other), List.zipIdx_map_snd]
    exact List.Pairwise.imp Int.ofNat_lt.mpr List.pairwise_lt_range'
  have same : ordered = items.zipIdx := Value.eq_of_inOrder perm inOrder
    (increasing.imp Int.le_of_lt) (List.pairwise_map.mpr (increasing.imp Int.ne_of_lt))
  refine ⟨placed, sorted, placedDone, sortedDone, ?_⟩
  have inPlaces := each.imp fun entry row reports => reports.2
  rwa [same, ← List.forall₂_map_left_iff, List.zipIdx_map_fst] at inPlaces

end Tabular
