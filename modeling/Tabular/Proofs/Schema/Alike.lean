import Tabular.Proofs.Outcome
import Tabular.Proofs.Value.Sameness
import Tabular.Schema.Drift
import Tabular.Schema.Migration

/-!
This module says when two declarations of a table are alike: they differ only in collations that are
not written and in how they spell the columns of a foreign key. Nothing that is made of a declaration
tells it from one that is alike.
-/

namespace Tabular

/-! ## Mappings with the same keys -/

/-- Two mappings have the same keys in the same order, and their values are related. -/
def Keyed.Relates {α β : Type} (relates : α → β → Prop) : Keyed α → Keyed β → Prop :=
  List.Forall₂ fun first second => first.1 = second.1 ∧ relates first.2 second.2

namespace Keyed.Relates

variable {α β : Type} {relates : α → β → Prop} {first : Keyed α} {second : Keyed β}

/-- Related mappings have the same keys. -/
theorem keys (related : Relates relates first second) : first.keys = second.keys := by
  induction related with
  | nil => rfl
  | cons entry rest inductionHypothesis => exact congrArg₂ List.cons entry.1 inductionHypothesis

/-- Related mappings have related values at every key, or none at all. -/
theorem get? (related : Relates relates first second) (key : Value) :
    Option.Rel relates (first.get? key) (second.get? key) := by
  induction related with
  | nil => exact .none
  | cons entry rest inductionHypothesis =>
      rw [get?_cons, get?_cons, entry.1]
      split
      · exact .some entry.2
      · exact inductionHypothesis

/-- A key is in both of two related mappings or in neither. -/
theorem has (related : Relates relates first second) (key : Value) :
    first.has key = second.has key := by
  induction related with
  | nil => rfl
  | cons entry rest inductionHypothesis =>
      rw [Keyed.has, List.any_cons, entry.1, ← Keyed.has, inductionHypothesis]
      rfl

end Keyed.Relates

/-- Whether two mappings have the same keys depends on their keys only. -/
theorem Keyed.sameKeys_keys {α β : Type} (first : Keyed α) (second : Keyed β) :
    sameKeys first second = (first.keys.all (fun key => second.keys.any key.same) &&
      second.keys.all fun key => first.keys.any key.same) := by
  simp only [sameKeys, has, keys, List.all_map, List.any_map, Function.comp_def]

/-! ## Columns -/

/-- Two columns differ at most in a collation that is not written. -/
structure Column.Alike (first second : Column) : Prop where
  storage : first.storage = second.storage
  primaryKey : first.primaryKey = second.primaryKey
  unique : first.unique = second.unique
  notNull : first.notNull = second.notNull
  default : first.default = second.default
  collation : first.collation = second.collation ∨
    first.collation.isTrue = false ∧ second.collation.isTrue = false
  indexed : first.indexed = second.indexed

namespace Column.Alike

variable {first second : Column}

/-- Whatever is written of a collation is the same. -/
theorem written {α : Type} (alike : first.Alike second) (write : Value → α) (unwritten : α) :
    (if first.collation.isTrue then write first.collation else unwritten) =
      if second.collation.isTrue then write second.collation else unwritten := by
  rcases alike.collation with same | ⟨firstNone, secondNone⟩
  · rw [same]
  · rw [firstNone, secondNone]
    rfl

/-- Alike columns are written as the same line. -/
theorem line (alike : first.Alike second) (name : Value) : first.line name = second.line name := by
  rw [Column.line, Column.line, Column.constraints, Column.constraints, alike.storage,
    alike.primaryKey, alike.unique, alike.notNull, alike.default,
    alike.written fun collation => ["COLLATE " ++ collation.toText]]

/-- Alike columns ask for the same index of their own. -/
theorem flaggedExpression (alike : first.Alike second) (name : Value) :
    Schema.flaggedExpression name first = Schema.flaggedExpression name second := by
  rw [Schema.flaggedExpression, Schema.flaggedExpression,
    alike.written fun collation => Value.text (name.toText ++ " COLLATE " ++ collation.toText)]

end Column.Alike

/-! ## Foreign keys -/

/-- Two foreign keys refer from the same columns to the same columns of the same table. -/
structure ForeignKey.Alike (first second : ForeignKey) : Prop where
  source : first.sourceColumns = second.sourceColumns
  table : first.table = second.table
  target : first.targetColumns = second.targetColumns

/-- Alike foreign keys are written as the same line. -/
theorem ForeignKey.Alike.line {first second : ForeignKey} (alike : first.Alike second) :
    first.line = second.line := by
  rw [ForeignKey.line, ForeignKey.line, alike.source, alike.table, alike.target]

namespace Schema

/-- Two tables have the same names and keys, and their columns and foreign keys are alike. -/
structure Alike (first second : Schema) : Prop where
  name : first.name = second.name
  columns : Keyed.Relates Column.Alike first.columns second.columns
  indices : first.indices = second.indices
  foreignKeys : List.Forall₂ ForeignKey.Alike first.foreignKeys second.foreignKeys
  compositeKey : first.compositeKey = second.compositeKey

namespace Alike

variable {first second : Schema}

/-! ## Primary keys -/

/-- Alike tables flag the same columns. -/
theorem flaggedColumns (alike : first.Alike second) :
    first.flaggedColumns = second.flaggedColumns := by
  rw [Schema.flaggedColumns, Schema.flaggedColumns]
  have related := alike.columns
  generalize first.columns = columns, second.columns = others at related
  induction related with
  | nil => rfl
  | cons both rest inductionHypothesis =>
      rw [List.filter_cons, List.filter_cons, both.2.primaryKey]
      split
      · rw [List.map_cons, List.map_cons, inductionHypothesis, both.1]
      · exact inductionHypothesis

/-- Alike tables have the same primary key. -/
theorem primaryKeyColumns (alike : first.Alike second) :
    first.primaryKeyColumns = second.primaryKeyColumns := by
  rw [Schema.primaryKeyColumns, Schema.primaryKeyColumns, alike.compositeKey, alike.flaggedColumns]

/-- Alike columns of alike tables are both required or both not. -/
theorem isNotNull (alike : first.Alike second) {column other : Column} (both : column.Alike other)
    (name : Value) : first.isNotNull name column = second.isNotNull name other := by
  rw [Schema.isNotNull, Schema.isNotNull, isPrimaryKey, isPrimaryKey, alike.primaryKeyColumns,
    both.notNull]

/-! ## Statements -/

/-- Alike tables have the same definition. -/
theorem tableDefinition (alike : first.Alike second) :
    first.tableDefinition = second.tableDefinition := by
  have columns : first.columns.mapM (fun entry => entry.2.line entry.1) =
      second.columns.mapM fun entry => entry.2.line entry.1 :=
    Outcome.mapM_related (alike.columns.imp fun _ _ both => both.1 ▸ both.2.line _)
  have foreignKeys : first.foreignKeys.mapM ForeignKey.line =
      second.foreignKeys.mapM ForeignKey.line :=
    Outcome.mapM_related (alike.foreignKeys.imp fun _ _ both => both.line)
  rw [Schema.tableDefinition, Schema.tableDefinition, columns, foreignKeys, alike.compositeKey,
    alike.name]

/-- Alike tables refuse the same index columns. -/
theorem checkIndexColumns (alike : first.Alike second) (name : Value) (columns : List Value) :
    first.checkIndexColumns name columns = second.checkIndexColumns name columns := by
  induction columns with
  | nil => rfl
  | cons column rest inductionHypothesis =>
      rw [Schema.checkIndexColumns, Schema.checkIndexColumns, alike.columns.has,
        inductionHypothesis]

/-- Alike tables plan the same declared indices. -/
theorem declaredPlans (alike : first.Alike second) (indices : Keyed Index) :
    first.declaredPlans indices = second.declaredPlans indices := by
  induction indices with
  | nil => rfl
  | cons entry rest inductionHypothesis =>
      rw [Schema.declaredPlans, Schema.declaredPlans, alike.checkIndexColumns, inductionHypothesis]

/-- Alike columns add the same indices to a plan. -/
theorem addFlagged {columns others : Keyed Column}
    (related : Keyed.Relates Column.Alike columns others) (plans : Keyed IndexPlan) :
    Schema.addFlagged plans columns = Schema.addFlagged plans others := by
  induction related generalizing plans with
  | nil => rfl
  | cons both rest inductionHypothesis =>
      rw [Schema.addFlagged, Schema.addFlagged, both.1, both.2.indexed, both.2.flaggedExpression,
        inductionHypothesis, inductionHypothesis]

/-- Alike tables are created by the same definitions. -/
theorem definitions (alike : first.Alike second) : first.definitions = second.definitions := by
  have plans : first.indexPlans = second.indexPlans := by
    rw [indexPlans, indexPlans, alike.indices, alike.declaredPlans]
    exact congrArg _ (funext fun plans => by rw [addFlagged alike.columns])
  have write : first.indexDefinition = second.indexDefinition := by
    funext name plan
    rw [indexDefinition, indexDefinition, alike.name]
  rw [Schema.definitions, Schema.definitions, alike.tableDefinition, indexDefinitions,
    indexDefinitions, plans, write]

/-- A migration to either of two alike tables takes the same steps. -/
theorem migration (alike : first.Alike second) (old : Schema) (backup : String)
    (indices : List Value) :
    first.migration old backup indices = second.migration old backup indices := by
  rw [Schema.migration, Schema.migration, copyStep, copyStep, sharedColumns, sharedColumns,
    alike.columns.keys, alike.name, alike.definitions]

/-! ## Comparisons -/

/-- Alike tables agree with the same stored columns. -/
theorem columnsAgree (alike : first.Alike second) {columns others : Keyed Column}
    (related : Keyed.Relates Column.Alike columns others) (actual : Schema) :
    first.columnsAgree actual columns = second.columnsAgree actual others := by
  induction related with
  | nil => rfl
  | @cons entry other _ _ both rest inductionHypothesis =>
      obtain ⟨name, column⟩ := entry
      obtain ⟨_, otherColumn⟩ := other
      obtain ⟨rfl, both⟩ := both
      rw [Schema.columnsAgree, Schema.columnsAgree, both.storage, both.default,
        alike.isNotNull both, inductionHypothesis]

/-- A table is compared in the same way with two tables that are alike. -/
theorem columnsAgree_with (alike : first.Alike second) (declared : Schema)
    (columns : Keyed Column) :
    declared.columnsAgree first columns = declared.columnsAgree second columns := by
  induction columns with
  | nil => rfl
  | cons entry rest inductionHypothesis =>
      obtain ⟨name, column⟩ := entry
      rw [Schema.columnsAgree, Schema.columnsAgree, inductionHypothesis]
      have related := alike.columns.get? name
      generalize first.columns.get? name = old, second.columns.get? name = other at related
      cases related with
      | none => rfl
      | some both => simp only [both.storage, both.default, alike.isNotNull both]

/-- An old foreign key finds alike counterparts among alike foreign keys. -/
theorem counterpart {keys others : List ForeignKey}
    (each : List.Forall₂ ForeignKey.Alike keys others) (old : ForeignKey) :
    (∃ failure, Schema.counterpart old keys = .error failure ∧
      Schema.counterpart old others = .error failure) ∨
    ∃ found other, Schema.counterpart old keys = .ok found ∧
      Schema.counterpart old others = .ok other ∧ Option.Rel ForeignKey.Alike found other := by
  induction each with
  | nil => exact .inr ⟨none, none, rfl, rfl, .none⟩
  | @cons key other _ _ both rest inductionHypothesis =>
      rw [Schema.counterpart, Schema.counterpart, both.source]
      cases other.sourceColumns with
      | error failure => exact .inl ⟨failure, rfl, rfl⟩
      | ok columns =>
          cases old.sourceColumns with
          | error failure => exact .inl ⟨failure, rfl, rfl⟩
          | ok wanted =>
              simp only [Outcome.ok_bind]
              split
              · exact .inr ⟨some key, some other, rfl, rfl, .some both⟩
              · exact inductionHypothesis

/-- Alike foreign keys have the same target as an old one, or both have not. -/
theorem sameTarget {key other old : ForeignKey} (alike : key.Alike other) :
    Schema.sameTarget key old = Schema.sameTarget other old := by
  rw [Schema.sameTarget, Schema.sameTarget, alike.table, alike.target]

/-- Alike foreign keys agree with the same old ones. -/
theorem foreignKeysAgree {keys others : List ForeignKey}
    (each : List.Forall₂ ForeignKey.Alike keys others) (olds : List ForeignKey) :
    Schema.foreignKeysAgree keys olds = Schema.foreignKeysAgree others olds := by
  induction olds with
  | nil => rfl
  | cons old rest inductionHypothesis =>
      rw [Schema.foreignKeysAgree, Schema.foreignKeysAgree, inductionHypothesis]
      obtain ⟨failure, found, other⟩ | ⟨_, _, found, other, same⟩ := counterpart each old
      · rw [found, other]
      · rw [found, other]
        cases same with
        | none => rfl
        | some both => simp only [Outcome.ok_bind, sameTarget both]

/-- A foreign key is compared in the same way with two foreign keys that are alike. -/
theorem counterpart_with {key other : ForeignKey} (alike : key.Alike other)
    (declared : List ForeignKey) :
    Schema.counterpart key declared = Schema.counterpart other declared := by
  induction declared with
  | nil => rfl
  | cons first rest inductionHypothesis =>
      rw [Schema.counterpart, Schema.counterpart, alike.source, inductionHypothesis]

/-- Old foreign keys that are alike agree with the same declared ones. -/
theorem foreignKeysAgree_with {keys others : List ForeignKey}
    (each : List.Forall₂ ForeignKey.Alike keys others) (declared : List ForeignKey) :
    Schema.foreignKeysAgree declared keys = Schema.foreignKeysAgree declared others := by
  induction each with
  | nil => rfl
  | @cons key other _ _ both rest inductionHypothesis =>
      have target : ∀ found, Schema.sameTarget found key = Schema.sameTarget found other := by
        intro found
        rw [Schema.sameTarget, Schema.sameTarget, both.table, both.target]
      simp only [Schema.foreignKeysAgree, inductionHypothesis, counterpart_with both, target]

theorem agrees (alike : first.Alike second) (actual : Schema) :
    first.agrees actual = second.agrees actual := by
  rw [Schema.agrees, Schema.agrees, Keyed.sameKeys_keys, Keyed.sameKeys_keys, alike.columns.keys,
    alike.columnsAgree alike.columns, alike.foreignKeys.length_eq,
    foreignKeysAgree alike.foreignKeys]

/-- A declared table agrees with both of two alike stored tables or with neither. -/
theorem agrees_with (alike : first.Alike second) (declared : Schema) :
    declared.agrees first = declared.agrees second := by
  rw [Schema.agrees, Schema.agrees, Keyed.sameKeys_keys, Keyed.sameKeys_keys, alike.columns.keys,
    alike.columnsAgree_with, alike.foreignKeys.length_eq,
    foreignKeysAgree_with alike.foreignKeys]

end Alike

/-- Nothing that is compared, written or planned tells two tables apart. -/
structure Indistinguishable (first second : Schema) : Prop where
  agrees : ∀ actual, first.agrees actual = second.agrees actual
  agrees_with : ∀ declared : Schema, declared.agrees first = declared.agrees second
  definitions : first.definitions = second.definitions
  primaryKeyColumns : first.primaryKeyColumns = second.primaryKeyColumns
  isNotNull : Keyed.Relates (fun column other => ∀ name,
    first.isNotNull name column = second.isNotNull name other) first.columns second.columns
  migration : ∀ old backup indices,
    first.migration old backup indices = second.migration old backup indices

/-- Nothing that is compared, written or planned tells alike tables apart. -/
theorem Alike.indistinguishable {first second : Schema} (alike : first.Alike second) :
    Indistinguishable first second where
  agrees := alike.agrees
  agrees_with := alike.agrees_with
  definitions := alike.definitions
  primaryKeyColumns := alike.primaryKeyColumns
  isNotNull := alike.columns.imp fun _ _ both => ⟨both.1, alike.isNotNull both.2⟩
  migration := alike.migration

end Schema

end Tabular
