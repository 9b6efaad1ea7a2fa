import Tabular.Proofs.Schema.Declared
import Tabular.Proofs.Sql.Replacement

/-!
This module shows that a migration moves the data of a table. Its written steps are read as the
statements of a replacement, and the columns that both tables have are copied.
-/

namespace Tabular

open Sql

variable {Cell : Type}

namespace Schema

/-! ## Shared columns -/

/-- The names of the columns that are copied. -/
def sharedNames (schema old : Schema) : List String :=
  (sharedColumns schema old).map Value.toText

section Texts

variable {schema : Schema} (texts : ∀ key ∈ schema.columns.keys, ∃ name, key = Value.text name)

include texts

/-- A shared name is a column of both tables. -/
theorem mem_sharedNames {old : Schema} {name : String} :
    name ∈ sharedNames schema old ↔
      .text name ∈ schema.columns.keys ∧ old.columns.has (.text name) = true := by
  rw [sharedNames, List.mem_map, ← List.mem_filter]
  constructor
  · rintro ⟨key, member, rfl⟩
    obtain ⟨word, rfl⟩ := texts key (List.mem_filter.mp member).1
    exact member
  · exact fun member => ⟨.text name, member, rfl⟩

/-- The shared columns of a table with proper names are texts. -/
theorem sharedColumns_text (old : Schema) :
    sharedColumns schema old = (sharedNames schema old).map Value.text := by
  apply Value.map_text_toText
  exact fun key member => texts key (List.mem_filter.mp member).1

/-- The rows are copied by their shared columns, and not at all where there are none. -/
theorem copyStep_eq (old : Schema) (backup : String) :
    copyStep schema old backup = .ok (if sharedNames schema old = [] then []
      else [.copy schema.name.toText backup (sharedNames schema old)]) := by
  rw [copyStep, Value.mapM_asText_eq_ok.mpr (sharedColumns_text texts old)]
  cases sharedNames schema old with
  | nil => rfl
  | cons name rest => rfl

end Texts

/-! ## The written steps -/

/-- The index that a plan creates, with its name. -/
def namedIndex (schema : Schema) (entry : Value × IndexPlan) : NamedIndex :=
  (indexName schema.name entry.1,
    ⟨schema.name.toText, entry.2.index.unique, entry.2.index.columns.map Value.toText⟩)

/-- This function lists the steps of a migration. -/
def steps (schema old : Schema) (backup : String) (indices : List String)
    (definitions : List Definition) : List MigrationStep :=
  [.rename schema.name.toText backup] ++ indices.map .dropIndex ++ definitions.map .create ++
    (if sharedNames schema old = [] then []
      else [.copy schema.name.toText backup (sharedNames schema old)]) ++ [.dropTable backup]

/-- A migration to a table that can be written takes the listed steps. -/
theorem migration_lists {schema : Schema} {definitions : List Definition}
    (rendered : schema.definitions = .ok definitions) (old : Schema) (backup : String)
    (indices : List Value) :
    schema.migration old backup indices =
      .ok (schema.steps old backup (indices.map Value.toText) definitions) := by
  rw [migration, rendered, copyStep_eq (columns_text rendered), steps, List.map_map]
  rfl

/-- So it does for indices that are named by texts. -/
theorem migration_eq {schema : Schema} (named : schema.WellNamed) (old : Schema)
    {definitions : List Definition} (rendered : schema.definitions = .ok definitions)
    (backup : String) (indices : List String) :
    schema.migration old backup (indices.map Value.text) =
      .ok (schema.steps old backup indices definitions) := by
  rw [migration, rendered, copyStep_eq named.columnTexts, List.map_map]
  rfl

/-- A step is read as a statement. -/
def ReadsStep (step : MigrationStep) (statement : Statement) : Prop :=
  Statement.ofText? step.sql = some statement

/-- The steps of a migration are read as the statements of a replacement. -/
theorem migration_reads {schema : Schema} (named : schema.WellNamed) (old : Schema)
    {definitions : List Definition} (rendered : schema.definitions = .ok definitions)
    {backup : String} (plainBackup : PlainName backup) {indices : List String}
    (plainIndices : ∀ index ∈ indices, PlainName index) :
    ∃ plans, schema.indexPlans = .ok plans ∧
      List.Forall₂ ReadsStep (schema.steps old backup indices definitions)
        (replacement schema.name.toText backup indices schema.clauses
          (plans.map schema.namedIndex) (sharedNames schema old)) := by
  obtain ⟨table, name, plainTable⟩ := Value.isPlain_iff.mp named.table
  have plainTable : PlainName schema.name.toText := by rwa [name]
  obtain ⟨plans, planned, created⟩ := definitions_read named rendered
  have renamed : List.Forall₂ ReadsStep [.rename schema.name.toText backup]
      [.rename schema.name.toText backup] :=
    .cons (MigrationStep.rename_read plainTable plainBackup) .nil
  have dropped : List.Forall₂ ReadsStep (indices.map .dropIndex) (indices.map .dropIndex) := by
    rw [List.forall₂_map_left_iff, List.forall₂_map_right_iff, List.forall₂_same]
    exact fun index member => MigrationStep.dropIndex_read (plainIndices index member)
  have defined : List.Forall₂ ReadsStep (definitions.map .create)
      (.createTable schema.name.toText schema.clauses ::
        (plans.map schema.namedIndex).map NamedIndex.statement) := by
    rw [List.forall₂_map_left_iff, List.map_map]
    exact created
  have copied : List.Forall₂ ReadsStep
      (if sharedNames schema old = [] then []
        else [.copy schema.name.toText backup (sharedNames schema old)])
      (if sharedNames schema old = [] then []
        else [.copy schema.name.toText (sharedNames schema old) backup
          (sharedNames schema old)]) := by
    have plainShared : ∀ column ∈ sharedNames schema old, PlainName column :=
      fun column member => named.columns _ ((mem_sharedNames named.columnTexts).mp member).1
    split
    · exact .nil
    · next filled =>
        exact .cons (MigrationStep.copy_read plainTable plainBackup plainShared filled) .nil
  have last : List.Forall₂ ReadsStep [.dropTable backup] [.dropTable backup] :=
    .cons (MigrationStep.dropTable_read plainBackup) .nil
  exact ⟨plans, planned, List.rel_append (List.rel_append (List.rel_append
    (List.rel_append renamed dropped) defined) copied) last⟩

/-! ## The moved rows -/

/-- The default that a written column gets is the declared one. -/
theorem defaultOf_clauses {schema : Schema} (named : schema.WellNamed) (name : String) :
    Table.defaultOf schema.clauses name =
      (schema.columns.get? (.text name)).bind fun column => column.default.defaultToken := by
  have plain := named.columns
  rw [clauses]
  generalize schema.columns = columns at plain ⊢
  induction columns with
  | nil => rfl
  | cons entry columns inductionHypothesis =>
      obtain ⟨key, column⟩ := entry
      obtain ⟨word, rfl, -⟩ := Value.isPlain_iff.mp (plain key (by simp [Keyed.keys]))
      have rest := inductionHypothesis fun other member => plain other (by simp_all [Keyed.keys])
      rw [Table.defaultOf] at rest ⊢
      rw [Keyed.get?_cons, List.map_cons, List.find?_cons]
      have clauseName : (column.clause (.text word)).name = word := rfl
      simp only [clauseName, Value.same_text_text]
      by_cases same : name = word
      · rw [same, decide_eq_true rfl, beq_self_eq_true]
        rfl
      · rw [decide_eq_false (Ne.symm same), beq_false_of_ne same]
        exact rest

/-- A moved row keeps what it has in the shared columns and gets defaults in the others. -/
def movedRow (fill : Option Token → Cell) (schema old : Schema) (row : Record Cell) : Record Cell :=
  fun name =>
    if schema.columns.has (.text name) && old.columns.has (.text name) then row name
    else fill ((schema.columns.get? (.text name)).bind fun column => column.default.defaultToken)

/-- No row is moved when no column is shared. -/
def movedRows (fill : Option Token → Cell) (schema old : Schema) (rows : List (Record Cell)) :
    List (Record Cell) :=
  if (sharedColumns schema old).isEmpty then [] else rows.map (movedRow fill schema old)

/-- A list that is paired with itself gives back its own names. -/
theorem lookup_zip_same (names : List String) (name : String) :
    (names.zip names).lookup name = if name ∈ names then some name else none := by
  induction names with
  | nil => rfl
  | cons first names inductionHypothesis =>
      rw [List.zip_cons_cons, List.lookup_cons]
      by_cases same : name = first
      · simp [same]
      · simp [same, beq_false_of_ne same, inductionHypothesis]

/-- The rows that a copy writes are the moved ones. -/
theorem copiedRows_moved (fill : Option Token → Cell) {schema : Schema} (named : schema.WellNamed)
    (old : Schema) (rows : List (Record Cell)) :
    copiedRows fill schema.clauses (sharedNames schema old) rows = movedRows fill schema old rows := by
  have row : copiedRow fill schema.clauses (sharedNames schema old) (sharedNames schema old) =
      movedRow fill schema old := by
    funext row name
    rw [copiedRow, movedRow, lookup_zip_same, defaultOf_clauses named]
    by_cases shared : name ∈ sharedNames schema old
    · have both := (mem_sharedNames named.columnTexts).mp shared
      simp [shared, Keyed.has_text_iff.mpr both.1, both.2]
    · have other := mt (mem_sharedNames named.columnTexts).mpr shared
      rw [← Keyed.has_text_iff, ← Bool.and_eq_true] at other
      simp [shared, other]
  rw [copiedRows, movedRows, row, sharedColumns_text named.columnTexts]
  simp

/-! ## The migration -/

/-- A store in which a table is about to be migrated. The old declaration has the columns of the
table, the listed indices are its indices, and the new names are free or belong to it. -/
structure Migratable (schema old : Schema) (store : Store Cell) (content : Table Cell)
    (backup : String) (indices : List String) : Prop where
  attached : ∀ index entry, store.indices index = some entry →
    (store.tables entry.table).isSome = true
  existing : store.tables schema.name.toText = some content
  oldColumns : ∀ column, column ∈ content.names ↔ old.columns.has (.text column) = true
  plainBackup : PlainName backup
  unused : store.tables backup = none
  plainIndices : ∀ index ∈ indices, PlainName index
  indicesOnce : indices.Nodup
  indicesAll : ∀ index, index ∈ indices ↔ ∃ entry, store.indices index = some entry ∧
    entry.table = schema.name.toText
  created : ∀ plans, schema.indexPlans = .ok plans → ∀ name ∈ plans.keys, ∀ entry,
    store.indices (indexName schema.name name) = some entry → entry.table = schema.name.toText

/-- The written columns have the declared names. -/
theorem clauses_names (schema : Schema) :
    schema.clauses.map ColumnClause.name = schema.columns.keys.map Value.toText := by
  rw [clauses, Keyed.keys, List.map_map, List.map_map]
  rfl

/-- They are all different. -/
theorem clauses_distinct {schema : Schema} (named : schema.WellNamed) :
    (schema.clauses.map ColumnClause.name).Nodup := by
  rw [clauses_names]
  apply List.Nodup.map_on _ named.columnsOnce
  intro first firstMember second secondMember same
  obtain ⟨name, rfl, -⟩ := Value.isPlain_iff.mp (named.columns first firstMember)
  obtain ⟨other, rfl, -⟩ := Value.isPlain_iff.mp (named.columns second secondMember)
  exact congrArg Value.text same

/-- The planned indices have their names in the table. -/
theorem namedIndices_names (schema : Schema) (plans : Keyed IndexPlan) :
    (plans.map schema.namedIndex).map Prod.fst = plans.keys.map (indexName schema.name) := by
  rw [Keyed.keys, List.map_map, List.map_map]
  rfl

/-- They are all different too. -/
theorem namedIndices_distinct {schema : Schema} (named : schema.WellNamed) {plans : Keyed IndexPlan}
    (planned : schema.indexPlans = .ok plans) :
    ((plans.map schema.namedIndex).map Prod.fst).Nodup := by
  obtain ⟨sound, distinct⟩ := indexPlans_sound named planned
  have isText : ∀ name ∈ plans.keys, ∃ text, name = .text text := by
    intro name member
    obtain ⟨entry, entryMember, rfl⟩ := List.mem_map.mp member
    exact Value.isText_iff.mp (sound entry entryMember).isText
  rw [namedIndices_names]
  apply List.Nodup.map_on _ distinct
  intro first firstMember second secondMember same
  obtain ⟨name, rfl⟩ := isText first firstMember
  obtain ⟨other, rfl⟩ := isText second secondMember
  have letters := congrArg String.toList same
  simp only [indexName, Value.toText, String.toList_append] at letters
  exact congrArg Value.text (String.toList_inj.mp (List.append_cancel_left letters))

/-- A store with a table to migrate is ready for the replacement. -/
theorem Migratable.replaceable {schema old : Schema} (named : schema.WellNamed)
    (filled : schema.columns ≠ []) {store : Store Cell} {content : Table Cell} {backup : String}
    {indices : List String} (ready : schema.Migratable old store content backup indices)
    {plans : Keyed IndexPlan} (planned : schema.indexPlans = .ok plans) :
    Replaceable store schema.name.toText backup content indices schema.clauses
      (plans.map schema.namedIndex) (sharedNames schema old) where
  attached := ready.attached
  existing := ready.existing
  unused := ready.unused
  droppedOnce := ready.indicesOnce
  droppedAll := ready.indicesAll
  columnsFilled := by simpa [clauses] using filled
  columnsOnce := clauses_distinct named
  createdOnce := namedIndices_distinct named planned
  createdHere := by
    obtain ⟨sound, -⟩ := indexPlans_sound named planned
    intro entry member
    obtain ⟨plan, planMember, rfl⟩ := List.mem_map.mp member
    refine ⟨rfl, fun column inside => ?_⟩
    obtain ⟨value, valueMember, rfl⟩ := List.mem_map.mp inside
    rw [clauses_names]
    exact List.mem_map_of_mem ((sound plan planMember).columns value valueMember)
  createdFree := by
    intro entry member index found
    obtain ⟨plan, planMember, rfl⟩ := List.mem_map.mp member
    exact ready.created plans planned plan.1 (List.mem_map_of_mem planMember) index found
  sharedOld := fun column member =>
    (ready.oldColumns column).mpr ((mem_sharedNames named.columnTexts).mp member).2
  sharedNew := by
    intro column member
    rw [clauses_names]
    exact List.mem_map_of_mem (f := Value.toText) ((mem_sharedNames named.columnTexts).mp member).1

/-- A migration never fails, and it moves the data: the backup table is gone, the table has the
declared columns and the old rows, its indices are the declared ones, and all else is as before. -/
theorem migration_movesData (fill : Option Token → Cell) {schema old : Schema}
    {definitions : List Definition} (rendered : schema.definitions = .ok definitions)
    (named : schema.WellNamed) (filled : schema.columns ≠ []) {store : Store Cell}
    {content : Table Cell} {backup : String} {indices : List String}
    (ready : schema.Migratable old store content backup indices) :
    ∃ steps plans final,
      schema.migration old backup (indices.map Value.text) = .ok steps ∧
      schema.indexPlans = .ok plans ∧
      runTexts fill (steps.map MigrationStep.sql) store = some final ∧
      final.tables backup = none ∧
      final.tables schema.name.toText =
        some ⟨schema.clauses, movedRows fill schema old content.rows⟩ ∧
      (∀ other, other ≠ schema.name.toText → final.tables other = store.tables other) ∧
      (∀ entry ∈ plans, final.indices (indexName schema.name entry.1) =
        some ⟨schema.name.toText, entry.2.index.unique, entry.2.index.columns.map Value.toText⟩) ∧
      ∀ index, (∀ name ∈ plans.keys, index ≠ indexName schema.name name) →
        final.indices index = if index ∈ indices then none else store.indices index := by
  obtain ⟨plans, planned, read⟩ :=
    migration_reads named old rendered ready.plainBackup ready.plainIndices
  have replaceable := ready.replaceable named filled planned
  refine ⟨_, plans, store.replaced schema.name.toText
    ⟨schema.clauses, movedRows fill schema old content.rows⟩ (plans.map schema.namedIndex),
    migration_eq named old rendered backup indices, planned, ?_, ?_, ?_, ?_, ?_, ?_⟩
  · rw [runTexts_read fill (List.forall₂_map_left_iff.mpr read), runAll_replacement fill replaceable,
      copiedRows_moved fill named]
  · exact (Function.update_of_ne replaceable.differ.symm ..).trans ready.unused
  · exact Function.update_self ..
  · exact fun other differ => Function.update_of_ne differ ..
  · exact fun entry member => replaceable.replaced_created _ (List.mem_map_of_mem member)
  · intro index fresh
    apply replaceable.replaced_other
    rw [namedIndices_names]
    rintro member
    obtain ⟨name, nameMember, same⟩ := List.mem_map.mp member
    exact fresh name nameMember same.symm

/-- Notes get a state and lose their body. -/
def notes : Schema where
  name := .text "notes"
  columns := [(.text "id", { storage := .integer, primaryKey := true }),
    (.text "owner", { storage := .integer, notNull := true }),
    (.text "state", { storage := .text, default := .text "it's new", indexed := true })]
  indices := [(.text "by_owner", { columns := [.text "owner", .text "id"], unique := true })]
  foreignKeys := [⟨.text "owner", [(.text "people", .text "id")]⟩]

def oldNotes : Schema where
  name := .text "notes"
  columns := [(.text "id", { storage := .integer }), (.text "owner", { storage := .integer }),
    (.text "body", { storage := .text })]

def oldNotesTable : Table Nat :=
  ⟨[⟨"id", none⟩, ⟨"owner", none⟩, ⟨"body", none⟩], [String.length]⟩

def notesStore : Store Nat where
  tables := Function.update (Function.update (fun _ => none) "notes" (some oldNotesTable)) "people"
    (some ⟨[⟨"id", none⟩], []⟩)
  indices := Function.update (Function.update (fun _ => none) "ix_notes_by_owner"
    (some ⟨"notes", false, ["owner"]⟩)) "people_ids" (some ⟨"people", true, ["id"]⟩)

/-- The notes have proper names. -/
theorem notes_wellNamed : notes.WellNamed where
  columnsOnce := by decide
  indicesOnce := by decide
  table := by decide
  columns := by decide
  collations := by decide
  indices := by decide
  foreignKeys := by
    intro key member
    obtain rfl := List.mem_singleton.mp member
    constructor
    · intro names done
      obtain rfl := Except.ok.inj done
      decide
    · intro name done
      obtain rfl := Except.ok.inj done
      decide
    · intro names done
      obtain rfl := Except.ok.inj done
      decide
  primaryKey := by decide

/-- The store of notes has one index of the table and one of another. -/
theorem notesStore_indices {index : String} {entry : TableIndex} :
    notesStore.indices index = some entry ↔
      (index = "people_ids" ∧ entry = ⟨"people", true, ["id"]⟩) ∨
        (index = "ix_notes_by_owner" ∧ entry = ⟨"notes", false, ["owner"]⟩) := by
  simp only [notesStore, Function.update_apply]
  split
  · next same => simp [same, eq_comm]
  · next other =>
      split
      · next same => simp [same, eq_comm]
      · next differ => simp [other, differ]

/-- The notes can be migrated from what is stored. -/
theorem notes_migratable :
    notes.Migratable oldNotes notesStore oldNotesTable "backup_notes_1" ["ix_notes_by_owner"] where
  attached := by
    intro index entry found
    rcases notesStore_indices.mp found with ⟨-, rfl⟩ | ⟨-, rfl⟩ <;> decide
  existing := rfl
  oldColumns := by
    intro column
    rw [Keyed.has_text_iff]
    simp [oldNotesTable, oldNotes, Table.names, Keyed.keys]
  plainBackup := by decide
  unused := by decide
  plainIndices := by decide
  indicesOnce := by decide
  indicesAll := by
    intro index
    simp only [notesStore_indices]
    constructor
    · intro member
      exact ⟨_, .inr ⟨List.mem_singleton.mp member, rfl⟩, rfl⟩
    · rintro ⟨entry, ⟨-, rfl⟩ | ⟨rfl, -⟩, owner⟩
      · exact absurd owner (by decide)
      · exact List.mem_singleton_self _
  created := by
    intro plans planned name member entry found
    rcases notesStore_indices.mp found with ⟨same, -⟩ | ⟨-, rfl⟩
    · have start := congrArg (fun text => text.toList.head?) same
      simp [indexName] at start
    · rfl

/-- Notes keep their columns, get a state, and leave the other table alone. -/
theorem migration_movesData_notes :
    ∃ steps plans final,
      notes.migration oldNotes "backup_notes_1" [.text "ix_notes_by_owner"] = .ok steps ∧
      notes.indexPlans = .ok plans ∧
      runTexts (fun _ => 7) (steps.map MigrationStep.sql) notesStore = some final ∧
      final.tables "backup_notes_1" = none ∧
      final.tables "notes" =
        some ⟨notes.clauses, movedRows (fun _ => 7) notes oldNotes [String.length]⟩ ∧
      (∀ other, other ≠ "notes" → final.tables other = notesStore.tables other) ∧
      (∀ entry ∈ plans, final.indices (indexName notes.name entry.1) =
        some ⟨"notes", entry.2.index.unique, entry.2.index.columns.map Value.toText⟩) ∧
      ∀ index, (∀ name ∈ plans.keys, index ≠ indexName notes.name name) →
        final.indices index =
          if index ∈ ["ix_notes_by_owner"] then none else notesStore.indices index :=
  migration_movesData (fun _ => 7) rfl notes_wellNamed (by decide) notes_migratable

end Schema

end Tabular
