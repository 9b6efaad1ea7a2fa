import Tabular.Proofs.Schema.Movement

/-!
This module tells which columns a migration copies where names are spelled in different cases. The
database takes both spellings for one column, but the plan compares them letter by letter.
-/

namespace Tabular

/-- This function writes the ASCII letters of a text small. -/
def Text.small (text : String) : List Char := text.toList.map Char.toLower

/-- The columns that a step copies. -/
def MigrationStep.copied : MigrationStep → List String
  | .copy _ _ columns => columns
  | _ => []

namespace Schema

/-- No two columns have names that differ only in the case of letters. -/
def SpelledOnce (schema : Schema) : Prop :=
  (schema.columns.keys.map fun name => Text.small name.toText).Nodup

instance (schema : Schema) : Decidable schema.SpelledOnce :=
  inferInstanceAs (Decidable (List.Nodup _))

/-- A declared column and the stored column that the database takes for the same. -/
structure Shared (schema old : Schema) (name other : String) : Prop where
  declared : .text name ∈ schema.columns.keys
  stored : .text other ∈ old.columns.keys
  alike : Text.small name = Text.small other

/-- The copied columns are the shared ones. -/
theorem steps_copied (schema old : Schema) (backup : String) (indices : List String)
    (definitions : List Definition) :
    (schema.steps old backup indices definitions).flatMap MigrationStep.copied =
      sharedNames schema old := by
  have dropped : (indices.map MigrationStep.dropIndex).flatMap MigrationStep.copied = [] := by
    simp [MigrationStep.copied]
  have created : (definitions.map MigrationStep.create).flatMap MigrationStep.copied = [] := by
    simp [MigrationStep.copied]
  simp only [steps, List.flatMap_append, dropped, created]
  split
  · next empty => simp [MigrationStep.copied, empty]
  · simp [MigrationStep.copied]

/-- A plan drops the old table at its end, and it copies a shared column exactly where both tables
spell its name alike. So no shared column is lost exactly where this holds of all of them. -/
theorem migration_copies_iff {schema old : Schema} {definitions : List Definition}
    (rendered : schema.definitions = .ok definitions) (once : old.SpelledOnce) (backup : String)
    (indices : List Value) :
    ∃ steps, schema.migration old backup indices = .ok steps ∧
      steps.getLast? = some (.dropTable backup) ∧
      (∀ name other, Shared schema old name other →
        (name ∈ steps.flatMap MigrationStep.copied ↔ name = other)) ∧
      ((∀ name other, Shared schema old name other →
          name ∈ steps.flatMap MigrationStep.copied) ↔
        ∀ name other, Shared schema old name other → name = other) := by
  have copies (name other : String) (shared : Shared schema old name other) :
      name ∈ sharedNames schema old ↔ name = other := by
    rw [mem_sharedNames (columns_text rendered), Keyed.has_text_iff]
    constructor
    · intro both
      exact Value.text.inj (List.inj_on_of_nodup_map once both.2 shared.stored shared.alike)
    · rintro rfl
      exact ⟨shared.declared, shared.stored⟩
  refine ⟨_, migration_lists rendered old backup indices, ?_, ?_⟩
  · rw [steps, List.getLast?_concat]
  · rw [steps_copied]
    exact ⟨copies, forall_congr' fun name => forall_congr' fun other =>
      forall_congr' fun shared => copies name other shared⟩

/-- Items spell a column with a capital letter. -/
def items : Schema where
  name := .text "items"
  columns := [(.text "id", { storage := .integer, primaryKey := true }),
    (.text "Name", { storage := .text })]

def oldItems : Schema where
  name := .text "items"
  columns := [(.text "id", { storage := .integer, primaryKey := true }),
    (.text "name", { storage := .text })]

theorem migration_copies_iff_items :
    oldItems.SpelledOnce ∧ Shared items oldItems "id" "id" ∧
      ∃ steps, items.migration oldItems "backup_items_0" [] = .ok steps ∧
        "id" ∈ steps.flatMap MigrationStep.copied := by
  have shared : Shared items oldItems "id" "id" := ⟨by decide, by decide, by decide⟩
  obtain ⟨definitions, rendered⟩ : ∃ definitions, items.definitions = .ok definitions := ⟨_, rfl⟩
  have once : oldItems.SpelledOnce := by decide
  obtain ⟨steps, planned, -, copies, -⟩ := migration_copies_iff rendered once "backup_items_0" []
  exact ⟨once, shared, steps, planned, (copies "id" "id" shared).mpr rfl⟩

/-- The column is stored under the other spelling, and its values go with the dropped table. -/
theorem migration_losesColumn :
    items.SpelledOnce ∧ oldItems.SpelledOnce ∧ Shared items oldItems "Name" "name" ∧
      ∃ steps, items.migration oldItems "backup_items_0" [] = .ok steps ∧
        steps.getLast? = some (.dropTable "backup_items_0") ∧
        steps.flatMap MigrationStep.copied = ["id"] :=
  ⟨by decide, by decide, ⟨by decide, by decide, by decide⟩, _, rfl, rfl, by decide⟩

end Schema

end Tabular
