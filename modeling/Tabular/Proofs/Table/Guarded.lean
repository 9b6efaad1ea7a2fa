import Tabular.Proofs.Engine.Answers
import Tabular.Proofs.Engine.Guarded
import Tabular.Proofs.Outcome
import Tabular.Proofs.Query.Clauses
import Tabular.Proofs.Table.Looking
import Tabular.Table.Rows

/-!
This module shows that no operation on a table finds a mistake of the programmer after it has written
something. A table is read and a statement is built first, and the writing comes last.
-/

namespace Tabular

open Tabular.Action Exchange

variable {σ τ α : Type}

/-! ## Queries -/

namespace Query

open Binding

variable (query : Query) (database : Database)

/-- A written `SELECT` is a read. -/
theorem selectStatement_isRead {bound : BoundText} (built : query.selectStatement = .ok bound) :
    isRead bound.sql = true := by
  obtain ⟨binder, run, -⟩ := finish_eq_ok built
  obtain ⟨written, middle, -, rest⟩ := runWith_bind_eq_ok run
  obtain ⟨same, -⟩ := Prod.mk.inj rest
  rw [← Except.ok.inj same, joinParts_cons (by simp), String.append_assoc]
  exact isRead_append (by decide) _

/-- A written count is a read. -/
theorem countStatement_isRead {bound : BoundText} (built : query.countStatement = .ok bound) :
    isRead bound.sql = true := by
  obtain ⟨binder, run, -⟩ := finish_eq_ok built
  obtain ⟨written, middle, -, rest⟩ := runWith_bind_eq_ok run
  obtain ⟨_, last, -, rest⟩ := runWith_bind_eq_ok rest
  split at rest
  all_goals
    obtain ⟨same, -⟩ := Prod.mk.inj rest
    rw [← Except.ok.inj same]
  · rw [joinParts_cons (by decide)]
    exact isRead_append (by decide) _
  · rw [String.append_assoc]
    exact isRead_append (by decide) _

/-- The text of an update begins with its word. -/
theorem updateStatement_starts {newValues : Value} {bound : BoundText}
    (built : query.updateStatement newValues = .ok bound) : "UPDATE ".toList <+: bound.sql.toList := by
  obtain ⟨binder, run, -⟩ := finish_eq_ok built
  obtain ⟨written, middle, -, rest⟩ := runWith_bind_eq_ok run
  obtain ⟨_, last, -, rest⟩ := runWith_bind_eq_ok rest
  split at rest
  · split at rest
    · obtain ⟨changes, final, -, rest⟩ := runWith_bind_eq_ok rest
      obtain ⟨same, -⟩ := Prod.mk.inj rest
      rw [← Except.ok.inj same, joinParts_cons (by simp)]
      simp
    · cases (Prod.mk.inj rest).1
  · cases (Prod.mk.inj rest).1

/-- A written `UPDATE` opens no transaction. -/
theorem updateStatement_other {newValues : Value} {bound : BoundText}
    (built : query.updateStatement newValues = .ok bound) : bound.sql ≠ beginText := by
  have starts := query.updateStatement_starts built
  intro same
  rw [same] at starts
  exact absurd starts (by decide)

/-- Fetching all rows of a query only reads. -/
theorem all_inspects : Inspects (query.all database : Action σ (List Row)) := by
  apply Inspects.lifted
  intro bound built
  exact database.all_inspects bound.parameters (query.selectStatement_isRead built)

/-- Fetching the first row of a query only reads. -/
theorem first_inspects : Inspects (query.first database : Action σ (Option Row)) := by
  apply Inspects.lifted
  intro bound built
  exact database.first_inspects bound.parameters (query.selectStatement_isRead built)

/-- Walking over the rows of a query only reads. -/
theorem each_inspects (callback : Callback σ) : Inspects (query.each database callback) := by
  apply Inspects.lifted
  intro bound built
  exact database.each_inspects bound.parameters (query.selectStatement_isRead built) callback

/-- Counting the rows of a query only reads. -/
theorem count_inspects : Inspects (query.count database : Action σ Value) := by
  apply Inspects.lifted
  intro bound built
  apply Inspects.bind
  · exact database.first_inspects bound.parameters (query.countStatement_isRead built)
  intro found
  split
  · exact .pure _
  · exact .pure _
  · exact .lift _

/-- A removal that fails with a mistake of the caller has removed nothing. -/
theorem remove_guarded : Guarded Failure.isMistake (query.remove database : Action σ RunResult) := by
  apply Guarded.after (.lift _)
  intro bound
  exact .ofRelays (database.run_relays bound.parameters bound.sql)

/-- An update that fails with a mistake of the caller has updated nothing. -/
theorem update_guarded (newValues : Value) :
    Guarded Failure.isMistake (query.update database newValues : Action σ RunResult) := by
  apply Guarded.after (.lift _)
  intro bound
  exact .ofRelays (database.run_relays bound.parameters bound.sql)

end Query

/-! ## Declared tables -/

namespace Schema

variable (schema : Schema) (database : Database)

/-- Running definitions fails only where the engine does. -/
theorem runDefinitions_relays (definitions : List Definition) :
    Relays (runDefinitions database definitions : Action σ Unit) := by
  induction definitions with
  | nil => exact .pure _
  | cons definition rest inductionHypothesis =>
      exact (database.run_relays .null definition.sql).bind fun _ => inductionHypothesis

/-- A creation that fails with a mistake of the caller has created nothing. -/
theorem create_guarded : Guarded Failure.isMistake (schema.create database : Action σ Unit) := by
  apply Guarded.after (.lift _)
  intro definitions
  apply Guarded.ofRelays
  apply Avoids.bind (database.transaction_relays (runDefinitions_relays database definitions))
  intro _
  exact .log _ _ _

/-- The same holds where the table is looked for first. -/
theorem createIfAbsent_guarded :
    Guarded Failure.isMistake (schema.createIfAbsent database : Action σ SyncResult) := by
  apply Guarded.after (schema.exists?_looks database).inspects
  intro present
  split
  · apply Guarded.after (schema.matchesDatabase_looks database).inspects
    intro same
    split
    · exact .ofInspects (.pure _)
    · exact .ofInspects (.throw _)
  · exact (schema.create_guarded database).before fun _ => .pure _

/-- Running the steps of a migration fails only where the engine does. -/
theorem runSteps_relays (steps : List MigrationStep) :
    Relays (runSteps database steps : Action σ Unit) := by
  induction steps with
  | nil => exact .pure _
  | cons step rest inductionHypothesis =>
      apply Avoids.bind (.log _ _ _)
      intro _
      exact (database.run_relays .null step.sql).bind fun _ => inductionHypothesis

/-- A migration that fails with a mistake of the caller has run no step. -/
theorem migrate_guarded (old : Schema) :
    Guarded Failure.isMistake (schema.migrate old database : Action σ Unit) := by
  apply Guarded.after (.ask rfl)
  intro now
  apply Guarded.after (schema.explicitIndexNames_looks database).inspects
  intro indices
  apply Guarded.after (.lift _)
  intro steps
  apply Guarded.after (.lift _)
  intro shared
  apply Guarded.after (.log _ _ _)
  intro _
  apply Guarded.after (database.pragma_looks (by decide)).inspects
  intro legacy
  -- From here on statements are written, and only the driver can fail.
  apply Guarded.ofRelays
  apply Avoids.bind (database.setPragma_relays _ _)
  intro _
  apply Avoids.bind
  · exact .afterwards (database.transaction_relays (runSteps_relays database steps)) fun _ _ =>
      database.setPragma_relays _ _
  intro _
  exact .log _ _ _

/-- Bringing a table up to date changes nothing when it fails with a mistake of the caller. -/
theorem createOrUpdate_guarded :
    Guarded Failure.isMistake (schema.createOrUpdate database : Action σ SyncResult) := by
  apply Guarded.after database.foreignKeysEnabled_looks.inspects
  intro enabled
  split
  · exact .ofInspects (.throw _)
  · apply Guarded.after (schema.exists?_looks database).inspects
    intro present
    split
    · apply Guarded.after (schema.introspect_looks database).inspects
      intro old
      apply Guarded.after (.lift _)
      intro same
      split
      · exact .ofInspects (.pure _)
      · exact (schema.migrate_guarded database old).before fun _ => .pure _
    · exact (schema.create_guarded database).before fun _ => .pure _

/-! ## Rows -/

/-- An insertion that fails with a mistake of the caller has inserted nothing. -/
theorem insert_guarded (row : Value) :
    Guarded Failure.isMistake (schema.insert database row : Action σ RunResult) := by
  apply Guarded.after (.lift _)
  intro bound
  exact .ofRelays (database.run_relays bound.parameters bound.sql)

/-- An update by a filter that fails with a mistake of the caller has updated nothing. -/
theorem updateWhere_guarded (filter row : Value) :
    Guarded Failure.isMistake (schema.updateWhere database filter row : Action σ RunResult) := by
  apply Guarded.after (.lift _)
  intro query
  exact query.update_guarded database row

/-- Reading a stored row only reads. -/
theorem storedRow_inspects (filter : Value) :
    Inspects (schema.storedRow database filter : Action σ (Option Row)) := by
  apply Inspects.bind (.lift _)
  intro query
  exact query.first_inspects database

/-- The text of an insertion begins with its words and the table. -/
theorem insertStatement_starts {row : Value} {bound : BoundText}
    (built : schema.insertStatement row = .ok bound) :
    ("INSERT INTO " ++ schema.name.toText).toList <+: bound.sql.toList := by
  unfold insertStatement at built
  split at built
  · obtain ⟨columns, -, built⟩ := Outcome.bind_eq_ok.mp built
    obtain ⟨list, -, built⟩ := Outcome.bind_eq_ok.mp built
    obtain ⟨entries, -, built⟩ := Outcome.bind_eq_ok.mp built
    obtain ⟨stored, -, built⟩ := Outcome.bind_eq_ok.mp built
    rw [← Except.ok.inj built]
    simp [List.prefix_append]
  · rw [← Except.ok.inj built]
    simp [List.prefix_append]

/-- A written `INSERT` opens no transaction. -/
theorem insertStatement_other {row : Value} {bound : BoundText}
    (built : schema.insertStatement row = .ok bound) : bound.sql ≠ beginText := by
  have starts := schema.insertStatement_starts built
  intro same
  rw [same, String.toList_append] at starts
  exact absurd ((List.prefix_append _ _).trans starts) (by decide)

/-! Writing a row may also fail in the engine. Then it has changed nothing, either. -/

/-- An insertion that ends with a failure of the library has inserted nothing. -/
theorem insert_guardedLibrary (row : Value) :
    Guarded Failure.isLibrary (schema.insert database row : Action σ RunResult) := by
  apply Guarded.lifted
  intro bound built
  exact database.run_guarded bound.parameters _ (schema.insertStatement_other built)

/-- An update by a filter that ends with a failure of the library has updated nothing. -/
theorem updateWhere_guardedLibrary (filter row : Value) :
    Guarded Failure.isLibrary (schema.updateWhere database filter row : Action σ RunResult) := by
  apply Guarded.after (.lift _)
  intro query
  apply Guarded.lifted
  intro bound built
  exact database.run_guarded bound.parameters _ (query.updateStatement_other built)

/-- Adding the new key ends with none of the library's failures, so that it cannot hide an insertion. -/
theorem withNewKey_avoids (row : Value) (result : RunResult) :
    Outcome.Avoids Failure.isLibrary (schema.withNewKey row result) := by
  intro failure failed
  unfold withNewKey at failed
  split at failed
  · split at failed
    · split at failed <;> cases failed
    · cases failed
  · rw [← Except.error.inj failed]
    rfl

/-- Laying a row over a stored one ends with none of the library's failures. -/
theorem mergedOver_avoids (row : Value) (stored : Row) :
    Outcome.Avoids Failure.isLibrary (row.mergedOver stored) := by
  intro failure failed
  unfold Value.mergedOver at failed
  split at failed
  · cases failed
  · rw [← Except.error.inj failed]
    rfl

/-- Writing over a stored row that ends with a failure of the library has written nothing. -/
theorem writeOver_guarded (filter row : Value) (stored : Option Row) :
    Guarded Failure.isLibrary (schema.writeOver database filter row stored : Action σ Value) := by
  have updates (filter : Value) (stored : Row) : Guarded Failure.isLibrary
      (schema.updateWhere database filter row >>= fun _ => liftM (row.mergedOver stored) :
        Action σ Value) :=
    (schema.updateWhere_guardedLibrary database filter row).before
      fun _ => .lift (mergedOver_avoids row stored)
  cases stored with
  | none =>
      exact (schema.insert_guardedLibrary database row).before
        fun result => .lift (schema.withNewKey_avoids row result)
  | some stored =>
      unfold writeOver
      cases schema.keyColumn? with
      | some key => exact Guarded.after (.lift _) fun value => updates _ stored
      | none => exact updates filter stored

/-- An upsert that fails with a mistake of the caller has written nothing, in whichever round it
fails. -/
theorem upsert_guarded (row : Value) :
    Guarded Failure.isMistake (schema.upsert database row : Action σ Value) := by
  apply Guarded.after (.lift _)
  intro filter
  have tries : Guarded Failure.isLibrary (schema.tryUpsert database filter row : Action σ Value) :=
    Guarded.after (schema.storedRow_inspects database filter)
      fun stored => schema.writeOver_guarded database filter row stored
  apply Guarded.handled tries
  · intro value
    exact .pure value
  · intro failure _
    simp only
    -- Where a key was taken, nothing was written, and the row is looked up again.
    split
    · apply Guarded.after (.log _ _ _)
      intro _
      apply Guarded.after (schema.storedRow_inspects database filter)
      intro stored
      cases stored with
      | none => exact .ofInspects (.throw _)
      | some stored =>
          apply Guarded.mono (schema.writeOver_guarded database filter row (some stored))
          intro failure mistake
          simp_all [Failure.isLibrary, Failure.isMistake]
    · exact .ofInspects (.throw _)
  · intro failure other
    have foreign : failure.isMistake = false ∧ failure.isEngine = false := by
      simpa [Failure.isLibrary, Failure.isMistake, and_assoc] using other
    simp only [foreign.2, Bool.false_and, Bool.false_eq_true, if_false]
    exact .throw foreign.1

end Schema

/-! ## Operations -/

/-- An operation on a declared table, or on one of its queries. What a callback would ask of the database is
an operation of its own. -/
inductive TableOperation (σ : Type) : Type where
  | insert (row : Value)
  | upsert (row : Value)
  | updateUnique (row : Value)
  | create
  | createIfAbsent
  | createOrUpdate
  | all (query : Query)
  | first (query : Query)
  | each (query : Query) (callback : Callback σ)
  | count (query : Query)
  | remove (query : Query)
  | update (query : Query) (newValues : Value)

namespace TableOperation

variable (schema : Schema) (database : Database)

/-- This action makes an operation and drops what it returns. -/
def perform : TableOperation σ → Action σ Unit
  | .insert row => do let _ ← schema.insert database row
  | .upsert row => do let _ ← schema.upsert database row
  | .updateUnique row => do let _ ← schema.updateUnique database row
  | .create => schema.create database
  | .createIfAbsent => do let _ ← schema.createIfAbsent database
  | .createOrUpdate => do let _ ← schema.createOrUpdate database
  | .all query => do let _ ← query.all database
  | .first query => do let _ ← query.first database
  | .each query callback => do let _ ← query.each database callback
  | .count query => do let _ ← query.count database
  | .remove query => do let _ ← query.remove database
  | .update query newValues => do let _ ← query.update database newValues

/-- Every table operation that fails with a mistake of the caller has changed nothing before. -/
theorem perform_guarded (operation : TableOperation σ) :
    Guarded Failure.isMistake (operation.perform schema database) := by
  have dropping {α : Type} {action : Action σ α} (guarded : Guarded Failure.isMistake action) :
      Guarded Failure.isMistake (do let _ ← action : Action σ Unit) :=
    guarded.before fun _ => .pure _
  cases operation with
  | insert row => exact dropping (schema.insert_guarded database row)
  | upsert row => exact dropping (schema.upsert_guarded database row)
  | updateUnique row =>
      apply dropping
      exact Guarded.after (.lift _) fun filter => schema.updateWhere_guarded database filter row
  | create => exact schema.create_guarded database
  | createIfAbsent => exact dropping (schema.createIfAbsent_guarded database)
  | createOrUpdate => exact dropping (schema.createOrUpdate_guarded database)
  | all query => exact dropping (.ofInspects (query.all_inspects database))
  | first query => exact dropping (.ofInspects (query.first_inspects database))
  | each query callback => exact dropping (.ofInspects (query.each_inspects database callback))
  | count query => exact dropping (.ofInspects (query.count_inspects database))
  | remove query => exact dropping (query.remove_guarded database)
  | update query newValues => exact dropping (query.update_guarded database newValues)

/-- When an operation fails with a usage error or refuses a table, it has not executed any statement
without a failure except reads, and it has not begun a transaction. A callback does not use the database,
so that all statements are those of the operation. -/
theorem mistake_precedesChange (operation : TableOperation σ) (engine : Engine τ) (state : σ)
    (start : τ) {run : Run σ τ Unit}
    (runs : (operation.perform schema database).runOn engine state start = run) {failure : Failure}
    (raised : run.outcome = .error failure)
    (mistake : failure.isUsage = true ∨ failure.isSchemaRefusal = true) :
    (∀ exchange ∈ run.exchanges, exchange.changes = false) ∧ beginText ∉ texts run.exchanges := by
  subst runs
  have blamed : failure.isMistake = true := by simpa [Failure.isMistake] using mistake
  have untouched := operation.perform_guarded schema database engine state start failure raised blamed
  exact ⟨untouched.unchanged, untouched.notBegun⟩

/-- A table of this name is in the database, and it has no columns. -/
def bareAnswers : Answers := fun sql _ =>
  if sql = Schema.countTableText then some [[(.text "count", .int 1)]] else some []

def bareItems : Schema where
  name := .text "items"
  columns := [(.text "id", { storage := .integer })]

def bareDatabase : Database := { path := "items.db", settings := {}, connection := some ⟨0⟩ }

def bareRun : Run Unit (List Row) Unit :=
  ((createIfAbsent : TableOperation Unit).perform bareItems bareDatabase).runOn
    bareAnswers.engine () []

/-- A table that is stored without its declared columns is refused after reads only. -/
theorem mistake_precedesChange_items :
    bareRun.outcome = .error (.schemaMismatch (.text "items")) ∧
    texts bareRun.exchanges = [Schema.countTableText, "PRAGMA table_info(items)",
      "PRAGMA index_list(items)", "PRAGMA index_list(items)", "PRAGMA foreign_key_list(items)"] ∧
    (∀ exchange ∈ bareRun.exchanges, exchange.changes = false) ∧
      beginText ∉ texts bareRun.exchanges := by
  have raised : bareRun.outcome = .error (.schemaMismatch (.text "items")) := by decide +kernel
  exact ⟨raised, by decide +kernel,
    mistake_precedesChange bareItems bareDatabase .createIfAbsent bareAnswers.engine () [] rfl raised
      (.inr rfl)⟩

end TableOperation

end Tabular
