import Tabular.Proofs.Query.Computed
import Tabular.Proofs.Statement.Attribution
import Tabular.Proofs.Table.Looking

/-!
This module tells which statement a failure names, for queries and for the operations on tables. Only
an upsert goes on after a failure.
-/

namespace Tabular

open Tabular.Action Exchange

variable {σ τ α : Type} {database : Database} {connection : Connection}
  (opened : database.connection = some connection)

include opened in
/-- An action that only looks at the database is attributed. -/
theorem Looks.attributes {action : Action σ α} (looks : Looks database action) :
    Attributes action := by
  induction looks with
  | lift computed => exact .lift computed
  | first parameters read => exact Database.first_attributes opened _ parameters
  | all parameters read => exact Database.all_attributes opened _ parameters
  | bind _ _ firstHypothesis restHypothesis => exact firstHypothesis.bind restHypothesis

/-! ## Queries -/

namespace Query

variable (query : Query)

include opened

/-- Fetching all rows of a query raises the failure of its own statement. -/
theorem all_attributes : Attributes (query.all database : Action σ (List Row)) :=
  (Attributes.lift query.selectStatement_computed).bind fun _ => Database.all_attributes opened _ _

/-- Fetching the first row of a query raises the failure of its own statement. -/
theorem first_attributes : Attributes (query.first database : Action σ (Option Row)) :=
  (Attributes.lift query.selectStatement_computed).bind fun _ => Database.first_attributes opened _ _

/-- Walking over the rows of a query does so too when the callback raises nothing. -/
theorem each_attributes {callback : Callback σ} (silent : Silent callback) :
    Attributes (query.each database callback) :=
  (Attributes.lift query.selectStatement_computed).bind fun _ =>
    Database.each_attributes opened _ _ silent

/-- Counting the rows of a query raises the failure of the count. -/
theorem count_attributes : Attributes (query.count database : Action σ Value) := by
  apply (Attributes.lift query.countStatement_computed).bind
  intro bound
  apply (Database.first_attributes opened _ _).bind
  intro found
  split
  · exact .pure _
  · exact .pure _
  · exact .lift (Value.member_computed _ _)

/-- Removing the rows of a query raises the failure of the deletion. -/
theorem remove_attributes : Attributes (query.remove database : Action σ RunResult) :=
  (Attributes.lift query.deleteStatement_computed).bind fun _ => Database.run_attributes opened _ _

/-- Updating the rows of a query raises the failure of the update. -/
theorem update_attributes (newValues : Value) :
    Attributes (query.update database newValues : Action σ RunResult) :=
  (Attributes.lift (query.updateStatement_computed newValues)).bind fun _ =>
    Database.run_attributes opened _ _

end Query

/-! ## Declared tables -/

namespace Schema

variable (schema : Schema)

include opened

/-- Running definitions raises the failure of the first one that is refused. -/
theorem runDefinitions_attributes (definitions : List Definition) :
    Attributes (runDefinitions database definitions : Action σ Unit) := by
  induction definitions with
  | nil => exact .pure _
  | cons definition rest inductionHypothesis =>
      exact (Database.run_attributes opened _ _).bind fun _ => inductionHypothesis

/-- Creating the tables of a schema raises the failure of one of its definitions. -/
theorem create_attributes : Attributes (schema.create database : Action σ Unit) := by
  apply (Attributes.lift schema.definitions_computed).bind
  intro definitions
  apply (Database.transaction_attributes opened (runDefinitions_attributes opened definitions)).bind
  intro _
  exact .log _ _ _

/-- Creating an absent table raises the failure of the look or of the creation. -/
theorem createIfAbsent_attributes :
    Attributes (schema.createIfAbsent database : Action σ SyncResult) := by
  apply ((schema.exists?_looks database).attributes opened).bind
  intro present
  split
  · apply ((schema.matchesDatabase_looks database).attributes opened).bind
    intro same
    split
    · exact .pure _
    · exact .throw rfl
  · exact (schema.create_attributes opened).bind fun _ => .pure _

/-- Running the steps of a migration raises the failure of the first refused step. -/
theorem runSteps_attributes (steps : List MigrationStep) :
    Attributes (runSteps database steps : Action σ Unit) := by
  induction steps with
  | nil => exact .pure _
  | cons step rest inductionHypothesis =>
      apply (Attributes.log _ _ _).bind
      intro _
      exact (Database.run_attributes opened _ _).bind fun _ => inductionHypothesis

/-- A migration raises the failure of the statement that stopped it. -/
theorem migrate_attributes (old : Schema) :
    Attributes (schema.migrate old database : Action σ Unit) := by
  apply (Attributes.ask fun _ => rfl).bind
  intro now
  apply ((schema.explicitIndexNames_looks database).attributes opened).bind
  intro indices
  apply (Attributes.lift (schema.migration_computed old _ indices)).bind
  intro steps
  apply (Attributes.lift (Computed.mapM Value.asText_computed (sharedColumns schema old))).bind
  intro shared
  apply (Attributes.log _ _ _).bind
  intro _
  apply ((database.pragma_looks (by decide)).attributes opened).bind
  intro legacy
  apply (Database.setPragma_attributes opened _ _).bind
  intro _
  apply Attributes.bind
  · apply (Database.transaction_attributes opened (runSteps_attributes opened steps)).afterwards
    exact fun τ engine outcome => Database.alone_closes opened engine _ outcome
  · intro _
    exact .log _ _ _

/-- Bringing a table up to date raises the failure of the statement that stopped it. -/
theorem createOrUpdate_attributes :
    Attributes (schema.createOrUpdate database : Action σ SyncResult) := by
  apply (database.foreignKeysEnabled_looks.attributes opened).bind
  intro enabled
  split
  · exact .throw rfl
  · apply ((schema.exists?_looks database).attributes opened).bind
    intro present
    split
    · apply ((schema.introspect_looks database).attributes opened).bind
      intro old
      apply (Attributes.lift (schema.agrees_computed old)).bind
      intro same
      split
      · exact .pure _
      · exact (schema.migrate_attributes opened old).bind fun _ => .pure _
    · exact (schema.create_attributes opened).bind fun _ => .pure _

/-! ## Rows -/

/-- Inserting a row raises the failure of its statement. -/
theorem insert_attributes (row : Value) :
    Attributes (schema.insert database row : Action σ RunResult) :=
  (Attributes.lift (schema.insertStatement_computed row)).bind fun _ =>
    Database.run_attributes opened _ _

/-- Updating by a filter raises the failure of its statement. -/
theorem updateWhere_attributes (filter row : Value) :
    Attributes (schema.updateWhere database filter row : Action σ RunResult) :=
  (Attributes.lift (schema.find_computed filter)).bind fun query => query.update_attributes opened row

/-- Updating by the lookup column raises the failure of its statement. -/
theorem updateUnique_attributes (row : Value) :
    Attributes (schema.updateUnique database row : Action σ RunResult) :=
  (Attributes.lift (schema.lookup_computed row)).bind fun filter =>
    schema.updateWhere_attributes opened filter row

/-- Reading a stored row raises the failure of its statement. -/
theorem storedRow_attributes (filter : Value) :
    Attributes (schema.storedRow database filter : Action σ (Option Row)) :=
  (Attributes.lift (schema.find_computed filter)).bind fun query => query.first_attributes opened

/-- Writing over a stored row raises the failure of the one statement it runs. -/
theorem writeOver_attributes (filter row : Value) (stored : Option Row) :
    Attributes (schema.writeOver database filter row stored : Action σ Value) := by
  cases stored with
  | none =>
      apply (schema.insert_attributes opened row).bind
      exact fun result => .lift (schema.withNewKey_computed row result)
  | some stored =>
      unfold writeOver
      cases schema.keyColumn? with
      | some key =>
          apply (Attributes.lift (Value.columnValue_computed (.map stored) key)).bind
          intro value
          apply (schema.updateWhere_attributes opened _ row).bind
          exact fun _ => .lift (row.mergedOver_computed stored)
      | none =>
          apply (schema.updateWhere_attributes opened filter row).bind
          exact fun _ => .lift (row.mergedOver_computed stored)

/-- One round of an upsert raises the failure of its look or of its write. -/
theorem tryUpsert_attributes (filter row : Value) :
    Attributes (schema.tryUpsert database filter row : Action σ Value) :=
  (schema.storedRow_attributes opened filter).bind fun stored =>
    schema.writeOver_attributes opened filter row stored

/-- An update by a filter stops at the statement that fails. -/
theorem updateWhere_halts (filter row : Value) :
    Halts (schema.updateWhere database filter row : Action σ RunResult) :=
  (Halts.lift _).bind fun _ => (Halts.lift _).bind fun _ => Database.run_halts opened _ _

/-- Writing over a stored row stops at the statement that fails. -/
theorem writeOver_halts (filter row : Value) (stored : Option Row) :
    Halts (schema.writeOver database filter row stored : Action σ Value) := by
  cases stored with
  | none =>
      apply Halts.bind ((Halts.lift _).bind fun _ => Database.run_halts opened _ _)
      exact fun _ => .lift _
  | some stored =>
      unfold writeOver
      cases schema.keyColumn? with
      | some key =>
          apply (Halts.lift _).bind
          intro value
          exact (schema.updateWhere_halts opened _ row).bind fun _ => .lift _
      | none => exact (schema.updateWhere_halts opened filter row).bind fun _ => .lift _

/-- One round of an upsert stops at the statement that fails. -/
theorem tryUpsert_halts (filter row : Value) :
    Halts (schema.tryUpsert database filter row : Action σ Value) := by
  apply Halts.bind
  · apply (Halts.lift _).bind
    intro query
    exact (Halts.lift _).bind fun _ => Database.first_halts opened _ _
  exact fun stored => schema.writeOver_halts opened filter row stored

/-- An upsert is attributed, unless a key was taken and what was tried next did not fail. -/
theorem upsert_settled (row : Value) (engine : Engine τ) (state : σ) (start : τ) :
    ((schema.upsert database row).runOn engine state start).Attributed [] ∨
      ((schema.upsert database row).runOn engine state start).Recovered := by
  cases found : schema.lookup row with
  | error failure =>
      have refused := Attributes.lift (σ := σ) (schema.lookup_computed row) engine state start
      rw [found] at refused
      rw [upsert, found]
      exact .inl refused
  | ok filter =>
      rw [upsert, found]
      apply attempt_settled (schema.tryUpsert_attributes opened filter row)
        (schema.tryUpsert_halts opened filter row)
      · intro outcome own
        cases outcome with
        | ok value => exact .pure value
        | error failure =>
            simp only [Failure.not_isEngine (own failure rfl), Bool.false_and, Bool.false_eq_true, if_false]
            exact .throw (own failure rfl)
      · intro τ engine failure state start
        dsimp only
        split
        · rename_i taken
          apply Resumes.after taken (.log _ _ _)
          intro _
          apply Resumes.after taken (schema.storedRow_attributes opened filter)
          intro stored state start
          cases stored with
          | none => exact .again .nil rfl
          | some stored =>
              exact .other taken (schema.writeOver_attributes opened filter row _ engine state start)
        · exact .again .nil rfl

/-- Completing a row raises the failure of the statement that reads it. -/
theorem extend_attributes (row : Value) :
    Attributes (schema.extend database row : Action σ Value) := by
  apply (Attributes.lift (schema.lookup_computed row)).bind
  intro filter
  apply (schema.storedRow_attributes opened filter).bind
  exact fun stored => .lift (row.mergedOver_computed _)

/-- Completing rows raises the failure of the first read that is refused. -/
theorem extendAll_attributes (rows : List Value) :
    Attributes (schema.extendAll database rows : Action σ (List Value)) := by
  induction rows with
  | nil => exact .pure _
  | cons row rest inductionHypothesis =>
      exact (schema.extend_attributes opened row).bind fun _ => inductionHypothesis.bind fun _ => .pure _

end Schema

namespace MapTable

variable (table : MapTable)

include opened

/-- Reading a key raises the failure of its statement. -/
theorem get_attributes (key : Value) : Attributes (table.get database key : Action σ Value) := by
  apply (Database.first_attributes opened _ _).bind
  intro found
  split
  · exact .pure _
  · exact .pure _
  · exact .lift (Schema.column_computed _ _)

/-- Setting a key raises the failure of its statement. -/
theorem set_attributes (key value : Value) :
    Attributes (table.set database key value : Action σ Unit) :=
  (Database.run_attributes opened _ _).bind fun _ => .pure _

/-- Deleting a key raises the failure of its statement. -/
theorem delete_attributes (key : Value) : Attributes (table.delete database key : Action σ Int) :=
  (Database.run_attributes opened _ _).bind fun _ => .pure _

theorem contains_attributes (key : Value) : Attributes (table.contains database key : Action σ Bool) :=
  (Database.first_attributes opened _ _).bind fun _ => .pure _

/-- Reading all items raises the failure of its statement. -/
theorem items_attributes : Attributes (table.items database : Action σ (List (Value × Value))) := by
  apply Attributes.bind
  · apply Attributes.lift
    exact (Query.select_computed _ _).bind fun query => query.orderBy_computed _
  intro query
  apply (query.all_attributes opened).bind
  intro rows
  apply Attributes.lift
  apply Computed.mapM
  intro row
  exact (Schema.column_computed row "key").bind fun _ =>
    (Schema.column_computed row "value").bind fun _ => .pure _

end MapTable

end Tabular
