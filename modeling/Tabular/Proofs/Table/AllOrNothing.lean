import Tabular.Proofs.Engine.AllOrNothing
import Tabular.Proofs.Table.Planned

/-!
This module shows that the creation and the migration of a table are all or nothing, and that a
migration sets the pragma back on every way out.
-/

namespace Tabular

open Tabular.Action Exchange

variable {σ τ Content : Type}

namespace Schema

section Runs

variable {engine : Engine τ} {connection : Connection} {database : Database}
  {view : EngineView τ Content} (laws : Transactional engine connection view)
  (opened : database.connection = some connection) (state : σ) (start : τ)

include laws opened in
/-- A creation runs all definitions or leaves the tables as they were. -/
theorem create_planned {schema : Schema} {definitions : List Definition}
    (rendered : schema.definitions = .ok definitions) (outside : view.isOpen start = false) :
    AllOrNothing view start [] (definitions.map Definition.sql) []
      ((schema.create database).runOn engine state start) := by
  have changes : ∀ sql ∈ definitions.map Definition.sql, isChange sql = true := by
    intro sql member
    obtain ⟨definition, -, rfl⟩ := List.mem_map.mp member
    exact definition.sql_isChange
  have settled := Database.transaction_settled laws opened state
    (fun state start => straight_definitions engine state start opened definitions) changes outside
  have logged := (settled.allOrNothing changes).logged engine .info logger
    ("Created table " ++ schema.name.toText)
  rw [← runOn_bind] at logged
  rw [create, rendered]
  exact logged

/-- The statements before the transaction of a migration. -/
def openingTexts : List String :=
  [indexNamesText, "PRAGMA legacy_alter_table", legacyText true]

/-- The steps of a migration are changes. -/
theorem steps_change (steps : List MigrationStep) :
    ∀ sql ∈ steps.map MigrationStep.sql, isChange sql = true := by
  intro sql member
  obtain ⟨step, -, rfl⟩ := List.mem_map.mp member
  exact step.sql_isChange

include laws opened in
/-- A replacement runs all its steps or leaves the tables as they were, and then restores the pragma. -/
theorem replacing_planned (schema : Schema) (steps : List MigrationStep) (legacy : Value)
    (outside : view.isOpen start = false) :
    AllOrNothing view start [] (steps.map MigrationStep.sql) [legacyText legacy.isTrue]
      ((schema.replacing database steps legacy).runOn engine state start) := by
  have settled := Database.transaction_settled laws opened state
    (fun state start => straight_steps engine state start opened steps) (steps_change steps) outside
  have neutral : isNeutral (legacyText legacy.isTrue) = true := by
    cases legacy.isTrue <;> decide
  have restored := (settled.allOrNothing (steps_change steps)).afterwards laws opened neutral
  have logged := restored.logged engine .info logger
    ("Migrated table " ++ schema.name.toText)
  rw [← runOn_afterwards engine state start _ fun _ => database.run _ >>= fun _ => pure (),
    ← runOn_bind] at logged
  exact logged

include laws opened in
/-- A migration reads, then runs all planned steps or none. -/
theorem migrate_planned {schema : Schema} {definitions : List Definition}
    (rendered : schema.definitions = .ok definitions) (old : Schema)
    (outside : view.isOpen start = false) {run : Run σ τ Unit}
    (same : (schema.migrate old database).runOn engine state start = run) :
    ∃ steps, schema.migration old (backupName schema.name (clock run.exchanges))
        (namesRead run.exchanges) = .ok steps ∧
      AllOrNothing view start openingTexts (steps.map MigrationStep.sql)
        [legacyText (valueRead run.exchanges).isTrue] run := by
  have chain := runOn_chain engine (schema.opening old database) state start
  have straight := straight_opening laws opened state start rendered old
  have neutral : ∀ sql ∈ openingTexts, isNeutral sql = true := by decide
  rw [migrate_eq, runOn_bind] at same
  cases outcome : ((schema.opening old database).runOn engine state start).outcome with
  | error failure =>
      obtain ⟨steps, planned⟩ := migration_total rendered old
        (backupName schema.name (clock run.exchanges)) (namesRead run.exchanges)
      refine ⟨steps, planned, ?_⟩
      generalize legacyText (valueRead run.exchanges).isTrue = last
      rw [← same]
      exact .preceded laws neutral chain straight outside (steps_change steps)
        fun value done => nomatch outcome.symm.trans done
  | ok read =>
      obtain ⟨steps, legacy⟩ := read
      have split : run.exchanges = ((schema.opening old database).runOn engine state start).exchanges ++
          ((schema.replacing database steps legacy).runOn engine
            ((schema.opening old database).runOn engine state start).state
            ((schema.opening old database).runOn engine state start).final).exchanges := by
        rw [← same, Run.follow, outcome]
      obtain ⟨planned, read⟩ := opening_found opened state start outcome _
      rw [← split] at planned read
      refine ⟨steps, planned, ?_⟩
      rw [read, ← same]
      apply AllOrNothing.preceded laws neutral chain straight outside (steps_change steps)
      intro value done isClosed
      obtain rfl := Except.ok.inj (outcome.symm.trans done)
      exact replacing_planned laws opened _ _ schema steps legacy isClosed

/-! ## The pragma afterwards -/

include opened in
/-- Where the opening fails, the pragma was not switched on. -/
theorem opening_unswitched {schema old : Schema} {failure : Failure}
    (outcome : ((schema.opening old database).runOn engine state start).outcome = .error failure) :
    ∀ exchange ∈ ((schema.opening old database).runOn engine state start).exchanges,
      texts [exchange] = [legacyText true] → exchange.failure? ≠ none := by
  have read (exchange : Exchange)
      (member : exchange ∈ ((schema.reading old database).runOn engine state start).exchanges) :
      texts [exchange] ≠ [legacyText true] := by
    intro switches
    have inside := reading_texts opened state start schema old (texts_of_mem member
      (switches ▸ List.mem_singleton_self (legacyText true)))
    exact absurd inside (by decide)
  rw [opening, runOn_bind, Run.follow] at outcome ⊢
  cases done : ((schema.reading old database).runOn engine state start).outcome with
  | error failure => exact fun exchange member switches => absurd switches (read exchange member)
  | ok value =>
      simp only [done] at outcome ⊢
      generalize ((schema.reading old database).runOn engine state start).state = state' at *
      generalize ((schema.reading old database).runOn engine state start).final = middle at *
      obtain ⟨cursor, answer, final, -, executes⟩ :=
        Database.runOn_execute engine state' middle opened (legacyText true) .null
      rw [Database.run, runOn_bind, runOn_bind, executes] at outcome ⊢
      cases answer with
      | ok result => cases outcome
      | error cause =>
          intro exchange member switches
          rcases List.mem_append.mp member with member | member
          · exact absurd switches (read exchange member)
          · simp only [Run.follow, Database.executed, List.mem_cons, List.not_mem_nil,
              or_false] at member
            rcases member with rfl | rfl | rfl
            · cases switches
            · cases switches
            · exact Option.some_ne_none cause

include opened in
/-- The last statement of a replacement restores the pragma, however it ends. -/
theorem replacing_restores (schema : Schema) (steps : List MigrationStep) (legacy : Value) :
    (texts ((schema.replacing database steps legacy).runOn engine state start).exchanges).getLast? =
      some (legacyText legacy.isTrue) := by
  let restore : Action σ Unit := database.run (legacyText legacy.isTrue) >>= fun _ => pure ()
  have logged (run : Run σ τ Unit) (level : Level) (logger message : String) :
      texts (run.follow fun _ => (log level logger message : Action σ Unit).runOn engine).exchanges =
        texts run.exchanges := by
    rw [Run.follow]
    cases run.outcome with
    | ok value => exact (texts_append _ _).trans (List.append_nil _)
    | error failure => rfl
  have whole : schema.replacing database steps legacy =
      (attempt (database.transaction (runSteps database steps)) >>= fun outcome =>
        restore >>= fun _ => resume outcome) >>= fun _ =>
          (log .info logger ("Migrated table " ++ schema.name.toText) : Action σ Unit) := rfl
  rw [whole, runOn_bind, logged, runOn_afterwards engine state start _ fun _ => restore,
    Run.afterwards, texts_append,
    (Database.straight_alone engine _ _ opened (legacyText legacy.isTrue) .null).single]
  exact List.getLast?_concat

/-- Whatever fails, a migration that switched the pragma on sets it back at last. -/
theorem migrate_restores (schema old : Schema) (database : Database) {run : Run σ τ Unit}
    (same : (schema.migrate old database).runOn engine state start = run)
    (switched : ∃ exchange ∈ run.exchanges,
      texts [exchange] = [legacyText true] ∧ exchange.failure? = none) :
    (texts run.exchanges).getLast? = some (legacyText (valueRead run.exchanges).isTrue) := by
  obtain ⟨exchange, member, switches, succeeds⟩ := switched
  cases opened : database.connection with
  | none =>
      have silent : texts run.exchanges = [] := by
        rw [← same]
        simp [migrate, explicitIndexNames, Database.all, Database.execute, Database.connected,
          opened, runOn_bind, Run.follow]
        rfl
      have inside := texts_of_mem member
      rw [switches, silent] at inside
      exact absurd (inside (List.mem_singleton_self _)) List.not_mem_nil
  | some connection =>
      rw [migrate_eq, runOn_bind, Run.follow] at same
      cases outcome : ((schema.opening old database).runOn engine state start).outcome with
      | error failure =>
          rw [outcome] at same
          subst same
          exact absurd succeeds
            (opening_unswitched opened state start outcome exchange member switches)
      | ok read =>
          obtain ⟨steps, legacy⟩ := read
          rw [outcome] at same
          have found := opening_found opened state start outcome
          obtain ⟨-, read⟩ := found
            ((schema.replacing database steps legacy).runOn engine
              ((schema.opening old database).runOn engine state start).state
              ((schema.opening old database).runOn engine state start).final).exchanges
          subst same
          rw [read, texts_append, List.getLast?_append, replacing_restores opened, Option.some_or]

end Runs

/-! ## Both together -/

/-- Against an engine with transactions, outside of which they start, the creation of a table and its
migration execute all planned statements in one transaction, or leave the tables as they were. Against
any engine, a migration that switched the pragma on sets it back with its last statement. -/
theorem create_migrate_allOrNothing (engine : Engine τ) (database : Database) (schema old : Schema)
    (state : σ) (start : τ) :
    (∀ (connection : Connection) (view : EngineView τ Content) (definitions : List Definition),
      Transactional engine connection view → database.connection = some connection →
      view.isOpen start = false → schema.definitions = .ok definitions →
      AllOrNothing view start [] (definitions.map Definition.sql) []
          ((schema.create database).runOn engine state start) ∧
        ∀ run, (schema.migrate old database).runOn engine state start = run →
          ∃ steps, schema.migration old (backupName schema.name (clock run.exchanges))
              (namesRead run.exchanges) = .ok steps ∧
            AllOrNothing view start openingTexts (steps.map MigrationStep.sql)
              [legacyText (valueRead run.exchanges).isTrue] run) ∧
    ∀ run, (schema.migrate old database).runOn engine state start = run →
      (∃ exchange ∈ run.exchanges,
        texts [exchange] = [legacyText true] ∧ exchange.failure? = none) →
      (texts run.exchanges).getLast? = some (legacyText (valueRead run.exchanges).isTrue) := by
  refine ⟨?_, fun run same => migrate_restores state start schema old database same⟩
  intro connection view definitions laws opened outside rendered
  exact ⟨create_planned laws opened state start rendered outside,
    fun run same => migrate_planned laws opened state start rendered old outside same⟩

end Schema

/-! ## An engine that keeps a ledger -/

/-- The tables are the changes that were asked for. A change that is refused ends the transaction. -/
structure Ledger where
  tables : List String
  saved : Option (List String) := none
  deriving DecidableEq

namespace Ledger

def ended (ledger : Ledger) : Ledger := { tables := ledger.saved.getD ledger.tables }

def accepted (sql : String) (ledger : Ledger) : Ledger :=
  if sql = beginText then { ledger with saved := some ledger.tables }
  else if sql = rollbackText then ledger.ended
  else if sql = commitText then { ledger with saved := none }
  else if isChange sql then { ledger with tables := ledger.tables ++ [sql] }
  else ledger

def execute (refuses : String → Bool) (sql : String) (ledger : Ledger) :
    Except Outside RunResult × Ledger :=
  if refuses sql then (.error ⟨.integrity, "refused"⟩, ledger.ended)
  else (.ok ⟨none, 0⟩, ledger.accepted sql)

def engine (refuses : String → Bool) : Engine Ledger where
  answer
    | .connect _, ledger => (.ok ⟨0⟩, ledger)
    | .disconnect _, ledger => ((), ledger)
    | .inTransaction _, ledger => (ledger.saved.isSome, ledger)
    | .script _ _, ledger => (.ok (), ledger)
    | .cursor connection, ledger => (⟨connection, 0⟩, ledger)
    | .execute _ sql _, ledger => ledger.execute refuses sql
    | .fetchOne _, ledger => (.ok (some [(.text "legacy_alter_table", .int 0)]), ledger)
    | .fetchMany _ _, ledger => (.ok [], ledger)
    | .fetchAll _, ledger => (.ok [[(.text "name", .text "ix_notes_by_owner")]], ledger)
    | .rows _, ledger => (([], none), ledger)
    | .advance _ _, ledger => ((), ledger)
    | .remaining _, ledger => (0, ledger)
    | .closeCursor _, ledger => ((), ledger)
    | .log _, ledger => ((), ledger)
    | .threshold _, ledger => ((), ledger)
    | .time, ledger => (.zero false, ledger)

def view : EngineView Ledger (List String) where
  content := tables
  isOpen ledger := ledger.saved.isSome
  saved ledger := ledger.saved.getD []

/-- A refused statement ends the transaction of the ledger. -/
theorem execute_failed {refuses : String → Bool} {sql : String} {ledger next : Ledger}
    {cause : Outside} (failed : ledger.execute refuses sql = (.error cause, next)) :
    next = ledger.ended := by
  rw [execute] at failed
  split at failed
  · exact (Prod.mk.inj failed).2.symm
  · exact nomatch (Prod.mk.inj failed).1

/-- An accepted statement changes the ledger as it says. -/
theorem execute_ok {refuses : String → Bool} {sql : String} {ledger next : Ledger}
    {result : RunResult} (done : ledger.execute refuses sql = (.ok result, next)) :
    next = ledger.accepted sql := by
  rw [execute] at done
  split at done
  · exact nomatch (Prod.mk.inj done).1
  · exact (Prod.mk.inj done).2.symm

/-- A change is added to the tables. -/
theorem accepted_change {sql : String} (change : isChange sql = true) (ledger : Ledger) :
    ledger.accepted sql = { ledger with tables := ledger.tables ++ [sql] } := by
  have other {text : String} (neither : isChange text = false) : sql ≠ text := by
    rintro rfl
    exact nomatch neither.symm.trans change
  rw [accepted, if_neg (other (by decide)), if_neg (other (by decide)), if_neg (other (by decide)),
    if_pos change]

/-- A neutral statement leaves the ledger as it is. -/
theorem accepted_neutral {sql : String} (neutral : isNeutral sql = true) (ledger : Ledger) :
    ledger.accepted sql = ledger := by
  simp only [isNeutral, Bool.or_eq_true, decide_eq_true_eq] at neutral
  rcases neutral with ((rfl | rfl) | rfl) | rfl <;> rfl

/-- The ledger is a transactional engine, whatever it refuses. -/
theorem transactional (refuses : String → Bool) (connection : Connection) :
    Transactional (engine refuses) connection view where
  cursors _ := rfl
  quiet request ledger quiet := by
    cases request <;> first | exact ⟨rfl, rfl, rfl⟩ | exact nomatch quiet
  tells _ := rfl
  failed cursor sql parameters ledger cause next _ failed := by
    obtain rfl := execute_failed failed
    obtain ⟨tables, saved⟩ := ledger
    cases saved with
    | none => exact .inl ⟨rfl, rfl, rfl⟩
    | some saved => exact .inr ⟨rfl, rfl, rfl⟩
  begun cursor parameters ledger result next _ _ done := by
    obtain rfl := execute_ok done
    exact ⟨rfl, rfl⟩
  rolledBack cursor parameters ledger result next _ opened done := by
    obtain rfl := execute_ok done
    obtain ⟨saved, same⟩ := Option.isSome_iff_exists.mp opened
    exact ⟨rfl, by simp [accepted, ended, view, same, beginText, rollbackText]⟩
  changed cursor sql parameters ledger result next _ change opened done := by
    obtain rfl := execute_ok done
    rw [accepted_change change]
    exact ⟨opened, rfl⟩
  neutral cursor sql parameters ledger result next _ neutral done := by
    obtain rfl := execute_ok done
    rw [accepted_neutral neutral]
    exact ⟨rfl, rfl, rfl⟩
  namesIndices cursor parameters ledger result next rows _ _ fetched row member := by
    obtain rfl := Except.ok.inj fetched
    obtain rfl := List.mem_singleton.mp member
    exact ⟨_, rfl⟩
  reportsPragma _ _ _ _ _ _ _ fetched := nomatch fetched

end Ledger

namespace Schema

/-- Tasks get a title. -/
def tasks : Schema where
  name := .text "tasks"
  columns := [(.text "id", { storage := .integer, primaryKey := true }),
    (.text "title", { storage := .text, indexed := true })]

def oldTasks : Schema where
  name := .text "tasks"
  columns := [(.text "id", { storage := .integer, primaryKey := true })]

def tasksDatabase : Database := { path := "tasks.db", settings := {}, connection := some ⟨0⟩ }

/-- The last step of the migration is refused. -/
def tasksEngine : Engine Ledger := Ledger.engine (· = "DROP TABLE backup_tasks_0")

def tasksRun : Run Unit Ledger Unit :=
  (tasks.migrate oldTasks tasksDatabase).runOn tasksEngine () { tables := ["earlier"] }

theorem create_migrate_allOrNothing_tasks :
    (∃ definitions, tasks.definitions = .ok definitions ∧
      AllOrNothing Ledger.view { tables := ["earlier"] } [] (definitions.map Definition.sql) []
        ((tasks.create tasksDatabase).runOn tasksEngine () { tables := ["earlier"] })) ∧
    (∃ steps, tasks.migration oldTasks (backupName tasks.name (clock tasksRun.exchanges))
        (namesRead tasksRun.exchanges) = .ok steps ∧
      AllOrNothing Ledger.view { tables := ["earlier"] } openingTexts (steps.map MigrationStep.sql)
        [legacyText (valueRead tasksRun.exchanges).isTrue] tasksRun) ∧
    (texts tasksRun.exchanges).getLast? =
      some (legacyText (valueRead tasksRun.exchanges).isTrue) := by
  obtain ⟨both, restores⟩ := create_migrate_allOrNothing tasksEngine tasksDatabase tasks oldTasks ()
    { tables := ["earlier"] }
  have laws := Ledger.transactional (· = "DROP TABLE backup_tasks_0") ⟨0⟩
  obtain ⟨definitions, rendered⟩ : ∃ definitions, tasks.definitions = .ok definitions := ⟨_, rfl⟩
  obtain ⟨created, migrated⟩ := both ⟨0⟩ Ledger.view definitions laws rfl rfl rendered
  exact ⟨⟨definitions, rendered, created⟩, migrated tasksRun rfl,
    restores tasksRun rfl (by decide +kernel)⟩

example : (texts tasksRun.exchanges).drop 9 =
    ["DROP TABLE backup_tasks_0", "PRAGMA legacy_alter_table = OFF"] ∧
      tasksRun.final.tables = ["earlier"] := by
  decide +kernel

end Schema

end Tabular
