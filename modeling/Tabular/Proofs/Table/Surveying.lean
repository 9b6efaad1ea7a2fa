import Tabular.Command.Run
import Tabular.Proofs.Engine.Replies
import Tabular.Proofs.Table.Attribution
import Tabular.Proofs.Table.Guarded

/-!
This module describes how a declared table is surveyed. A check, a creation and an update begin with the
same survey, and each one goes on from what it finds.
-/

namespace Tabular

open Tabular.Action Exchange

variable {σ τ α β : Type}

namespace Looks

variable {database : Database} {connection : Connection} {action : Action σ α}
  (looks : Looks database action) (opened : database.connection = some connection)

include looks opened

theorem untimed (engine : Engine τ) (state : σ) (start : τ) :
    Untimed (action.runOn engine state start).exchanges := by
  induction looks generalizing state start with
  | lift computed => exact List.forall_mem_nil _
  | first parameters read => exact (Database.first_told opened engine state start _ parameters).untimed
  | all parameters read => exact (Database.all_told opened engine state start _ parameters).untimed
  | bind _ _ firstHypothesis restHypothesis =>
      rw [runOn_bind]
      rw [Run.follow]
      split
      · exact (firstHypothesis state start).append (restHypothesis _ _ _)
      · exact firstHypothesis state start

theorem settles (engine : Engine τ) (state other : σ) (start begin : τ) :
    (action.runOn engine state start).Settles (action.runOn engine other begin) := by
  induction looks generalizing state start other begin with
  | lift computed => exact fun _ _ rest others same => ⟨rfl, same⟩
  | first parameters read =>
      exact (Database.first_told opened engine state start _ parameters).settles
        (Database.first_told opened engine other begin _ parameters) toList_injective
  | all parameters read =>
      exact (Database.all_told opened engine state start _ parameters).settles
        (Database.all_told opened engine other begin _ parameters) Function.injective_id
  | bind _ _ firstHypothesis restHypothesis =>
      rw [runOn_bind, runOn_bind]
      exact (firstHypothesis state other start begin).follow
        fun value => restHypothesis value _ _ _ _

end Looks

/-- After reads a run goes on with an action and ends as that does. -/
structure Run.GoesOn (run : Run σ τ α) (engine : Engine τ) (action : Action σ β) (wrap : β → α) :
    Prop where
  later : ∃ earlier state middle, OnlyReads earlier ∧
    run.exchanges = earlier ++ (action.runOn engine state middle).exchanges ∧
    run.outcome = (action.runOn engine state middle).outcome.map wrap

/-! ## Surveys -/

namespace Schema

variable (schema : Schema) (database : Database)

/-- This action finds the table, rebuilds its declaration, and tells whether it is as declared. Nothing
comes of it where the table is absent. -/
def survey : Action σ (Option (Schema × Bool)) := do
  if ← schema.exists? database then
    let old ← schema.introspect database
    let same ← (schema.agrees old : Except Failure Bool)
    pure (some (old, same))
  else pure none

theorem survey_looks : Looks database (schema.survey database : Action σ (Option (Schema × Bool))) := by
  apply (schema.exists?_looks database).bind
  intro present
  split
  · apply (schema.introspect_looks database).bind
    intro old
    exact Looks.bind (.lift (schema.agrees_computed old)) fun _ => .pure _
  · exact .pure _

/-- What a check tells about a survey. -/
def stateOf : Option (Schema × Bool) → Command.TableState
  | none => .absent
  | some (_, true) => .same
  | some (_, false) => .different

/-- What is done after a survey. An absent table is created, and one that is as declared is kept. -/
def proceed (different : Schema → Action σ SyncResult) : Option (Schema × Bool) → Action σ SyncResult
  | none => do
      schema.create database
      pure { wasCreated := true }
  | some (_, true) => pure { wasCreated := false }
  | some (old, false) => different old

/-- A creation refuses a table that is different. -/
def refuse (_ : Schema) : Action σ SyncResult := throw (.schemaMismatch schema.name)

/-- An update migrates a table that is different. -/
def replace (old : Schema) : Action σ SyncResult := do
  schema.migrate old database
  pure { wasCreated := false, wasUpdated := true }

variable {schema database} in
/-- An action that asks what a survey asks, and goes on differently with each answer, goes on from the
survey. -/
theorem survey_bind {α : Type} {absent : Action σ α} {present : Schema → Bool → Action σ α}
    {next : Option (Schema × Bool) → Action σ α} (gone : absent = next none)
    (there : ∀ old same, present old same = next (some (old, same))) :
    (do
      if ← schema.exists? database then
        let old ← schema.introspect database
        let same ← (schema.agrees old : Except Failure Bool)
        present old same
      else absent) = schema.survey database >>= next := by
  rw [survey, bind_assoc]
  refine congrArg _ (funext fun found => ?_)
  cases found with
  | false => exact gone
  | true => simp only [if_true, bind_assoc, pure_bind, there]

/-- A check tells what a survey finds. -/
theorem tableState_eq : (Command.tableState schema database : Action σ Command.TableState) =
    (do pure (stateOf (← schema.survey database))) := by
  simp only [Command.tableState, matchesDatabase, bind_assoc]
  exact survey_bind rfl fun old same => by cases same <;> rfl

/-- A creation goes on from a survey and refuses a table that is different. -/
theorem createIfAbsent_eq : (schema.createIfAbsent database : Action σ SyncResult) =
    schema.survey database >>= schema.proceed database schema.refuse := by
  simp only [createIfAbsent, matchesDatabase, bind_assoc]
  exact survey_bind rfl fun old same => by cases same <;> rfl

/-- An update goes on from a survey and migrates a table that is different, unless foreign keys are on. -/
theorem createOrUpdate_eq : (schema.createOrUpdate database : Action σ SyncResult) = (do
    if ← database.foreignKeysEnabled then throw .foreignKeysEnabled
    schema.survey database >>= schema.proceed database (schema.replace database)) := by
  rw [createOrUpdate]
  refine congrArg _ (funext fun enabled => ?_)
  cases enabled with
  | true => rfl
  | false => exact survey_bind rfl fun old same => by cases same <;> rfl

/-! ## What comes of a survey -/

section

variable {schema : Schema} {database : Database} {connection : Connection}
  (opened : database.connection = some connection)

include opened in
/-- A creation in which nothing fails ends as its definitions do. -/
theorem create_outcome (engine : Engine τ) (state : σ) (start : τ)
    (faultless : Faultless ((schema.create database).runOn engine state start).exchanges) :
    ((schema.create database).runOn engine state start).outcome =
      schema.definitions.map fun _ => () := by
  rw [create] at faultless ⊢
  cases rendered : schema.definitions with
  | error failure => rfl
  | ok definitions =>
      have attributes := (database.transaction_attributes opened
        (runDefinitions_attributes opened definitions)).bind fun _ => Attributes.log (σ := σ) .info
          logger ("Created table " ++ schema.name.toText)
      have relays := (database.transaction_relays (runDefinitions_relays database definitions)).bind
        fun _ => Avoids.log (σ := σ) .info logger ("Created table " ++ schema.name.toText)
      rw [rendered] at faultless
      obtain ⟨_, returns⟩ := attributes.returns relays engine state start faultless
      exact returns

theorem create_refused {failure : Failure} (refused : schema.definitions = .error failure)
    (engine : Engine τ) (state : σ) (start : τ) :
    (schema.create database).runOn engine state start = ⟨.error failure, state, start, []⟩ := by
  rw [create, refused]
  rfl

end

end Schema

namespace Schema

variable {schema : Schema} {database : Database} {connection : Connection}
  (opened : database.connection = some connection) {engine : Engine τ}

/-- What comes of a run that surveys a table after reads and proceeds from what it finds. -/
inductive Proceeded (schema : Schema) (database : Database) (engine : Engine τ)
    (different : Schema → Action σ SyncResult) (run : Run σ τ SyncResult) :
    Except Failure (Option (Schema × Bool)) → Prop where
  | failed {failure : Failure} (accepted : failure.isSchemaRefusal = false)
      (raises : run.outcome = .error failure) (reads : OnlyReads run.exchanges)
      (untimed : Untimed run.exchanges) :
      Proceeded schema database engine different run (.error failure)
  | absent (creates : run.GoesOn engine (schema.create database) fun _ => { wasCreated := true })
      (ends : run.outcome = schema.definitions.map fun _ => { wasCreated := true })
      (refuses : ∀ failure, schema.definitions = .error failure →
        OnlyReads run.exchanges ∧ Untimed run.exchanges) :
      Proceeded schema database engine different run (.ok none)
  | same {old : Schema} (returns : run.outcome = .ok { wasCreated := false })
      (reads : OnlyReads run.exchanges) (untimed : Untimed run.exchanges) :
      Proceeded schema database engine different run (.ok (some (old, true)))
  | different {old : Schema} (differs : schema.agrees old = .ok false)
      (goes : run.GoesOn engine (different old) id) :
      Proceeded schema database engine different run (.ok (some (old, false)))

theorem survey_found {state : σ} {start : τ} {old : Schema} {same : Bool}
    (found : ((schema.survey database).runOn engine state start).outcome = .ok (some (old, same))) :
    schema.agrees old = .ok same := by
  rw [survey, runOn_bind, Run.follow] at found
  split at found
  · next present _ =>
      cases present with
      | false => cases found
      | true =>
          simp only [if_true, runOn_bind, Run.follow] at found
          split at found
          · next actual _ =>
              cases compared : schema.agrees actual with
              | error failure => simp [compared] at found
              | ok equal =>
                  simp only [compared, runOn_lift, runOn_pure, Except.ok.injEq, Option.some.injEq,
                    Prod.mk.injEq] at found
                  rw [← found.1, compared, found.2]
          · cases found
  · cases found

include opened in
theorem proceed_proceeded {different : Schema → Action σ SyncResult} {earlier : List Exchange}
    (reads : OnlyReads earlier) (untimed : Untimed earlier) {state : σ} {start : τ}
    {rest run : Run σ τ SyncResult}
    (runs : (schema.survey database >>= schema.proceed database different).runOn engine state start =
      rest)
    (ends : run.outcome = rest.outcome) (asks : run.exchanges = earlier ++ rest.exchanges)
    (faultless : Faultless run.exchanges) :
    Proceeded schema database engine different run
      ((schema.survey database).runOn engine state start).outcome := by
  have looks : Looks database (schema.survey database : Action σ _) := schema.survey_looks database
  have surveyed := reads.append (looks.inspects engine state start)
  have waited := untimed.append (looks.untimed opened engine state start)
  have accepts := looks.accepts engine state start
  cases found : ((schema.survey database).runOn engine state start).outcome with
  | error failure =>
      rw [← runs, runOn_bind, Run.follow, found] at ends asks
      rw [← asks] at surveyed waited
      exact .failed (accepts failure found) ends surveyed waited
  | ok finding =>
      rw [← runs, runOn_bind, Run.follow, found] at ends asks
      dsimp only at ends asks
      rw [← List.append_assoc] at asks
      rcases finding with _ | ⟨old, _ | _⟩
      case none =>
          rw [proceed, runOn_wrap] at ends asks
          dsimp only at ends asks
          have begun := asks ▸ faultless
          refine .absent ⟨_, _, _, surveyed, asks, ends⟩ ?_ ?_
          · rw [ends, create_outcome opened engine _ _ begun.right]
            cases schema.definitions <;> rfl
          · -- The definitions are written before anything is asked.
            intro failure refused
            rw [create_refused refused, List.append_nil] at asks
            rw [asks]
            exact ⟨surveyed, waited⟩
      case some.false =>
          exact .different (survey_found found)
            ⟨_, _, _, surveyed, asks, ends.trans (congrFun Except.map_id _).symm⟩
      case some.true =>
          rw [proceed, runOn_pure, List.append_nil] at asks
          rw [← asks] at surveyed waited
          exact .same ends surveyed waited

end Schema

end Tabular
