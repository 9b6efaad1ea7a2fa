import Tabular.Proofs.Query.Computed
import Tabular.Proofs.Table.Attempting

/-!
This module tells which actions leave the state of their caller as it is. All that is asked of a database
does, and the printing of rows only adds to what was printed.
-/

namespace Tabular

open Tabular.Action

variable {σ τ υ α β γ : Type}

namespace Action

/-- Every run of an action keeps what is read off its state, also where it fails. -/
def Keeps (kept : σ → γ) (action : Action σ α) : Prop :=
  ∀ ⦃τ : Type⦄ (engine : Engine τ) state start,
    kept (action.runOn engine state start).state = kept state

/-- An action keeps its whole state. -/
abbrev Steady (action : Action σ α) : Prop := Keeps id action

namespace Keeps

variable {kept : σ → γ} {action : Action σ α} {next : α → Action σ β}

/-- An action that changes no state of its caller keeps every part of it. -/
theorem ofSteady (steady : Steady action) : Keeps kept action :=
  fun _ engine state start => congrArg kept (steady engine state start)

theorem pure (value : α) : Keeps kept (Pure.pure value : Action σ α) := fun _ _ _ _ => rfl

theorem throw (failure : Failure) : Keeps kept (MonadExcept.throw failure : Action σ α) :=
  fun _ _ _ _ => rfl

theorem lift (outcome : Except Failure α) : Keeps kept (liftM outcome : Action σ α) :=
  fun _ _ _ _ => rfl

theorem resume (outcome : Except Failure α) : Keeps kept (Action.resume outcome : Action σ α) :=
  fun _ _ _ _ => rfl

theorem get : Keeps kept (MonadState.get : Action σ σ) := fun _ _ _ _ => rfl

theorem ask (request : Request) : Keeps kept (Action.ask request : Action σ request.Answer) :=
  fun _ _ _ _ => rfl

theorem log (level : Level) (logger message : String) :
    Keeps kept (Action.log level logger message : Action σ Unit) := ask _

/-- Two actions that keep a part of the state keep it one after the other. -/
theorem bind (first : Keeps kept action) (rest : ∀ value, Keeps kept (next value)) :
    Keeps kept (action >>= next) := by
  intro τ engine state start
  rw [runOn_bind, Run.follow]
  split
  · exact (rest _ engine _ _).trans (first engine state start)
  · exact first engine state start

/-- Catching a failure keeps what the action keeps. -/
theorem attempt (keeps : Keeps kept action) : Keeps kept (Action.attempt action) := by
  intro τ engine state start
  rw [runOn_attempt]
  exact keeps engine state start

/-- An action with a last step keeps what both of them keep. -/
theorem ensuring {last : Action σ Unit} (first : Keeps kept action) (rest : Keeps kept last) :
    Keeps kept (Action.ensuring action last) :=
  first.attempt.bind fun _ => rest.bind fun _ => .resume _

/-- An action on a part of a state keeps what is read off another part. -/
theorem beside {part : υ → σ} {replace : υ → σ → υ} {kept : υ → γ}
    (others : ∀ whole state, kept (replace whole state) = kept whole) (action : Action σ α) :
    Keeps kept (onPart part replace action) := by
  intro τ engine whole start
  rw [runOn_onPart]
  exact others _ _

/-- An action on a part of a state keeps what it keeps of that part. -/
theorem onPart {part : υ → σ} {replace : υ → σ → υ} {whole : υ → γ} (keeps : Keeps kept action)
    (reads : ∀ state, kept (part state) = whole state)
    (writes : ∀ state inner, whole (replace state inner) = kept inner) :
    Keeps whole (Action.onPart part replace action) := by
  intro τ engine state start
  rw [runOn_onPart]
  exact (writes _ _).trans ((keeps engine _ start).trans (reads state))

end Keeps

end Action

/-! ## Statements -/

namespace Database

variable (database : Database) (sql : String) (parameters : Value)

/-- Asking for the connection changes no state of the caller. -/
theorem connected_steady : Steady (database.connected : Action σ Connection) := by
  unfold connected
  split
  · exact .pure _
  · exact .throw _

/-- Attaching a statement to a failure changes no state of the caller. -/
theorem attached_steady (answer : Except Outside α) :
    Steady (attached sql parameters answer : Action σ α) := by
  unfold attached
  split
  · exact .pure _
  · exact .throw _

/-- Executing a statement changes the database only. -/
theorem execute_steady : Steady (database.execute sql parameters : Action σ (Cursor × RunResult)) :=
  (Keeps.log _ _ _).bind fun _ => database.connected_steady.bind fun _ => (Keeps.ask _).bind fun _ =>
    (Keeps.ask _).bind fun _ => (attached_steady _ _ _).bind fun _ => .pure _

theorem run_steady : Steady (database.run sql parameters : Action σ RunResult) :=
  (database.execute_steady sql parameters).bind fun _ => .pure _

theorem first_steady : Steady (database.first sql parameters : Action σ (Option Row)) :=
  (database.execute_steady sql parameters).bind fun _ => (Keeps.ask _).bind fun _ =>
    attached_steady _ _ _

theorem all_steady : Steady (database.all sql parameters : Action σ (List Row)) :=
  (database.execute_steady sql parameters).bind fun _ => (Keeps.ask _).bind fun _ =>
    attached_steady _ _ _

/-! ## Transactions -/

theorem inTransaction_steady : Steady (database.inTransaction : Action σ Bool) :=
  database.connected_steady.bind fun _ => .ask _

/-- Entering a block changes no state of the caller. -/
theorem enter_steady : Steady (database.enter : Action σ Bool) := by
  apply database.inTransaction_steady.bind
  intro inside
  split
  · exact .pure _
  · exact (database.run_steady _ _).bind fun _ => .pure _

/-- Leaving a block changes no state of the caller. -/
theorem leave_steady (outcome : Except Failure α) :
    Steady (database.leave outcome : Action σ Unit) := by
  unfold leave
  split
  · exact (database.run_steady _ _).bind fun _ => .pure _
  · apply database.inTransaction_steady.bind
    intro inside
    dsimp only
    split
    · exact (database.run_steady _ _).bind fun _ => .throw _
    · exact .throw _

/-- A transaction changes the state of its caller only as its body does. -/
theorem transaction_steady {body : Action σ α} (steady : Steady body) :
    Steady (database.transaction body) := by
  apply database.enter_steady.bind
  intro began
  split
  · exact steady.attempt.bind fun _ => (database.leave_steady _).bind fun _ => .resume _
  · exact steady

theorem setPragma_steady (name : String) (value : Value) :
    Steady (database.setPragma name value : Action σ Unit) :=
  (database.run_steady _ _).bind fun _ => .pure _

end Database

/-- An action that only looks at the database changes no state of its caller. -/
theorem Looks.steady {database : Database} {action : Action σ α} (looks : Looks database action) :
    Steady action := by
  induction looks with
  | lift computed => exact .lift _
  | first parameters read => exact database.first_steady _ _
  | all parameters read => exact database.all_steady _ _
  | bind _ _ firstHypothesis restHypothesis => exact firstHypothesis.bind restHypothesis

/-! ## Tables -/

namespace Schema

variable (schema : Schema) (database : Database)

/-- Running definitions changes the database only. -/
theorem runDefinitions_steady (definitions : List Definition) :
    Steady (runDefinitions database definitions : Action σ Unit) := by
  induction definitions with
  | nil => exact .pure _
  | cons definition rest inductionHypothesis =>
      exact (database.run_steady _ _).bind fun _ => inductionHypothesis

/-- Creating the tables of a schema changes the database only. -/
theorem create_steady : Steady (schema.create database : Action σ Unit) :=
  (Keeps.lift _).bind fun _ =>
    (database.transaction_steady (runDefinitions_steady database _)).bind fun _ => .log _ _ _

/-- Running the steps of a migration changes the database only. -/
theorem runSteps_steady (steps : List MigrationStep) :
    Steady (runSteps database steps : Action σ Unit) := by
  induction steps with
  | nil => exact .pure _
  | cons step rest inductionHypothesis =>
      exact (Keeps.log _ _ _).bind fun _ => (database.run_steady _ _).bind fun _ => inductionHypothesis

/-- A migration changes the database only. -/
theorem migrate_steady (old : Schema) : Steady (schema.migrate old database : Action σ Unit) :=
  (Keeps.ask _).bind fun _ => (schema.explicitIndexNames_looks database).steady.bind fun _ =>
    (Keeps.lift _).bind fun _ => (Keeps.lift _).bind fun _ => (Keeps.log _ _ _).bind fun _ =>
    (database.pragma_looks (by decide)).steady.bind fun _ => (database.setPragma_steady _ _).bind fun _ =>
    ((database.transaction_steady (runSteps_steady database _)).ensuring
      (database.setPragma_steady _ _)).bind fun _ => .log _ _ _

/-- Comparing a schema with the stored one changes no state of the caller. -/
theorem examine_steady (strict : Bool) :
    Steady (schema.examine strict database : Action σ (Option (Schema × Bool))) := by
  have surveys : Steady (schema.survey database : Action σ (Option (Schema × Bool))) :=
    (schema.survey_looks database).steady
  unfold examine
  dsimp only
  split
  · apply (database.foreignKeysEnabled_looks).steady.bind
    intro enabled
    split
    · exact (Keeps.throw _).bind fun _ => surveys
    · exact surveys
  · exact surveys

/-- Bringing the database to a schema changes no state of the caller. -/
theorem settle_steady (strict : Bool) : Steady (schema.settle strict database : Action σ SyncResult) := by
  rw [settle_eq]
  apply (schema.examine_steady database strict).bind
  intro found
  unfold proceed change
  split
  · exact (schema.create_steady database).bind fun _ => .pure _
  · exact .pure _
  · split
    · exact .throw _
    · exact (schema.migrate_steady database _).bind fun _ => .pure _

end Schema

/-- Counting the rows of a query changes no state of the caller. -/
theorem Query.count_steady (query : Query) (database : Database) :
    Steady (query.count database : Action σ Value) := by
  apply (Keeps.lift _).bind
  intro bound
  apply (database.first_steady _ _).bind
  intro found
  split
  · exact .pure _
  · exact .pure _
  · exact .lift _

/-! ## Rows that are printed -/

namespace Reading

section

variable {kept : σ → γ} {visit : Row → Action σ Unit} (keeps : ∀ row, Keeps kept (visit row))
  (database : Database)

/-- A reading carried beside another state leaves that state alone. -/
theorem besides_keeps (action : Action Reading α) :
    Keeps (fun state : Reading × σ => kept state.2) (besides action) := by
  apply Keeps.beside
  intro whole inner
  rfl

include keeps

/-- Noting a row while reading leaves the other state alone. -/
theorem visit_keeps (row : Row) : Keeps (fun state : Reading × σ => kept state.2)
    (onPart Prod.snd (fun state inner => (state.1, inner)) (visit row)) :=
  (keeps row).onPart (fun _ => rfl) fun _ _ => rfl

/-- Reading a bounded number of rows leaves the other state alone. -/
theorem visitSome_keeps (room : Nat) :
    Keeps (fun state : Reading × σ => kept state.2) (visitSome database visit room) := by
  induction room with
  | zero => exact .pure _
  | succ room inductionHypothesis =>
      apply (besides_keeps _).bind
      intro found
      split
      · exact .pure _
      · exact (visit_keeps keeps _).bind fun _ => inductionHypothesis

/-- The visits of rows keep what each of them keeps. -/
theorem visitAll_keeps :
    Keeps (fun state : Reading × σ => kept state.2) (visitAll database visit) := by
  apply (besides_keeps _).bind
  intro found
  split
  · exact .pure _
  · exact Keeps.get.bind fun _ => (besides_keeps _).bind fun _ => (visit_keeps keeps _).bind fun _ =>
      visitSome_keeps keeps database _

end

end Reading

namespace Command

/-- Printing a line of the answer adds no line to the errors. -/
theorem printLine_keeps (line : String) : Keeps Console.errors (printLine line) := fun _ _ _ _ => rfl

/-- Printing the rows of a query adds no line to the errors. -/
theorem printRows_keeps (query : Query) (database : Database) :
    Keeps Console.errors (printRows query database) := by
  apply (Keeps.lift _).bind
  intro reading
  refine Keeps.onPart (?_ : Keeps (fun state : Reading × Console => state.2.errors) _) (fun _ => rfl)
    fun _ _ => rfl
  exact (Reading.visitAll_keeps (fun row => (Keeps.lift _).bind fun _ => printLine_keeps _) database).ensuring
    (Reading.besides_keeps _)

end Command

end Tabular
