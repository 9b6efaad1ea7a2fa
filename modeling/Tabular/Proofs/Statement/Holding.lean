import Tabular.Proofs.Statement.Execution

/-!
This module tells what a statement does with its cursor. It keeps the one that it got until it is
finalized, and once it is finalized it asks for nothing.
-/

namespace Tabular

namespace Statement

open Tabular.Action Exchange

variable {σ τ : Type} {allowed : List String}

/-- A statement that is finalized has no cursor. -/
def Sound (statement : Statement) : Prop := statement.finalized = true → statement.cursor = none

/-- A statement goes from one state to another and handles one cursor at a time. Nothing is asked for a
statement that is finalized. -/
structure Tends (allowed : List String) (before : Statement) (exchanges : List Exchange)
    (after : Statement) : Prop where
  handles : Handles allowed before.cursor exchanges after.cursor
  sound : before.Sound → after.Sound
  silent : before.finalized = true → exchanges = [] ∧ after.finalized = true

namespace Tends

variable {before middle after : Statement} {earlier later : List Exchange}

theorem refl (statement : Statement) : Tends allowed statement [] statement :=
  ⟨.done _, id, fun ended => ⟨rfl, ended⟩⟩

theorem append (starts : Tends allowed before earlier middle)
    (ends : Tends allowed middle later after) : Tends allowed before (earlier ++ later) after := by
  refine ⟨starts.handles.append ends.handles, fun sound => ends.sound (starts.sound sound),
    fun ended => ?_⟩
  obtain ⟨rfl, stays⟩ := starts.silent ended
  exact ends.silent stays

/-- A statement that is not finalized may handle its cursor. -/
theorem live (starts : before.finalized = false) (stays : after.finalized = false)
    (handles : Handles allowed before.cursor earlier after.cursor) :
    Tends allowed before earlier after where
  handles := handles
  sound _ ended := nomatch stays.symm.trans ended
  silent ended := nomatch starts.symm.trans ended

end Tends

theorem Takes.handles {database : Database} {held : Option Cursor} {opening : List Exchange}
    {cursor : Cursor} (takes : Takes database held opening cursor) :
    Handles allowed held opening (some cursor) := by
  cases takes with
  | held cursor => exact .done _
  | given connection cursor opened => exact .take (.done _)

theorem execution_handles (cursor : Cursor) (sql : String) (parameters : Value)
    (answer : Except Outside RunResult) :
    Handles allowed (some cursor) (execution cursor sql parameters answer) (some cursor) :=
  .quiet rfl rfl (.use rfl rfl (.done _))

variable {engine : Engine τ} {database : Database} {statement : Statement} {start : τ}

theorem Bound.tends {parameters : Value} {run : Run Statement τ RunResult}
    (bound : Bound engine database parameters statement start run) :
    Tends allowed statement run.exchanges run.state := by
  cases bound with
  | finalized ended => exact .refl _
  | unconnected live bare closed => exact .live live live (.done _)
  | executed live takes answered =>
      exact .live live live (takes.handles.append (execution_handles _ _ _ _))

theorem Reached.tends {run : Run Statement τ Cursor}
    (reached : Reached engine database statement start run) :
    Tends allowed statement run.exchanges run.state := by
  cases reached with
  | held | finalized | unconnected => exact .refl _
  | executed live bare opened answered =>
      refine .live live live ?_
      rw [bare]
      exact .take (execution_handles _ _ _ _)

/-- A statement whose cursor was reached holds it. -/
theorem Reached.holds {run : Run Statement τ Cursor}
    (reached : Reached engine database statement start run) {cursor : Cursor}
    (reaches : run.outcome = .ok cursor) :
    run.state.cursor = some cursor ∧ run.state.finalized = false := by
  cases reached with
  | held live holds =>
      cases reaches
      exact ⟨holds, live⟩
  | @executed live bare connection opened other before final answer answered =>
      cases answer with
      | ok result =>
          cases reaches
          exact ⟨rfl, live⟩
      | error cause => exact nomatch reaches
  | finalized | unconnected => exact nomatch reaches

/-- After the cursor was reached, its rows are asked for. -/
theorem Reached.asking {run : Run Statement τ Cursor}
    (reached : Reached engine database statement start run) {cursor : Cursor}
    (reaches : run.outcome = .ok cursor) {tail : List Exchange}
    (asks : ∀ exchange ∈ tail, exchange.request.source? = some cursor) :
    Tends allowed statement (run.exchanges ++ tail) run.state := by
  obtain ⟨holds, live⟩ := reached.holds reaches
  refine reached.tends.append (.live live live ?_)
  rw [holds]
  exact .uses asks

theorem Finalized.tends {run : Run Statement τ Unit}
    (finalized : Finalized engine statement start run) :
    Tends allowed statement run.exchanges run.state := by
  cases finalized with
  | already ended => exact .refl _
  | bare live none =>
      exact ⟨.done _, fun _ _ => none, fun ended => nomatch live.symm.trans ended⟩
  | closed live holds =>
      refine ⟨?_, fun _ _ => rfl, fun ended => nomatch live.symm.trans ended⟩
      rw [holds]
      exact .close (.done _)

namespace Call

theorem Fetched.tends {call : Call σ} {inner : σ} {run : Run (Statement × σ) τ Answer}
    (fetched : Fetched engine database call statement inner start run) :
    Tends allowed statement run.exchanges run.state.1 := by
  cases fetched with
  | refused reached fails => exact reached.tends
  | taken reached reaches asks hands => exact reached.asking reaches asks

variable (engine database statement start)

/-- A call handles the cursor of its statement. -/
theorem perform_tends (call : Call σ) (inner : σ) :
    Tends allowed statement ((call.perform database).runOn engine (statement, inner) start).exchanges
      ((call.perform database).runOn engine (statement, inner) start).state.1 := by
  cases call with
  | bind parameters =>
      rw [perform, runOn_besides]
      exact (bind_bound engine database statement start parameters).tends
  | finalize =>
      rw [runOn_finalize]
      exact (finalize_finalized engine statement start).tends
  | first | many | all | each => exact (perform_fetched engine database statement start rfl inner).tends

/-- What a call comes to on a statement that is finalized. -/
def refusal (statement : Statement) : Call σ → Except Failure Answer
  | .finalize => .ok .released
  | _ => .error (.engine "Statement is finalized" statement.sql statement.parameters)

variable {statement}

theorem Fetched.refused_finalized (ended : statement.finalized = true) {call : Call σ} {inner : σ}
    {run : Run (Statement × σ) τ Answer}
    (fetched : Fetched engine database call statement inner start run) :
    run = ⟨.error (.engine "Statement is finalized" statement.sql statement.parameters),
      (statement, inner), start, []⟩ := by
  cases fetched with
  | refused reached fails =>
      cases reached with
      | finalized _ =>
          cases fails
          rfl
      | held live | executed live | unconnected live => exact nomatch live.symm.trans ended
  | taken reached reaches =>
      have tends : Tends [] statement _ _ := reached.tends
      exact nomatch (reached.holds reaches).2.symm.trans (tends.silent ended).2

/-- On a statement that is finalized, a call asks for nothing. Every call fails, except that it may be
finalized again. -/
theorem perform_finalized (ended : statement.finalized = true) (call : Call σ) (inner : σ) :
    (call.perform database).runOn engine (statement, inner) start =
      ⟨call.refusal statement, (statement, inner), start, []⟩ := by
  cases call with
  | bind parameters =>
      have bound := bind_bound engine database statement start parameters
      rw [perform, runOn_besides]
      generalize (Statement.bind database parameters).runOn engine statement start = run at bound
      cases bound with
      | finalized _ => rfl
      | unconnected live | executed live => cases live.symm.trans ended
  | finalize =>
      have finalized := finalize_finalized engine statement start
      rw [runOn_finalize]
      generalize Statement.finalize.runOn engine statement start = run at finalized
      cases finalized with
      | already _ => rfl
      | bare live | closed live => cases live.symm.trans ended
  | first | many | all | each =>
      exact Fetched.refused_finalized engine database start ended
        (perform_fetched engine database statement start rfl inner)

end Call

end Statement

end Tabular
