import Tabular.Proofs.Engine.Straight
import Tabular.Proofs.Statement.Execution

/-!
This module tells what an action has done that returned. Every part of it returned before the next one,
and every statement of it was answered with a result.
-/

namespace Tabular

open Tabular.Action

variable {σ τ : Type}

namespace Action

variable {α β : Type} {engine : Engine τ} {start final : τ}

/-- An action returns a value and leaves the engine in a state. -/
def Yields (action : Action σ α) (engine : Engine τ) (start : τ) (value : α) (final : τ) : Prop :=
  ∃ state, (action.runOn engine state start).outcome = .ok value ∧
    (action.runOn engine state start).final = final

namespace Yields

theorem bind {action : Action σ α} {next : α → Action σ β} {result : β}
    (yields : (action >>= next).Yields engine start result final) :
    ∃ value middle, action.Yields engine start value middle ∧
      (next value).Yields engine middle result final := by
  obtain ⟨state, ended, left⟩ := yields
  rw [runOn_bind, Run.follow] at ended left
  cases first : (action.runOn engine state start).outcome with
  | error failure =>
      rw [first] at ended
      cases ended
  | ok value =>
      rw [first] at ended left
      exact ⟨value, _, ⟨state, first, rfl⟩, _, ended, left⟩

theorem lift {outcome : Except Failure α} {value : α}
    (yields : (liftM outcome : Action σ α).Yields engine start value final) :
    outcome = .ok value ∧ final = start := by
  obtain ⟨state, ended, left⟩ := yields
  exact ⟨ended, left.symm⟩

theorem log {level : Level} {logger message : String} {value : Unit}
    (yields : (log level logger message : Action σ Unit).Yields engine start value final) :
    final = (engine.answer (.log ⟨level, logger, message⟩) start).2 := by
  obtain ⟨state, -, left⟩ := yields
  exact left.symm

theorem attached {sql : String} {parameters : Value} {answer : Except Outside α} {value : α}
    (yields : (attached sql parameters answer : Action σ α).Yields engine start value final) :
    answer = .ok value ∧ final = start := by
  obtain ⟨state, ended, left⟩ := yields
  rw [Statement.runOn_attached] at ended left
  cases answer with
  | error cause => cases ended
  | ok other => exact ⟨congrArg Except.ok (Except.ok.inj ended), left.symm⟩

end Yields

end Action

/-! ## Statements that were executed -/

namespace Database

variable {engine : Engine τ} {database : Database} {start final : τ} {sql : String} {parameters : Value}

theorem connected_yields {connection : Connection}
    (yields : (database.connected : Action σ Connection).Yields engine start connection final) :
    final = start := by
  obtain ⟨state, ended, rfl⟩ := yields
  rw [connected] at ended ⊢
  cases opened : database.connection with
  | none =>
      rw [opened] at ended
      cases ended
  | some other => rfl

theorem execute_yields {cursor : Cursor} {result : RunResult}
    (yields : (database.execute sql parameters : Action σ _).Yields engine start (cursor, result) final) :
    ∃ connection, Answered engine connection sql parameters start cursor (.ok result) final := by
  obtain ⟨_, logged, logs, yields⟩ := yields.bind
  obtain rfl := logs.log
  obtain ⟨connection, _, opens, yields⟩ := yields.bind
  obtain rfl := connected_yields opens
  obtain ⟨place, fresh, ⟨_, given, placed⟩, yields⟩ := yields.bind
  obtain ⟨answer, last, ⟨_, answers, executed⟩, yields⟩ := yields.bind
  obtain ⟨other, ended, attaches, yields⟩ := yields.bind
  obtain ⟨rfl, rfl⟩ := attaches.attached
  obtain ⟨_, same, rfl⟩ := yields
  obtain ⟨rfl, rfl⟩ := Prod.mk.inj (Except.ok.inj same)
  exact ⟨connection, fresh, Prod.ext (Except.ok.inj given) placed,
    Prod.ext (Except.ok.inj answers) executed⟩

/-- A statement that ran was answered with its result. -/
theorem run_yields {result : RunResult}
    (yields : (database.run sql parameters : Action σ _).Yields engine start result final) :
    ∃ connection cursor, Answered engine connection sql parameters start cursor (.ok result) final := by
  obtain ⟨⟨cursor, other⟩, middle, executes, yields⟩ := yields.bind
  obtain ⟨connection, answered⟩ := execute_yields executes
  obtain ⟨_, same, rfl⟩ := yields
  obtain rfl := Except.ok.inj same
  exact ⟨connection, cursor, answered⟩

/-- A row that was found was fetched after its statement was answered. -/
theorem first_yields {found : Option Row}
    (yields : (database.first sql parameters : Action σ _).Yields engine start found final) :
    ∃ connection cursor result middle,
      Answered engine connection sql parameters start cursor (.ok result) middle ∧
      engine.answer (.fetchOne cursor) middle = (.ok found, final) := by
  obtain ⟨⟨cursor, result⟩, middle, executes, yields⟩ := yields.bind
  obtain ⟨connection, answered⟩ := execute_yields executes
  obtain ⟨answer, last, ⟨_, same, fetched⟩, yields⟩ := yields.bind
  obtain ⟨rfl, rfl⟩ := yields.attached
  exact ⟨connection, cursor, result, middle, answered, Prod.ext (Except.ok.inj same) fetched⟩

end Database

end Tabular
