import Tabular.Proofs.Engine.Answers

/-!
This module runs actions against an engine that may answer a statement in several ways. Whatever the
engine chooses, an action succeeds with a value of some kind.
-/

namespace Tabular

open Tabular.Action

variable {σ τ α β : Type}

/-- In every valid state an action succeeds with a value of some kind and leads to a valid state. -/
structure Finds (engine : Engine τ) (valid : τ → Prop) (action : Action σ α) (wanted : α → Prop) :
    Prop where
  runs : ∀ state start, valid start → ∃ value,
    (action.runOn engine state start).outcome = .ok value ∧ wanted value ∧
      valid (action.runOn engine state start).final

namespace Finds

variable {engine : Engine τ} {valid : τ → Prop}

theorem pure {wanted : α → Prop} {value : α} (holds : wanted value) :
    Finds engine valid (Pure.pure value : Action σ α) wanted :=
  ⟨fun _ _ isValid => ⟨value, rfl, holds, isValid⟩⟩

theorem lift {wanted : α → Prop} {outcome : Except Failure α} {value : α}
    (done : outcome = .ok value) (holds : wanted value) :
    Finds engine valid (liftM outcome : Action σ α) wanted :=
  ⟨fun _ _ isValid => ⟨value, done, holds, isValid⟩⟩

theorem bind {action : Action σ α} {next : α → Action σ β} {found : α → Prop} {wanted : β → Prop}
    (first : Finds engine valid action found)
    (rest : ∀ value, found value → Finds engine valid (next value) wanted) :
    Finds engine valid (action >>= next) wanted := by
  constructor
  intro state start isValid
  obtain ⟨value, outcome, holds, middleValid⟩ := first.runs state start isValid
  rw [runOn_bind, Run.follow, outcome]
  exact (rest value holds).runs _ _ middleValid

/-- What follows a computation starts from its value. -/
theorem lifted {outcome : Except Failure α} {next : α → Action σ β} {wanted : β → Prop} {value : α}
    (done : outcome = .ok value) (rest : Finds engine valid (next value) wanted) :
    Finds engine valid ((liftM outcome : Action σ α) >>= next) wanted := by
  have first : Finds engine valid (liftM outcome : Action σ α) (· = value) := lift done rfl
  exact first.bind fun _ same => same ▸ rest

theorem mono {action : Action σ α} {found wanted : α → Prop}
    (finds : Finds engine valid action found) (weaker : ∀ value, found value → wanted value) :
    Finds engine valid action wanted := by
  constructor
  intro state start isValid
  obtain ⟨value, outcome, holds, isFinal⟩ := finds.runs state start isValid
  exact ⟨value, outcome, weaker value holds, isFinal⟩

end Finds

/-- In a valid state an engine accepts records and cursors on a connection. -/
structure Accepting (engine : Engine τ) (connection : Connection) (valid : τ → Prop) : Prop where
  logs : ∀ record state, valid state → valid (engine.answer (.log record) state).2
  connects : ∀ state, (engine.answer (.cursor connection) state).1.connection = connection
  cursors : ∀ state, valid state → valid (engine.answer (.cursor connection) state).2

/-- In a valid state an engine executes a statement without parameters and holds rows of some
kind. -/
def Executes (engine : Engine τ) (connection : Connection) (valid : τ → Prop) (sql : String)
    (tells : List Row → Prop) : Prop :=
  ∀ cursor state, cursor.connection = connection → valid state → ∃ result final rows,
    engine.answer (.execute cursor sql (.tuple [])) state = (.ok result, final) ∧
      Holds engine valid cursor rows final ∧ tells rows

/-- All rows are found that the engine holds. -/
theorem Database.finds_all {engine : Engine τ} {connection : Connection} {valid : τ → Prop}
    {database : Database} (accepts : Accepting engine connection valid)
    (opened : database.connection = some connection) {sql : String} {tells : List Row → Prop}
    (executes : Executes engine connection valid sql tells) :
    Finds engine valid (database.all sql : Action σ (List Row)) tells := by
  constructor
  intro state start isValid
  have logged := accepts.logs ⟨.debug, logger, sql ++ " " ++ Value.null.literal⟩ start isValid
  simp only [Database.all, execute, connected, opened, runOn_bind, runOn_log, Run.follow,
    runOn_pure, runOn_cursor, runOn_statement, attached]
  generalize engine.answer (.log ⟨.debug, logger, sql ++ " " ++ Value.null.literal⟩) start =
    middle at *
  obtain ⟨result, final, rows, executed, holds, told⟩ :=
    executes _ _ (accepts.connects middle.2) (accepts.cursors middle.2 logged)
  have none : driverParameters .null = .tuple [] := rfl
  rw [none, executed]
  simp only [runOn_pure, runOn_fetchAll, holds.all]
  exact ⟨rows, rfl, told, holds.allValid⟩

namespace Answers

variable (answers : Answers) (connection : Connection)

theorem accepting : Accepting answers.engine connection fun _ => True where
  logs _ _ _ := trivial
  connects _ := rfl
  cursors _ _ := trivial

theorem executes {sql : String} {rows : List Row} {tells : List Row → Prop}
    (known : answers sql (.tuple []) = some rows) (told : tells rows) :
    Executes answers.engine connection (fun _ => True) sql tells := by
  intro cursor state _ _
  refine ⟨⟨none, -1⟩, rows, rows, ?_, ⟨rfl, trivial, rfl, trivial⟩, told⟩
  simp only [engine, known]

end Answers

end Tabular
