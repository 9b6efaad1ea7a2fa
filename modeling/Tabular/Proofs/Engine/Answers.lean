import Tabular.Database
import Tabular.Proofs.Engine.Run

/-!
This module runs actions against an engine that answers statements with known rows. The engine stays
in states in which its answers hold.
-/

namespace Tabular

open Tabular.Action

variable {σ τ α β : Type}

/-- The rows that are the answer of a statement with its parameters, where they are known. -/
abbrev Answers := String → Value → Option (List Row)

/-- A cursor holds the rows that it gives, and giving them leads to a valid state. -/
structure Holds (engine : Engine τ) (valid : τ → Prop) (cursor : Cursor) (rows : List Row)
    (state : τ) : Prop where
  all : (engine.answer (.fetchAll cursor) state).1 = .ok rows
  allValid : valid (engine.answer (.fetchAll cursor) state).2
  first : (engine.answer (.fetchOne cursor) state).1 = .ok rows.head?
  firstValid : valid (engine.answer (.fetchOne cursor) state).2

/-- In a valid state an engine executes the known statements on a connection. -/
structure Answering (engine : Engine τ) (connection : Connection) (answers : Answers)
    (valid : τ → Prop) : Prop where
  logs : ∀ record state, valid state → valid (engine.answer (.log record) state).2
  connects : ∀ state, (engine.answer (.cursor connection) state).1.connection = connection
  cursors : ∀ state, valid state → valid (engine.answer (.cursor connection) state).2
  executes : ∀ cursor sql parameters rows state, cursor.connection = connection → valid state →
    answers sql parameters = some rows →
    ∃ result final, engine.answer (.execute cursor sql parameters) state = (.ok result, final) ∧
      Holds engine valid cursor rows final

/-- An action gives a value in every valid state and leads to a valid one. -/
structure Gives (engine : Engine τ) (valid : τ → Prop) (action : Action σ α) (value : α) :
    Prop where
  runs : ∀ state start, valid start → (action.runOn engine state start).outcome = .ok value ∧
    valid (action.runOn engine state start).final

namespace Gives

variable {engine : Engine τ} {valid : τ → Prop}

theorem pure (value : α) : Gives engine valid (Pure.pure value : Action σ α) value :=
  ⟨fun _ _ isValid => ⟨rfl, isValid⟩⟩

theorem lift {outcome : Except Failure α} {value : α} (done : outcome = .ok value) :
    Gives engine valid (liftM outcome : Action σ α) value :=
  ⟨fun _ _ isValid => ⟨done, isValid⟩⟩

theorem bind {action : Action σ α} {next : α → Action σ β} {value : α} {result : β}
    (first : Gives engine valid action value) (rest : Gives engine valid (next value) result) :
    Gives engine valid (action >>= next) result := by
  constructor
  intro state start isValid
  obtain ⟨outcome, middleValid⟩ := first.runs state start isValid
  rw [runOn_bind, Run.follow, outcome]
  exact rest.runs _ _ middleValid

end Gives

namespace Database

variable {engine : Engine τ} {connection : Connection} {answers : Answers} {valid : τ → Prop}
  {database : Database} (laws : Answering engine connection answers valid)
  (opened : database.connection = some connection) {sql : String} {parameters : Value}
  {rows : List Row} (answered : answers sql (driverParameters parameters) = some rows)

include laws opened answered

theorem execute_holds (state : σ) {start : τ} (isValid : valid start) :
    ∃ cursor result, ((database.execute sql parameters).runOn engine state start).outcome =
        .ok (cursor, result) ∧
      Holds engine valid cursor rows
        ((database.execute sql parameters).runOn engine state start).final := by
  have logged := laws.logs ⟨.debug, logger, sql ++ " " ++ parameters.literal⟩ start isValid
  simp only [execute, connected, opened, runOn_bind, runOn_log, Run.follow, runOn_pure,
    runOn_cursor, runOn_statement, attached]
  generalize engine.answer (.log ⟨.debug, logger, sql ++ " " ++ parameters.literal⟩) start =
    middle at *
  obtain ⟨result, final, executed, holds⟩ := laws.executes _ sql _ rows _ (laws.connects middle.2)
    (laws.cursors middle.2 logged) answered
  exact ⟨_, result, by rw [executed]; rfl, by rw [executed]; exact holds⟩

/-- All rows of the answer are read. -/
theorem gives_all : Gives engine valid (database.all sql parameters : Action σ (List Row)) rows := by
  constructor
  intro state start isValid
  obtain ⟨cursor, result, outcome, holds⟩ := execute_holds laws opened answered state isValid
  simp only [Database.all, runOn_bind, Run.follow, outcome, runOn_fetchAll, holds.all, attached,
    runOn_pure]
  exact ⟨trivial, holds.allValid⟩

/-- The first row of the answer is read. -/
theorem gives_first :
    Gives engine valid (database.first sql parameters : Action σ (Option Row)) rows.head? := by
  constructor
  intro state start isValid
  obtain ⟨cursor, result, outcome, holds⟩ := execute_holds laws opened answered state isValid
  simp only [Database.first, runOn_bind, Run.follow, outcome, runOn_fetchOne, holds.first, attached,
    runOn_pure]
  exact ⟨trivial, holds.firstValid⟩

end Database

/-! ## An engine that knows its answers -/

namespace Answers

/-- This engine executes the known statements and holds the rows of the last one. -/
def engine (answers : Answers) : Engine (List Row) where
  answer
    | .connect _, rows => (.ok ⟨0⟩, rows)
    | .disconnect _, rows => ((), rows)
    | .inTransaction _, rows => (false, rows)
    | .script _ _, rows => (.ok (), rows)
    | .cursor connection, rows => (⟨connection, 0⟩, rows)
    | .execute _ sql parameters, rows =>
        match answers sql parameters with
        | some found => (.ok ⟨none, -1⟩, found)
        | none => (.error ⟨.operational, "unknown statement"⟩, rows)
    | .fetchOne _, rows => (.ok rows.head?, rows.tail)
    | .fetchMany _ count, rows => (.ok (rows.take count.toNat), rows.drop count.toNat)
    | .fetchAll _, rows => (.ok rows, [])
    | .rows _, rows => ((rows, none), rows)
    | .advance _ count, rows => ((), rows.drop count)
    | .remaining _, rows => (rows.length, rows)
    | .closeCursor _, rows => ((), rows)
    | .log _, rows => ((), rows)
    | .threshold _, rows => ((), rows)
    | .time, rows => (.zero false, rows)

theorem answering (answers : Answers) (connection : Connection) :
    Answering answers.engine connection answers fun _ => True where
  logs _ _ _ := trivial
  connects _ := rfl
  cursors _ _ := trivial
  executes cursor sql parameters rows state _ _ known := by
    refine ⟨⟨none, -1⟩, rows, ?_, rfl, trivial, rfl, trivial⟩
    simp only [engine, known]

end Answers

end Tabular
