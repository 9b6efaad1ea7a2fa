import Tabular.Engine.Script
import Tabular.Proofs.Statement.Execution

/-!
This module tells from which execution a fetch takes its rows. A statement that has a cursor counts as
executed, also where its last execution failed, and then a fetch asks for rows of no execution.
-/

namespace Tabular

namespace Exchange

/-- These exchanges are attempts to execute a statement. -/
def isExecution : Exchange → Bool
  | ⟨.execute _ _ _, _⟩ => true
  | _ => false

def executions (exchanges : List Exchange) : List Exchange := exchanges.filter isExecution

def lastExecution (exchanges : List Exchange) : Option Exchange := (executions exchanges).getLast?

theorem executions_append (first second : List Exchange) :
    executions (first ++ second) = executions first ++ executions second :=
  List.filter_append first second

theorem lastExecution_append (first second : List Exchange) :
    lastExecution (first ++ second) = (lastExecution second).or (lastExecution first) := by
  rw [lastExecution, executions_append, List.getLast?_append, lastExecution, lastExecution]

/-- Without a new attempt the last one stays. -/
theorem lastExecution_silent (first : List Exchange) {second : List Exchange}
    (silent : executions second = []) : lastExecution (first ++ second) = lastExecution first := by
  rw [lastExecution_append, lastExecution, silent]
  rfl

theorem lastExecution_eq_none {exchanges : List Exchange} :
    lastExecution exchanges = none ↔ executions exchanges = [] :=
  List.getLast?_eq_none_iff

/-- The last attempt to execute a statement failed. -/
def LastFailed (exchanges : List Exchange) : Prop :=
  ∃ cursor sql parameters cause,
    lastExecution exchanges = some ⟨.execute cursor sql parameters, .error cause⟩

theorem executions_asking {cursor : Cursor} {exchanges : List Exchange}
    (asks : ∀ exchange ∈ exchanges, exchange.request.source? = some cursor) :
    executions exchanges = [] := by
  refine List.filter_eq_nil_iff.mpr fun exchange member => ?_
  obtain ⟨request, answer⟩ := exchange
  have source := asks _ member
  cases request with
  | execute place sql parameters => exact nomatch source
  | _ => exact Bool.false_ne_true

end Exchange

namespace Statement

open Tabular.Action Exchange

variable {σ τ : Type}

/-- Rows that were fetched during a call come from the last attempt to execute the statement. It had
its text and its present parameters and succeeded, and none was made after the fetch. -/
structure Genuine (statement : Statement) (before during : List Exchange) (rows : List Row) : Prop where
  comes : ∃ earlier fetch later cursor result,
    during = earlier ++ fetch :: later ∧
    lastExecution (before ++ earlier) = some
      ⟨.execute cursor statement.sql (Database.driverParameters statement.parameters), .ok result⟩ ∧
    executions later = [] ∧
    fetch.request.source? = some cursor ∧ fetch.handed? = some rows

theorem lastExecution_execution (before opening : List Exchange) (cursor : Cursor) (sql : String)
    (parameters : Value) (answer : Except Outside RunResult) :
    lastExecution (before ++ (opening ++ execution cursor sql parameters answer)) =
      some ⟨.execute cursor sql (Database.driverParameters parameters), answer⟩ := by
  rw [lastExecution_append, lastExecution_append]
  rfl

/-- The cursor of a statement is the one of the last attempt to execute it, which had its present
parameters. Before the first attempt it has none. -/
structure Current (statement : Statement) (exchanges : List Exchange) : Prop where
  bare : statement.finalized = false → statement.cursor = none → executions exchanges = []
  holds : ∀ cursor, statement.cursor = some cursor → ∃ answer, lastExecution exchanges = some
    ⟨.execute cursor statement.sql (Database.driverParameters statement.parameters), answer⟩

namespace Current

variable {engine : Engine τ} {database : Database} {statement : Statement} {start : τ}
  {before : List Exchange}

/-- Exchanges without an attempt change nothing. -/
theorem silent (current : Current statement before) {during : List Exchange}
    (silent : executions during = []) : Current statement (before ++ during) := by
  refine ⟨fun live bare => ?_, fun cursor held => ?_⟩
  · rw [executions_append, current.bare live bare, silent, List.append_nil]
  · rw [lastExecution_silent _ silent]
    exact current.holds cursor held

theorem bound (current : Current statement before) {parameters : Value}
    {run : Run Statement τ RunResult} (bound : Bound engine database parameters statement start run) :
    Current run.state (before ++ run.exchanges) := by
  cases bound with
  | finalized ended => exact current.silent rfl
  | unconnected live bare closed =>
      refine ⟨fun _ _ => ?_, fun cursor held => nomatch bare.symm.trans held⟩
      rw [List.append_nil]
      exact current.bare live bare
  | executed live takes answered =>
      refine ⟨fun _ bare => (nomatch bare), fun _ held => ?_⟩
      cases held
      exact ⟨_, lastExecution_execution _ _ _ _ _ _⟩

theorem reached (current : Current statement before) {run : Run Statement τ Cursor}
    (reached : Reached engine database statement start run) :
    Current run.state (before ++ run.exchanges) := by
  cases reached with
  | held live holds => exact current.silent rfl
  | executed live bare opened answered =>
      refine ⟨fun _ bare => (nomatch bare), fun _ held => ?_⟩
      cases held
      exact ⟨_, lastExecution_execution _ [_] _ _ _ _⟩
  | finalized ended => exact current.silent rfl
  | unconnected live bare closed => exact current.silent rfl

theorem fetched {call : Call σ} {inner : σ} (current : Current statement before)
    {run : Run (Statement × σ) τ Answer}
    (fetched : Call.Fetched engine database call statement inner start run) :
    Current run.state.1 (before ++ run.exchanges) := by
  cases fetched with
  | refused reached fails => exact current.reached reached
  | taken reached reaches asks hands =>
      rw [← List.append_assoc]
      exact (current.reached reached).silent (executions_asking asks)

theorem finalized (current : Current statement before) {run : Run Statement τ Unit}
    (finalized : Finalized engine statement start run) :
    Current run.state (before ++ run.exchanges) := by
  cases finalized with
  | already ended => exact current.silent rfl
  | bare live bare => exact ⟨fun live => (nomatch live), fun _ held => nomatch bare.symm.trans held⟩
  | closed live held => exact ⟨fun live => (nomatch live), fun _ held => nomatch held⟩

theorem performed (current : Current statement before) (call : Call σ) (inner : σ) {run}
    (runs : (call.perform database).runOn engine (statement, inner) start = run) :
    Current run.state.1 (before ++ run.exchanges) := by
  subst runs
  cases call with
  | bind parameters =>
      rw [Call.perform, Call.runOn_besides]
      exact current.bound (bind_bound engine database statement start parameters)
  | finalize =>
      rw [Call.runOn_finalize]
      exact current.finalized (finalize_finalized engine statement start)
  | first | many | all | each =>
      exact current.fetched (Call.perform_fetched engine database statement start rfl inner)

end Current

/-- A prepared statement stays current through all calls. -/
theorem plays_current (engine : Engine τ) (database : Database) (sql : String) (parameters : Value)
    (calls : List (Call σ)) (inner : σ) (start : τ) {played}
    (plays : Action.plays engine (Call.perform database) calls
      (({ sql, parameters } : Statement), inner) start = played) :
    Current played.state.1 played.exchanges := by
  subst plays
  have prepared : Current { sql, parameters } [] := ⟨fun _ _ => rfl, fun _ held => nomatch held⟩
  refine plays_keep engine (Call.perform database)
    (fun turns state _ => Current state.1 (Turn.exchanges turns))
    (fun turns state start call current => ?_) calls _ start prepared
  rw [Turn.exchanges_append, Turn.exchanges_single]
  exact current.performed call state.2 rfl

/-- What is fetched after an execution that succeeded comes from it. -/
theorem Genuine.of_succeeded {statement : Statement} {before opening tail : List Exchange}
    {cursor : Cursor} {result : RunResult} {rows : List Row}
    (last : lastExecution (before ++ opening) = some
      ⟨.execute cursor statement.sql (Database.driverParameters statement.parameters), .ok result⟩)
    (asks : ∀ exchange ∈ tail, exchange.request.source? = some cursor) {fetch : Exchange}
    (member : fetch ∈ tail) (gives : fetch.handed? = some rows) :
    Genuine statement before (opening ++ tail) rows := by
  obtain ⟨earlier, later, split⟩ := List.append_of_mem member
  have silent : executions earlier = [] ∧ executions later = [] := by
    rw [split] at asks
    exact ⟨executions_asking fun exchange inside => asks exchange (by simp [inside]),
      executions_asking fun exchange inside => asks exchange (by simp [inside])⟩
  refine ⟨opening ++ earlier, fetch, later, cursor, result, ?_, ?_, silent.2, asks fetch member, gives⟩
  · rw [split, List.append_assoc]
  · rw [← List.append_assoc, lastExecution_silent _ silent.1, last]

/-- Without a new attempt, nothing comes from an execution that failed. -/
theorem Genuine.not_lastFailed {statement : Statement} {before during : List Exchange}
    {rows : List Row} (genuine : Genuine statement before during rows)
    (silent : executions during = []) : ¬ LastFailed before := by
  rintro ⟨cursor, sql, parameters, cause, failed⟩
  obtain ⟨earlier, fetch, later, source, result, split, last, -, -, -⟩ := genuine.comes
  rw [split, executions_append, List.append_eq_nil_iff] at silent
  rw [lastExecution_silent _ silent.1, failed] at last
  cases last

variable {engine : Engine τ} {database : Database}

/-- A fetch that returns hands out rows of the last attempt exactly where that attempt did not fail, and
it makes an attempt itself exactly where there was none. -/
theorem Call.Fetched.genuine_iff {call : Call σ} {statement : Statement} {inner : σ} {start : τ}
    {before : List Exchange} {run}
    (fetched : Call.Fetched engine database call statement inner start run)
    (current : Current statement before) {answer : Answer} (returns : run.outcome = .ok answer) :
    ((∃ rows, call.HandsOut inner answer run.state.2 rows ∧
        Genuine run.state.1 before run.exchanges rows) ↔ ¬ LastFailed before) ∧
      (executions run.exchanges = [] ↔ executions before ≠ []) := by
  cases fetched with
  | refused reached fails => exact nomatch returns
  | taken reached reaches asks hands =>
      obtain ⟨rows, fetch, member, gives, handsOut⟩ := hands answer returns
      have silent := executions_asking asks
      cases reached with
      -- The cursor is there, so that the rows are those of the last execution, if it did not fail.
      | held live holds =>
          cases reaches
          obtain ⟨attempt, last⟩ := current.holds _ holds
          refine ⟨⟨fun ⟨_, _, genuine⟩ => genuine.not_lastFailed silent, fun fine => ?_⟩,
            fun _ none => ?_, fun _ => silent⟩
          · cases attempt with
            | error cause => exact absurd ⟨_, _, _, cause, last⟩ fine
            | ok result =>
                exact ⟨rows, handsOut, .of_succeeded ((List.append_nil before).symm ▸ last) asks
                  member gives⟩
          · exact nomatch last.symm.trans (lastExecution_eq_none.mpr none)
      | @executed live bare connection opened cursor _ _ attempt answered =>
          have first := current.bare live bare
          have fine : ¬ LastFailed before := by
            rintro ⟨_, _, _, _, failed⟩
            exact nomatch failed.symm.trans (lastExecution_eq_none.mpr first)
          cases attempt with
          | error cause => exact nomatch reaches
          | ok result =>
              cases reaches
              have last := lastExecution_execution before [⟨.cursor connection, cursor⟩] cursor
                statement.sql statement.parameters (.ok result)
              refine ⟨⟨fun _ => fine, fun _ => ⟨rows, handsOut, .of_succeeded last asks member gives⟩⟩,
                fun none => ?_, fun some => absurd first some⟩
              exact nomatch none
      | finalized ended => exact nomatch reaches
      | unconnected live bare closed => exact nomatch reaches

/-- After any calls, whether or not they failed, a fetch that returns hands out rows of an execution
with the present parameters, the last one that was tried, exactly where that one did not fail. It
executes the statement itself exactly where that was not tried before, also after a failure. -/
theorem fetch_genuine_iff (engine : Engine τ) (database : Database) (sql : String)
    (parameters : Value) (calls : List (Call σ)) (inner : σ) (start : τ) {played}
    (plays : Action.plays engine (Call.perform database) calls
      (({ sql, parameters } : Statement), inner) start = played)
    {fetch : Call σ} (fetches : fetch.isFetch = true) {run}
    (runs : (fetch.perform database).runOn engine played.state played.final = run) {answer : Answer}
    (returns : run.outcome = .ok answer) :
    ((∃ rows, fetch.HandsOut played.state.2 answer run.state.2 rows ∧
        Genuine run.state.1 played.exchanges run.exchanges rows) ↔ ¬ LastFailed played.exchanges) ∧
      (executions run.exchanges = [] ↔ executions played.exchanges ≠ []) := by
  subst runs
  exact (Call.perform_fetched engine database played.state.1 played.final fetches
    played.state.2).genuine_iff (plays_current engine database sql parameters calls inner start plays)
    returns

/-! ## A query that finds the database locked -/

def taskDatabase : Database := { path := "tasks.db", settings := {}, connection := some ⟨0⟩ }

def taskSql : String := "SELECT a FROM t WHERE a = ?"

/-- One row is found for each execution. Some of them may be refused before that. -/
def taskScript (refusals : Nat) : Script :=
  { replies := List.replicate refusals { failure := some ⟨.operational, "database is locked"⟩ } ++
      [{ columns := ["a"], rows := [[.int 1]] }]
    transactions := [false] }

/-- The query is bound to a parameter. -/
def taskBound (refusals : Nat) : Played (Call Unit) (Statement × Unit) Script Answer :=
  plays Script.engine (Call.perform taskDatabase) [.bind (.tuple [.int 1])]
    ({ sql := taskSql }, ()) (taskScript refusals)

/-- The first row is asked for. -/
def taskFirst (refusals : Nat) : Run (Statement × Unit) Script Answer :=
  ((Call.first : Call Unit).perform taskDatabase).runOn Script.engine (taskBound refusals).state
    (taskBound refusals).final

theorem fetch_genuine_iff_task :
    (taskFirst 0).outcome = .ok (.row (some [(.text "a", .int 1)])) ∧
      ∃ rows, (Call.first : Call Unit).HandsOut () (.row (some [(.text "a", .int 1)])) () rows ∧
        Genuine (taskFirst 0).state.1 (taskBound 0).exchanges (taskFirst 0).exchanges rows := by
  have returns : (taskFirst 0).outcome = .ok (.row (some [(.text "a", .int 1)])) := rfl
  have fine : ¬ LastFailed (taskBound 0).exchanges := by
    rintro ⟨cursor, sql, parameters, cause, failed⟩
    exact nomatch failed
  exact ⟨returns, (fetch_genuine_iff Script.engine taskDatabase taskSql .null
    [.bind (.tuple [.int 1])] () (taskScript 0) rfl rfl rfl returns).1.mpr fine⟩

/-- After a refusal, the first row is asked for without an execution, although the next one would find
a row, and the missing row is taken for an answer. -/
theorem first_ofNoExecution :
    LastFailed (taskBound 1).exchanges ∧ (taskFirst 1).outcome = .ok (.row none) ∧
      executions (taskFirst 1).exchanges = [] ∧
      ∀ rows, ¬ Genuine (taskFirst 1).state.1 (taskBound 1).exchanges (taskFirst 1).exchanges rows :=
  have silent : executions (taskFirst 1).exchanges = [] := rfl
  have failed : LastFailed (taskBound 1).exchanges := ⟨_, _, _, _, rfl⟩
  ⟨failed, rfl, silent, fun _ genuine => genuine.not_lastFailed silent failed⟩

end Statement

end Tabular
