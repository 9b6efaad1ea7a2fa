import Tabular.Proofs.Engine.Cursors
import Tabular.Proofs.Engine.Turns
import Tabular.Statement

/-!
This module tells what a prepared statement asks of the engine. It is executed on its cursor, which it
gets when it is first bound, and a fetch executes it only where it has no cursor yet.
-/

namespace Tabular

/-- The rows that the engine gave to a fetch that did not fail. -/
def Exchange.handed? : Exchange → Option (List Row)
  | ⟨.fetchOne _, .ok found⟩ => some found.toList
  | ⟨.fetchMany _ _, .ok found⟩ => some found
  | ⟨.fetchAll _, .ok found⟩ => some found
  | ⟨.rows _, (found, none)⟩ => some found
  | _ => none

namespace Statement

open Tabular.Action

variable {σ τ α : Type}

/-- The exchanges of an execution on a cursor. -/
def execution (cursor : Cursor) (sql : String) (parameters : Value)
    (answer : Except Outside RunResult) : List Exchange :=
  [⟨.log ⟨.debug, logger, sql ++ " " ++ parameters.literal⟩, ()⟩,
    ⟨.execute cursor sql (Database.driverParameters parameters), answer⟩]

/-- A statement keeps its cursor. Where it has none, it gets one from the connection. -/
inductive Takes (database : Database) : Option Cursor → List Exchange → Cursor → Prop where
  | held (cursor : Cursor) : Takes database (some cursor) [] cursor
  | given (connection : Connection) (cursor : Cursor)
      (opened : database.connection = some connection) :
      Takes database none [⟨.cursor connection, cursor⟩] cursor

/-- This function attaches a statement to the answer of a driver, if it is a failure. -/
def raised (sql : String) (parameters : Value) : Except Outside α → Except Failure α
  | .ok result => .ok result
  | .error cause => .error ((Failure.outside cause).attach sql parameters)

theorem runOn_attached (engine : Engine τ) (sql : String) (parameters : Value)
    (answer : Except Outside α) (state : σ) (start : τ) :
    (attached sql parameters answer).runOn engine state start =
      ⟨raised sql parameters answer, state, start, []⟩ := by
  cases answer <;> rfl

/-- The outcome of giving rows to a callback. Its own failure counts before the one at which the rows
end. -/
def eachOutcome : Nat × Option Failure → Option Outside → Except Failure Nat
  | (_, some failure), _ => .error failure
  | (_, none), some cause => .error (.outside cause)
  | (count, none), none => .ok count

theorem runOn_eachRow (engine : Engine τ) {cursor : Cursor} {callback : Callback σ} {state last : σ}
    {start after : τ} {found : List Row} {ending : Option Outside} {counted : Nat × Option Failure}
    (seen : engine.answer (.rows cursor) start = ((found, ending), after))
    (fed : feed callback found state = (counted, last)) :
    (eachRow cursor callback).runOn engine state start =
      ⟨eachOutcome counted ending, last, (engine.answer (.advance cursor counted.1) after).2,
        [⟨.rows cursor, (found, ending)⟩, ⟨.advance cursor counted.1, ()⟩]⟩ := by
  simp only [eachRow, runOn_bind, runOn_rows, runOn_modifyGet, runOn_advance, Run.follow, seen, fed]
  obtain ⟨count, failure⟩ := counted
  cases failure <;> cases ending <;> rfl

theorem runOn_attaching (engine : Engine τ) (sql : String) (parameters : Value)
    (action : Action σ α) (state : σ) (start : τ) :
    (attaching sql parameters action).runOn engine state start =
      let run := action.runOn engine state start
      { run with outcome := run.outcome.mapError (Failure.attach sql parameters) } := by
  simp only [attaching, runOn_bind, runOn_attempt, Run.follow]
  generalize action.runOn engine state start = run
  obtain ⟨outcome, after, final, exchanges⟩ := run
  cases outcome <;> simp [Except.mapError]

/-! ## Binding -/

/-- What comes of a statement that is bound to parameters. -/
inductive Bound (engine : Engine τ) (database : Database) (parameters : Value)
    (statement : Statement) (start : τ) : Run Statement τ RunResult → Prop where
  | finalized (ended : statement.finalized = true) :
      Bound engine database parameters statement start
        ⟨.error (.engine "Statement is finalized" statement.sql statement.parameters), statement,
          start, []⟩
  | unconnected (live : statement.finalized = false) (bare : statement.cursor = none)
      (closed : database.connection = none) :
      Bound engine database parameters statement start
        ⟨.error (.engine "Database is not open" database.openText .null),
          { statement with parameters }, start, []⟩
  | executed (live : statement.finalized = false) {opening : List Exchange} {cursor : Cursor}
      (takes : Takes database statement.cursor opening cursor) {before final : τ}
      {answer : Except Outside RunResult}
      (answered : engine.answer
        (.execute cursor statement.sql (Database.driverParameters parameters)) before =
          (answer, final)) :
      Bound engine database parameters statement start
        ⟨raised statement.sql parameters answer,
          { statement with parameters, cursor := some cursor }, final,
          opening ++ execution cursor statement.sql parameters answer⟩

variable (engine : Engine τ) (database : Database) (statement : Statement) (start : τ)

theorem bind_bound (parameters : Value) :
    Bound engine database parameters statement start
      ((bind database parameters).runOn engine statement start) := by
  obtain ⟨sql, old, held, finalized⟩ := statement
  cases finalized with
  | true => exact .finalized rfl
  | false =>
      cases held with
      | some cursor =>
          simp only [bind, checkOpen, theCursor, runOn_bind, Run.follow, runOn_get, runOn_modify,
            Bool.false_eq_true, if_false, runOn_pure, runOn_log, runOn_statement, runOn_attached]
          exact .executed rfl (.held cursor) rfl
      | none =>
          cases opened : database.connection with
          | none =>
              simp only [bind, checkOpen, theCursor, Database.connected, opened, runOn_bind,
                Run.follow, runOn_get, runOn_modify, Bool.false_eq_true, if_false, runOn_pure,
                runOn_throw]
              exact .unconnected rfl rfl opened
          | some connection =>
              simp only [bind, checkOpen, theCursor, Database.connected, opened, runOn_bind,
                Run.follow, runOn_get, runOn_modify, Bool.false_eq_true, if_false, runOn_pure,
                runOn_cursor, runOn_log, runOn_statement, runOn_attached]
              exact .executed rfl (.given connection _ opened) rfl

/-! ## Fetching -/

/-- What comes of asking for the cursor of a statement. It is executed where it has none. -/
inductive Reached (engine : Engine τ) (database : Database) (statement : Statement) (start : τ) :
    Run Statement τ Cursor → Prop where
  | held (live : statement.finalized = false) {cursor : Cursor}
      (holds : statement.cursor = some cursor) :
      Reached engine database statement start ⟨.ok cursor, statement, start, []⟩
  | executed (live : statement.finalized = false) (bare : statement.cursor = none)
      {connection : Connection} (opened : database.connection = some connection) {cursor : Cursor}
      {before final : τ} {answer : Except Outside RunResult}
      (answered : engine.answer (.execute cursor statement.sql
        (Database.driverParameters statement.parameters)) before = (answer, final)) :
      Reached engine database statement start
        ⟨(raised statement.sql statement.parameters answer).map fun _ => cursor,
          { statement with cursor := some cursor }, final,
          ⟨.cursor connection, cursor⟩ ::
            execution cursor statement.sql statement.parameters answer⟩
  | finalized (ended : statement.finalized = true) :
      Reached engine database statement start
        ⟨.error (.engine "Statement is finalized" statement.sql statement.parameters), statement,
          start, []⟩
  | unconnected (live : statement.finalized = false) (bare : statement.cursor = none)
      (closed : database.connection = none) :
      Reached engine database statement start
        ⟨.error (.engine "Database is not open" database.openText .null), statement, start, []⟩

theorem executed_reached :
    Reached engine database statement start
      ((executed database).runOn engine statement start) := by
  obtain ⟨sql, parameters, held, finalized⟩ := statement
  cases finalized with
  | true => exact .finalized rfl
  | false =>
      cases held with
      | some cursor => exact .held rfl rfl
      | none =>
          have bound := bind_bound engine database ⟨sql, parameters, none, false⟩ start parameters
          simp only [executed, checkOpen, runOn_bind, Run.follow, runOn_get, Bool.false_eq_true,
            if_false, runOn_pure]
          generalize (bind database parameters).runOn engine ⟨sql, parameters, none, false⟩ start =
            run at bound
          cases bound with
          | finalized ended => cases ended
          | unconnected live bare closed => exact .unconnected rfl rfl closed
          | @executed live opening cursor takes before final answer answered =>
              cases takes with
              | given connection cursor opened =>
                  have reached : Reached engine database ⟨sql, parameters, none, false⟩ start _ :=
                    .executed rfl rfl opened answered
                  cases answer with
                  | ok result => exact reached
                  | error cause => exact reached

/-! ## Finalizing -/

/-- What comes of a statement that is finalized. Its cursor is closed if it has one. -/
inductive Finalized (engine : Engine τ) (statement : Statement) (start : τ) :
    Run Statement τ Unit → Prop where
  | already (ended : statement.finalized = true) :
      Finalized engine statement start ⟨.ok (), statement, start, []⟩
  | bare (live : statement.finalized = false) (none : statement.cursor = none) :
      Finalized engine statement start ⟨.ok (), { statement with finalized := true }, start, []⟩
  | closed (live : statement.finalized = false) {cursor : Cursor}
      (holds : statement.cursor = some cursor) {final : τ} :
      Finalized engine statement start
        ⟨.ok (), { statement with finalized := true, cursor := none }, final,
          [⟨.closeCursor cursor, ()⟩]⟩

theorem finalize_finalized :
    Finalized engine statement start (finalize.runOn engine statement start) := by
  obtain ⟨sql, parameters, held, finalized⟩ := statement
  cases finalized with
  | true => exact .already rfl
  | false =>
      cases held with
      | none => exact .bare rfl rfl
      | some cursor => exact .closed rfl rfl

variable {engine statement start} in
theorem Finalized.returns {run : Run Statement τ Unit}
    (finalized : Finalized engine statement start run) : run.outcome = .ok () := by
  cases finalized <;> rfl

variable {engine statement start} in
theorem Finalized.ends {run : Run Statement τ Unit}
    (finalized : Finalized engine statement start run) : run.state.finalized = true := by
  cases finalized with
  | already ended => exact ended
  | bare | closed => rfl

/-! ## Calls -/

/-- A call on a prepared statement, beside the state of callbacks, which do not call the statement
themselves. To run a statement is to bind it and to take what comes of its execution. -/
inductive Call (σ : Type) where
  | bind (parameters : Value)
  | first
  | many (count : Int)
  | all
  | each (callback : Callback σ)
  | finalize

/-- What a call returns. -/
inductive Answer where
  | ran (result : RunResult)
  | row (found : Option Row)
  | rows (found : List Row)
  | count (number : Nat)
  | released

namespace Call

def besides (action : Action Statement α) : Action (Statement × σ) α :=
  onPart Prod.fst (fun state statement => (statement, state.2)) action

/-- This action makes a call. -/
def perform (database : Database) : Call σ → Action (Statement × σ) Answer
  | .bind parameters => do pure (.ran (← besides (Statement.bind database parameters)))
  | .first => do pure (.row (← besides (Statement.first database)))
  | .many count => do pure (.rows (← besides (Statement.many database count)))
  | .all => do pure (.rows (← besides (Statement.all database)))
  | .each callback => do pure (.count (← Statement.each database callback))
  | .finalize => do
      besides Statement.finalize
      pure .released

theorem runOn_besides {β : Type} (wrap : β → Answer) (action : Action Statement β) (inner : σ) :
    (do pure (wrap (← besides action)) : Action (Statement × σ) Answer).runOn engine
        (statement, inner) start =
      let run := action.runOn engine statement start
      ⟨run.outcome.map wrap, (run.state, inner), run.final, run.exchanges⟩ := by
  rw [runOn_wrap, besides, runOn_onPart]

theorem runOn_finalize (inner : σ) :
    (Call.finalize.perform database).runOn engine (statement, inner) start =
      let run := Statement.finalize.runOn engine statement start
      ⟨.ok .released, (run.state, inner), run.final, run.exchanges⟩ := by
  have released := runOn_besides engine statement start (fun _ => Answer.released) Statement.finalize
    inner
  simp only [(finalize_finalized engine statement start).returns, Except.map] at released
  exact released

/-- These calls hand out rows. -/
def isFetch : Call σ → Bool
  | .first | .many _ | .all | .each _ => true
  | .bind _ | .finalize => false

/-- The rows that a call hands out: those it returns, or those that its callback has seen. -/
def HandsOut (call : Call σ) (inner : σ) (answer : Answer) (after : σ) (rows : List Row) : Prop :=
  match call, answer with
  | .first, .row found => rows = found.toList ∧ after = inner
  | .many _, .rows found => rows = found ∧ after = inner
  | .all, .rows found => rows = found ∧ after = inner
  | .each callback, .count number => feed callback rows inner = ((number, none), after)
  | _, _ => False

/-- What comes of a call that hands out rows. It asks for the cursor and then only for its rows. -/
inductive Fetched (engine : Engine τ) (database : Database) (call : Call σ) (statement : Statement)
    (inner : σ) (start : τ) : Run (Statement × σ) τ Answer → Prop where
  | refused {run : Run Statement τ Cursor} (reached : Reached engine database statement start run)
      {failure : Failure} (fails : run.outcome = .error failure) :
      Fetched engine database call statement inner start
        ⟨.error failure, (run.state, inner), run.final, run.exchanges⟩
  | taken {run : Run Statement τ Cursor} (reached : Reached engine database statement start run)
      {cursor : Cursor} (reaches : run.outcome = .ok cursor) {outcome : Except Failure Answer}
      {after : σ} {final : τ} {tail : List Exchange}
      (asks : ∀ exchange ∈ tail, exchange.request.source? = some cursor)
      (hands : ∀ answer, outcome = .ok answer → ∃ rows, ∃ fetch ∈ tail,
        fetch.handed? = some rows ∧ call.HandsOut inner answer after rows) :
      Fetched engine database call statement inner start
        ⟨outcome, (run.state, after), final, run.exchanges ++ tail⟩

variable {engine database statement start} in
/-- A call that asks for its rows once. -/
theorem Fetched.single {call : Call σ} {inner : σ} {run : Run Statement τ Cursor}
    (reached : Reached engine database statement start run) {cursor : Cursor}
    (reaches : run.outcome = .ok cursor) {exchange : Exchange}
    (asks : exchange.request.source? = some cursor) {outcome : Except Failure Answer} {final : τ}
    (hands : ∀ answer, outcome = .ok answer →
      ∃ rows, exchange.handed? = some rows ∧ call.HandsOut inner answer inner rows) :
    Fetched engine database call statement inner start
      ⟨outcome, (run.state, inner), final, run.exchanges ++ [exchange]⟩ := by
  refine .taken reached reaches (by simpa using asks) fun answer done => ?_
  obtain ⟨rows, gives, handsOut⟩ := hands answer done
  exact ⟨rows, exchange, List.mem_singleton_self _, gives, handsOut⟩

/-- A call that asks for its rows once and takes the answer. -/
theorem fetched_once {β : Type} {call : Call σ} {inner : σ}
    (asks : Cursor → Action Statement (Except Outside β)) (wrap : β → Answer)
    (exchange : Cursor → Except Outside β → Exchange)
    (answers : ∀ cursor statement start, ∃ answer final,
      (asks cursor).runOn engine statement start =
        ⟨.ok answer, statement, final, [exchange cursor answer]⟩)
    (asksFor : ∀ cursor answer, (exchange cursor answer).request.source? = some cursor)
    (hands : ∀ cursor found, ∃ rows, (exchange cursor (.ok found)).handed? = some rows ∧
      call.HandsOut inner (wrap found) inner rows) :
    Fetched engine database call statement inner start
      ((do pure (wrap (← besides (do
        let cursor ← executed database
        fetched (← asks cursor)))) : Action (Statement × σ) Answer).runOn engine
          (statement, inner) start) := by
  have reached := executed_reached engine database statement start
  rw [runOn_besides]
  simp only [fetched, runOn_bind, Run.follow]
  generalize (executed database).runOn engine statement start = run at reached
  cases ended : run.outcome with
  | error failure => exact .refused reached ended
  | ok cursor =>
      obtain ⟨answer, final, asked⟩ := answers cursor run.state run.final
      simp only [asked, runOn_get, runOn_attached, List.append_nil]
      cases answer with
      | error cause => exact .single reached ended (asksFor _ _) fun _ done => by cases done
      | ok found =>
          refine .single reached ended (asksFor _ _) fun _ done => ?_
          cases done
          exact hands cursor found

theorem perform_fetched {call : Call σ} (fetches : call.isFetch = true) (inner : σ) :
    Fetched engine database call statement inner start
      ((call.perform database).runOn engine (statement, inner) start) := by
  cases call with
  | bind parameters => cases fetches
  | finalize => cases fetches
  | first =>
      exact fetched_once engine database statement start (fun cursor => ask (.fetchOne cursor)) .row
        (fun cursor answer => ⟨.fetchOne cursor, answer⟩) (fun _ _ _ => ⟨_, _, rfl⟩)
        (fun _ _ => rfl) fun _ _ => ⟨_, rfl, rfl, rfl⟩
  | many count =>
      exact fetched_once engine database statement start (fun cursor => ask (.fetchMany cursor count))
        .rows (fun cursor answer => ⟨.fetchMany cursor count, answer⟩) (fun _ _ _ => ⟨_, _, rfl⟩)
        (fun _ _ => rfl) fun _ _ => ⟨_, rfl, rfl, rfl⟩
  | all =>
      exact fetched_once engine database statement start (fun cursor => ask (.fetchAll cursor)) .rows
        (fun cursor answer => ⟨.fetchAll cursor, answer⟩) (fun _ _ _ => ⟨_, _, rfl⟩)
        (fun _ _ => rfl) fun _ _ => ⟨_, rfl, rfl, rfl⟩
  | each callback =>
      have reached := executed_reached engine database statement start
      simp only [perform, Statement.each, runOn_bind, runOn_onPart, Run.follow]
      generalize (executed database).runOn engine statement start = run at reached
      cases ended : run.outcome with
      | error failure => exact .refused reached ended
      | ok cursor =>
          obtain ⟨⟨found, ending⟩, middle, seen⟩ : ∃ told middle,
              engine.answer (.rows cursor) run.final = (told, middle) := ⟨_, _, rfl⟩
          obtain ⟨⟨count, failure⟩, after, fed⟩ : ∃ counted after,
              feed callback found inner = (counted, after) := ⟨_, _, rfl⟩
          simp only [runOn_get, runOn_attaching, runOn_onPart, runOn_eachRow engine seen fed]
          have asks : ∀ exchange ∈ [⟨.rows cursor, (found, ending)⟩, ⟨.advance cursor count, ()⟩],
              Request.source? (Exchange.request exchange) = some cursor := by
            simp [Request.source?]
          cases failure with
          | some failure => exact .taken reached ended asks fun _ done => by cases done
          | none =>
              cases ending with
              | some cause => exact .taken reached ended asks fun _ done => by cases done
              | none =>
                  simp only [eachOutcome, Except.mapError, runOn_pure, List.nil_append,
                    List.append_nil]
                  refine .taken reached ended asks fun _ done => ?_
                  cases done
                  exact ⟨found, _, List.mem_cons_self, rfl, fed⟩

end Call

end Statement

end Tabular
