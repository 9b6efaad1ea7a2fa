import Tabular.Database
import Tabular.Proofs.Engine.Run

/-!
This module describes runs that execute planned statements one after another and stop at the first
failure.
-/

namespace Tabular

open Tabular.Action

variable {σ τ α β : Type}

/-- A quiet request executes nothing. -/
def Request.isQuiet : Request → Bool
  | .inTransaction _ | .cursor _ | .fetchOne _ | .fetchAll _ | .log _ | .time => true
  | _ => false

namespace Exchange

/-- The failure of a statement, or of the rows that are fetched from it. -/
def failure? : Exchange → Option Outside
  | ⟨.execute _ _ _, .error cause⟩ => some cause
  | ⟨.fetchOne _, .error cause⟩ => some cause
  | ⟨.fetchAll _, .error cause⟩ => some cause
  | _ => none

/-- The executed statement with its parameters. -/
def statement? : Exchange → Option (String × Value)
  | ⟨.execute _ sql parameters, _⟩ => some (sql, parameters)
  | _ => none

def statements (exchanges : List Exchange) : List (String × Value) :=
  exchanges.filterMap statement?

/-- The texts of the executed statements in their order. -/
def texts (exchanges : List Exchange) : List String := (statements exchanges).map Prod.fst

/-- The statements of two parts are those of the first, then those of the second. -/
theorem statements_append (first second : List Exchange) :
    statements (first ++ second) = statements first ++ statements second := by
  simp [statements]

/-- So are their texts. -/
theorem texts_append (first second : List Exchange) :
    texts (first ++ second) = texts first ++ texts second := by
  simp [texts, statements_append]

/-- The text of an exchange is one of the texts of its list. -/
theorem texts_of_mem {exchange : Exchange} {exchanges : List Exchange}
    (member : exchange ∈ exchanges) : texts [exchange] ⊆ texts exchanges :=
  (((List.singleton_sublist.mpr member).filterMap statement?).map Prod.fst).subset

/-- A quiet request executes no statement. -/
theorem statement?_quiet {exchange : Exchange} (quiet : exchange.request.isQuiet = true) :
    exchange.statement? = none := by
  obtain ⟨request, answer⟩ := exchange
  cases request <;> first | rfl | exact absurd quiet (by simp [Request.isQuiet])

/-- A quiet request adds no text. -/
theorem texts_quiet {exchange : Exchange} (quiet : exchange.request.isQuiet = true)
    (rest : List Exchange) : texts (exchange :: rest) = texts rest := by
  rw [texts, statements, List.filterMap_cons_none (statement?_quiet quiet)]
  rfl

/-- No exchange fails. -/
def Smooth (exchanges : List Exchange) : Prop := ∀ exchange ∈ exchanges, exchange.failure? = none

/-- Two parts without a refusal make one without a refusal. -/
theorem Smooth.append {first second : List Exchange} (smoothFirst : Smooth first)
    (smoothSecond : Smooth second) : Smooth (first ++ second) :=
  List.forall_mem_append.mpr ⟨smoothFirst, smoothSecond⟩

/-- No execution of this statement fails. -/
def Succeeds (sql : String) (exchanges : List Exchange) : Prop :=
  ∀ exchange ∈ exchanges, texts [exchange] = [sql] → exchange.failure? = none

/-- A text that succeeds in a list succeeds in every part of it. -/
theorem Succeeds.subset {sql : String} {first second : List Exchange}
    (succeeds : Succeeds sql second) (subset : first ⊆ second) : Succeeds sql first :=
  fun exchange member => succeeds exchange (subset member)

/-- Where nothing is refused, every text succeeds. -/
theorem Smooth.succeeds {exchanges : List Exchange} (smooth : Smooth exchanges) (sql : String) :
    Succeeds sql exchanges :=
  fun exchange member _ => smooth exchange member

/-- Every statement is executed on a cursor of the connection. -/
def Owned (connection : Connection) (exchanges : List Exchange) : Prop :=
  ∀ exchange ∈ exchanges, exchange.request.isQuiet = true ∨
    ∃ cursor sql parameters, exchange.request = .execute cursor sql parameters ∧
      ⟨.cursor connection, cursor⟩ ∈ exchanges

/-- Two parts on one connection are on this connection together. -/
theorem Owned.append {connection : Connection} {first second : List Exchange}
    (ownedFirst : Owned connection first) (ownedSecond : Owned connection second) :
    Owned connection (first ++ second) := by
  intro exchange member
  rcases List.mem_append.mp member with member | member
  · rcases ownedFirst exchange member with quiet | ⟨cursor, sql, parameters, same, given⟩
    · exact .inl quiet
    · exact .inr ⟨cursor, sql, parameters, same, List.mem_append_left _ given⟩
  · rcases ownedSecond exchange member with quiet | ⟨cursor, sql, parameters, same, given⟩
    · exact .inl quiet
    · exact .inr ⟨cursor, sql, parameters, same, List.mem_append_right _ given⟩

end Exchange

open Exchange

/-- A failure is raised with the statement that was executed last. -/
def Raises (exchanges : List Exchange) (cause : Outside) (failure : Failure) : Prop :=
  ∃ sql parameters,
    (statements exchanges).getLast? = some (sql, Database.driverParameters parameters) ∧
    failure = (Failure.outside cause).attach sql parameters

/-- A run that executed all planned statements. -/
structure Finished (planned : List String) (run : Run σ τ α) (value : α) : Prop where
  outcome : run.outcome = .ok value
  smooth : Smooth run.exchanges
  complete : texts run.exchanges = planned

/-- A run that ended with the failure of one of the planned statements. -/
structure Stopped (planned : List String) (run : Run σ τ α) (before : List Exchange)
    (failing : Exchange) (cause : Outside) (failure : Failure) : Prop where
  split : run.exchanges = before ++ [failing]
  smooth : Smooth before
  fails : failing.failure? = some cause
  outcome : run.outcome = .error failure
  raises : Raises run.exchanges cause failure
  inOrder : texts run.exchanges <+: planned

/-- A run that executes planned statements in order and stops at the first failure. -/
structure Straight (connection : Connection) (planned : List String) (run : Run σ τ α) : Prop where
  owned : Owned connection run.exchanges
  ends : (∃ value, Finished planned run value) ∨
    ∃ before failing cause failure, Stopped planned run before failing cause failure

/-- A refusal at the end of a run is raised, whatever went before. -/
theorem Raises.append {first second : List Exchange} {cause : Outside} {failure : Failure}
    (raises : Raises second cause failure) : Raises (first ++ second) cause failure := by
  obtain ⟨sql, parameters, last, same⟩ := raises
  refine ⟨sql, parameters, ?_, same⟩
  rw [statements_append, List.getLast?_append, last, Option.some_or]

/-- Straight runs one after the other are a straight run. -/
theorem Straight.follow {connection : Connection} {planned others : List String}
    {first : Run σ τ α} {next : α → σ → τ → Run σ τ β} (straight : Straight connection planned first)
    (rest : ∀ value, first.outcome = .ok value →
      Straight connection others (next value first.state first.final)) :
    Straight connection (planned ++ others) (first.follow next) := by
  rcases straight.ends with ⟨value, finished⟩ | ⟨before, failing, cause, failure, stopped⟩
  · have second := rest value finished.outcome
    have whole : first.follow next =
        { next value first.state first.final with
          exchanges := first.exchanges ++ (next value first.state first.final).exchanges } := by
      rw [Run.follow, finished.outcome]
    rw [whole]
    refine ⟨straight.owned.append second.owned, ?_⟩
    rcases second.ends with ⟨value, ended⟩ | ⟨before, failing, cause, failure, stopped⟩
    · exact .inl ⟨value, ended.outcome, finished.smooth.append ended.smooth, by
        rw [texts_append, finished.complete, ended.complete]⟩
    · refine .inr ⟨first.exchanges ++ before, failing, cause, failure, ?_⟩
      exact ⟨by rw [stopped.split, List.append_assoc], finished.smooth.append stopped.smooth,
        stopped.fails, stopped.outcome, stopped.raises.append, by
          rw [texts_append, finished.complete, List.prefix_append_right_inj]
          exact stopped.inOrder⟩
  · have whole : first.follow next =
        ⟨.error failure, first.state, first.final, first.exchanges⟩ := by
      rw [Run.follow, stopped.outcome]
    rw [whole]
    refine ⟨straight.owned, .inr ⟨before, failing, cause, failure, ?_⟩⟩
    exact ⟨stopped.split, stopped.smooth, stopped.fails, rfl, stopped.raises,
      stopped.inOrder.trans (List.prefix_append _ _)⟩

/-- A run over one planned statement executes it. -/
theorem Straight.single {connection : Connection} {sql : String} {run : Run σ τ α}
    (straight : Straight connection [sql] run) : texts run.exchanges = [sql] := by
  rcases straight.ends with ⟨value, finished⟩ | ⟨before, failing, cause, failure, stopped⟩
  · exact finished.complete
  · obtain ⟨text, parameters, last, -⟩ := stopped.raises
    have filled : texts run.exchanges ≠ [] := by
      intro empty
      rw [List.map_eq_nil_iff.mp empty] at last
      exact nomatch last
    rcases List.prefix_cons_iff.mp stopped.inOrder with empty | ⟨rest, split, inside⟩
    · exact absurd empty filled
    · rw [split, List.prefix_nil.mp inside]

/-! ## Straight actions -/

variable (engine : Engine τ) (state : σ) (start : τ) {connection : Connection}

/-- Two straight actions run the texts of the first, then those of the second. -/
theorem straight_bind {action : Action σ α} {next : α → Action σ β} {planned others : List String}
    (first : Straight connection planned (action.runOn engine state start))
    (rest : ∀ value, (action.runOn engine state start).outcome = .ok value →
      ∀ state start, Straight connection others ((next value).runOn engine state start)) :
    Straight connection (planned ++ others) ((action >>= next).runOn engine state start) := by
  rw [runOn_bind]
  exact first.follow fun value outcome => rest value outcome _ _

/-- Two actions that keep to a list of texts keep to it one after the other. -/
theorem texts_bind_subset {action : Action σ α} {next : α → Action σ β} {allowed : List String}
    (first : texts (action.runOn engine state start).exchanges ⊆ allowed)
    (rest : ∀ value state start, texts ((next value).runOn engine state start).exchanges ⊆ allowed) :
    texts ((action >>= next).runOn engine state start).exchanges ⊆ allowed := by
  rw [runOn_bind, Run.follow]
  split
  · next value _ =>
      rw [texts_append]
      exact List.append_subset.mpr ⟨first, rest value _ _⟩
  · exact first

/-- An action that only returns runs no text. -/
theorem straight_pure (value : α) :
    Straight connection [] ((pure value : Action σ α).runOn engine state start) :=
  ⟨by simp [Owned], .inl ⟨value, rfl, by simp [Smooth], rfl⟩⟩

/-- A log line is no text. -/
theorem straight_log (level : Level) (logger message : String) :
    Straight connection [] ((log level logger message : Action σ Unit).runOn engine state start) :=
  ⟨by simp [Owned, Request.isQuiet], .inl ⟨(), rfl, by simp [Smooth, failure?], rfl⟩⟩

namespace Database

variable {database : Database}

/-- The exchanges of a statement that is executed on a new cursor. -/
def executed (connection : Connection) (sql : String) (parameters : Value) (cursor : Cursor)
    (answer : Except Outside RunResult) : List Exchange :=
  [⟨.log ⟨.debug, logger, sql ++ " " ++ parameters.literal⟩, ()⟩, ⟨.cursor connection, cursor⟩,
    ⟨.execute cursor sql (driverParameters parameters), answer⟩]

/-- A statement is answered on a new cursor, after a record of it. -/
def Answered (engine : Engine τ) (connection : Connection) (sql : String) (parameters : Value)
    (start : τ) (cursor : Cursor) (answer : Except Outside RunResult) (final : τ) : Prop :=
  ∃ middle,
    engine.answer (.cursor connection) (engine.answer
      (.log ⟨.debug, logger, sql ++ " " ++ parameters.literal⟩) start).2 = (cursor, middle) ∧
    engine.answer (.execute cursor sql (driverParameters parameters)) middle = (answer, final)

/-- Executing a statement on an open database takes a cursor and asks once. A refusal is raised with the
statement attached. -/
theorem runOn_execute (opened : database.connection = some connection) (sql : String)
    (parameters : Value) :
    ∃ cursor answer final, Answered engine connection sql parameters start cursor answer final ∧
      (database.execute sql parameters).runOn engine state start =
        ⟨match answer with
          | .ok result => .ok (cursor, result)
          | .error cause => .error ((Failure.outside cause).attach sql parameters),
          state, final, executed connection sql parameters cursor answer⟩ := by
  simp only [execute, connected, opened, runOn_bind, runOn_log, Run.follow, runOn_pure,
    runOn_cursor, runOn_statement, attached]
  generalize logs : engine.answer (.log ⟨.debug, logger, sql ++ " " ++ parameters.literal⟩) start =
    logged
  generalize given : engine.answer (.cursor connection) logged.2 = fresh
  generalize answered : engine.answer (.execute fresh.1 sql (driverParameters parameters)) fresh.2 =
    reply
  obtain ⟨answer, final⟩ := reply
  refine ⟨fresh.1, answer, final, ⟨fresh.2, by rw [logs, given], answered⟩, ?_⟩
  cases answer <;> rfl

/-- The exchanges of an execution are on its connection. -/
theorem executed_owned {sql : String} {parameters : Value} {cursor : Cursor}
    {answer : Except Outside RunResult} :
    Owned connection (executed connection sql parameters cursor answer) := by
  simp [Owned, executed, Request.isQuiet]

/-- An execution that the engine accepts has no refusal. -/
theorem executed_smooth {sql : String} {parameters : Value} {cursor : Cursor} {result : RunResult} :
    Smooth (executed connection sql parameters cursor (.ok result)) := by
  simp [Smooth, executed, failure?]

/-- A refused statement ends a straight run at its text. -/
theorem straight_refused (sql : String) (parameters : Value) (cursor : Cursor) (cause : Outside)
    (state : σ) (final : τ) :
    Straight connection [sql] (⟨.error ((Failure.outside cause).attach sql parameters), state, final,
      executed connection sql parameters cursor (.error cause)⟩ : Run σ τ α) := by
  refine ⟨executed_owned, .inr ⟨[_, _], _, cause, _, rfl, ?_, rfl, rfl,
    ⟨sql, parameters, rfl, rfl⟩, List.prefix_rfl⟩⟩
  simp [Smooth, failure?]

/-- A statement that was executed is the whole of its run, whether or not it failed. -/
theorem straight_execute (opened : database.connection = some connection) (sql : String)
    (parameters : Value) :
    Straight connection [sql] ((database.execute sql parameters).runOn engine state start) := by
  obtain ⟨cursor, answer, final, -, whole⟩ :=
    runOn_execute engine state start opened sql parameters
  rw [whole]
  cases answer with
  | ok result => exact ⟨executed_owned, .inl ⟨_, rfl, executed_smooth, rfl⟩⟩
  | error cause => exact straight_refused sql parameters cursor cause state final

/-- Running a statement plans one text. -/
theorem straight_run (opened : database.connection = some connection) (sql : String)
    (parameters : Value) :
    Straight connection [sql] ((database.run sql parameters).runOn engine state start) := by
  rw [Database.run]
  exact straight_bind engine state start (straight_execute engine state start opened sql parameters)
    fun value _ state start => straight_pure engine state start _

/-- A statement that does not fail finishes its run. -/
theorem run_finished (opened : database.connection = some connection) (sql : String)
    (parameters : Value)
    (succeeds : Succeeds sql ((database.run sql parameters).runOn engine state start).exchanges) :
    ∃ value, Finished [sql] ((database.run sql parameters).runOn engine state start) value := by
  obtain ⟨cursor, answer, final, -, whole⟩ :=
    runOn_execute engine state start opened sql parameters
  rw [Database.run, runOn_bind, whole] at succeeds ⊢
  cases answer with
  | ok result => exact ⟨result, rfl, by simp [Smooth, executed, failure?, Run.follow], rfl⟩
  | error cause =>
      have fails := succeeds ⟨.execute cursor sql (driverParameters parameters), .error cause⟩
        (by simp [Run.follow, executed]) rfl
      cases fails

/-! An action that executes one statement and gives nothing. -/

/-- Running a statement without using its result makes the exchanges of one execution. -/
theorem alone_exchanges (opened : database.connection = some connection) (sql : String)
    (parameters : Value) :
    ∃ cursor answer, ((database.run sql parameters >>= fun _ =>
      (pure () : Action σ Unit)).runOn engine state start).exchanges =
        executed connection sql parameters cursor answer := by
  obtain ⟨cursor, answer, final, -, whole⟩ :=
    runOn_execute engine state start opened sql parameters
  refine ⟨cursor, answer, ?_⟩
  rw [Database.run, runOn_bind, runOn_bind, whole]
  cases answer <;> rfl

/-- It plans one text as well. -/
theorem straight_alone (opened : database.connection = some connection) (sql : String)
    (parameters : Value) :
    Straight connection [sql] ((database.run sql parameters >>= fun _ =>
      (pure () : Action σ Unit)).runOn engine state start) :=
  straight_bind engine state start (straight_run engine state start opened sql parameters)
    fun _ _ state start => straight_pure engine state start ()

/-- It finishes when its text succeeds. -/
theorem alone_finished (opened : database.connection = some connection) (sql : String)
    (parameters : Value) {run : Run σ τ Unit}
    (same : (database.run sql parameters >>= fun _ =>
      (pure () : Action σ Unit)).runOn engine state start = run)
    (succeeds : Succeeds sql run.exchanges) : Finished [sql] run () := by
  have subset : ((database.run sql parameters).runOn engine state start).exchanges ⊆
      run.exchanges := by
    rw [← same, runOn_bind, Run.follow]
    split
    · exact List.subset_append_left _ _
    · exact List.Subset.refl _
  obtain ⟨value, finished⟩ :=
    run_finished engine state start opened sql parameters (succeeds.subset subset)
  rw [← same, runOn_bind, Run.follow, finished.outcome]
  exact ⟨rfl, by simpa using finished.smooth, by simpa using finished.complete⟩

/-- An action that fetches from a cursor asks one quiet request. -/
structure Fetches (engine : Engine τ) (fetch : Cursor → Action σ (Except Outside α))
    (answer : Cursor → τ → Except Outside α × τ)
    (exchange : Cursor → Except Outside α → Exchange) : Prop where
  runs : ∀ cursor state start, (fetch cursor).runOn engine state start =
    ⟨.ok (answer cursor start).1, state, (answer cursor start).2,
      [exchange cursor (answer cursor start).1]⟩
  quiet : ∀ cursor found, (exchange cursor found).request.isQuiet = true
  succeeds : ∀ cursor value, (exchange cursor (.ok value)).failure? = none
  fails : ∀ cursor cause, (exchange cursor (.error cause)).failure? = some cause

/-- What was fetched comes from the cursor on which the statement was executed. -/
structure Fetched (engine : Engine τ) (connection : Connection) (sql : String) (parameters : Value)
    (answer : Cursor → τ → Except Outside α × τ) (exchange : Cursor → Except Outside α → Exchange)
    (exchanges : List Exchange) (cursor : Cursor) (value : α) : Prop where
  answered : ∃ middle result final,
    engine.answer (.execute cursor sql (driverParameters parameters)) middle = (.ok result, final) ∧
    (answer cursor final).1 = .ok value
  complete : ∃ result, exchanges =
    executed connection sql parameters cursor (.ok result) ++ [exchange cursor (.ok value)]

section Fetching

variable {fetch : Cursor → Action σ (Except Outside α)} {answer : Cursor → τ → Except Outside α × τ}
  {exchange : Cursor → Except Outside α → Exchange}
  (fetches : Fetches engine fetch answer exchange)

include fetches

/-- A fetch executes nothing more on the connection. -/
theorem fetched_silent (sql : String) (parameters : Value) (cursor : Cursor) (result : RunResult)
    (found : Except Outside α) :
    statements (executed connection sql parameters cursor (.ok result) ++ [exchange cursor found]) =
      [(sql, driverParameters parameters)] := by
  have none : statements [exchange cursor found] = [] :=
    List.filterMap_cons_none (statement?_quiet (fetches.quiet cursor found))
  rw [statements_append, none]
  rfl

/-- An execution and its fetch are on one connection. -/
theorem fetched_owned {sql : String} {parameters : Value} {cursor : Cursor} {result : RunResult}
    (found : Except Outside α) : Owned connection
      (executed connection sql parameters cursor (.ok result) ++ [exchange cursor found]) :=
  executed_owned.append (by simp [Owned, fetches.quiet])

/-- Executing a statement and fetching plans one text. What it returns is the answer to the fetch. -/
theorem straight_fetch (opened : database.connection = some connection) (sql : String)
    (parameters : Value) {run : Run σ τ α}
    (same : (database.execute sql parameters >>= fun executed =>
      fetch executed.1 >>= attached sql parameters).runOn engine state start = run) :
    Straight connection [sql] run ∧ ∀ value, run.outcome = .ok value → ∃ cursor,
      Fetched engine connection sql parameters answer exchange run.exchanges cursor value := by
  obtain ⟨cursor, reply, final, ⟨middle, -, executes⟩, whole⟩ :=
    runOn_execute engine state start opened sql parameters
  rw [runOn_bind, whole] at same
  cases reply with
  | error cause =>
      subst same
      refine ⟨straight_refused sql parameters cursor cause state final, fun value outcome => ?_⟩
      cases outcome
  | ok result =>
      simp only [Run.follow, runOn_bind, fetches.runs] at same
      cases found : (answer cursor final).1 with
      | ok value =>
          obtain rfl : run = ⟨.ok value, state, (answer cursor final).2,
              executed connection sql parameters cursor (.ok result) ++
                [exchange cursor (.ok value)]⟩ := by
            rw [← same, found]
            rfl
          refine ⟨⟨fetched_owned engine fetches _, .inl ⟨value, rfl, ?_, ?_⟩⟩, ?_⟩
          · exact executed_smooth.append (by simp [Smooth, fetches.succeeds])
          · rw [texts, fetched_silent engine fetches]
            rfl
          · intro other outcome
            obtain rfl := Except.ok.inj outcome
            exact ⟨cursor, ⟨middle, result, final, executes, found⟩, result, rfl⟩
      | error cause =>
          obtain rfl : run = ⟨.error ((Failure.outside cause).attach sql parameters), state,
              (answer cursor final).2, executed connection sql parameters cursor (.ok result) ++
                [exchange cursor (.error cause)]⟩ := by
            rw [← same, found]
            rfl
          refine ⟨⟨fetched_owned engine fetches _, .inr ⟨_, _, cause, _, rfl, executed_smooth,
            fetches.fails _ _, rfl, ?_, ?_⟩⟩, fun value outcome => ?_⟩
          · exact ⟨sql, parameters, by rw [fetched_silent engine fetches]; rfl, rfl⟩
          · rw [texts, fetched_silent engine fetches]
            exact List.prefix_rfl
          · cases outcome

end Fetching

/-- Fetching all rows is a fetch. -/
theorem fetches_all : Fetches (σ := σ) engine (fun cursor => ask (.fetchAll cursor))
    (fun cursor => engine.answer (.fetchAll cursor)) (fun cursor found => ⟨.fetchAll cursor, found⟩) :=
  ⟨fun _ _ _ => rfl, fun _ _ => rfl, fun _ _ => rfl, fun _ _ => rfl⟩

/-- Fetching the first row is a fetch. -/
theorem fetches_first : Fetches (σ := σ) engine (fun cursor => ask (.fetchOne cursor))
    (fun cursor => engine.answer (.fetchOne cursor)) (fun cursor found => ⟨.fetchOne cursor, found⟩) :=
  ⟨fun _ _ _ => rfl, fun _ _ => rfl, fun _ _ => rfl, fun _ _ => rfl⟩

end Database

end Tabular
