import Tabular.Proofs.Engine.Enclosing
import Tabular.Proofs.Statement.Execution
import Tabular.Stream.Write

/-!
This module tells what a stream executes when it writes its batch. It executes its statement with the
waiting rows one after another inside one transaction, as far as no request fails.
-/

namespace Tabular

namespace Exchange

/-- The parameters of all executions of a statement. -/
def rowsOf (sql : String) (exchanges : List Exchange) : List Value :=
  (statements exchanges).filterMap fun executed =>
    if executed.1 = sql then some executed.2 else none

/-- The rows of two parts are those of the first, then those of the second. -/
theorem rowsOf_append (sql : String) (first second : List Exchange) :
    rowsOf sql (first ++ second) = rowsOf sql first ++ rowsOf sql second := by
  rw [rowsOf, statements_append, List.filterMap_append, rowsOf, rowsOf]

/-- A part that executes other texts has no rows of a statement. -/
theorem rowsOf_outside {sql : String} {exchanges : List Exchange} {allowed : List String}
    (outside : texts exchanges ⊆ allowed) (apart : sql ∉ allowed) : rowsOf sql exchanges = [] := by
  refine List.filterMap_eq_nil_iff.mpr fun executed member => if_neg ?_
  rintro rfl
  exact apart (outside (List.mem_map_of_mem member))

/-- A part that executes a statement for some rows has these rows. -/
theorem rowsOf_statements {sql : String} {exchanges : List Exchange} {rows : List Value}
    (same : statements exchanges = rows.map fun row => (sql, row)) : rowsOf sql exchanges = rows := by
  rw [rowsOf, same, List.filterMap_map]
  simp

end Exchange

open Exchange

namespace Statement

variable {database : Database} {held : Option Cursor} {opening : List Exchange} {cursor : Cursor}

/-- Taking a cursor executes nothing. -/
theorem Takes.statements (takes : Takes database held opening cursor) : statements opening = [] := by
  cases takes <;> rfl

/-- Nothing is refused while a statement takes its cursor. -/
theorem Takes.smooth (takes : Takes database held opening cursor) : Smooth opening := by
  cases takes <;> simp [Smooth, failure?]

end Statement

namespace WriteStream

open Tabular.Action Database

variable {τ : Type}

/-- Rows were inserted one after another, all of them unless the run failed. -/
structure Inserted (sql : String) (rows : List Value) (stream : WriteStream)
    (run : Run WriteStream τ Unit) : Prop where
  keeps : ∃ statement : Statement, statement.sql = sql ∧ statement.finalized = false ∧
    run.state = { stream with statement := some statement }
  ends : run.outcome = .ok () ∧ Smooth run.exchanges ∧
      statements run.exchanges = (rows.map fun row => (sql, row)) ∨
    (∃ failure, run.outcome = .error failure) ∧
      statements run.exchanges <+: rows.map fun row => (sql, row)

variable (engine : Engine τ) (database : Database) {stream : WriteStream} {statement : Statement}
  (start : τ)

/-- Writing one row is binding it to the statement of the stream. -/
theorem runOn_runStatement (holds : stream.statement = some statement) (row : Value) {run}
    (runs : (Statement.bind database row).runOn engine statement start = run) :
    (runStatement database row).runOn engine stream start =
      ⟨run.outcome.map fun _ => (), { stream with statement := some run.state }, run.final,
        run.exchanges⟩ := by
  simp only [runStatement, runOn_bind, runOn_get, Run.follow, holds, runOn_onPart, List.nil_append,
    runs]
  obtain ⟨outcome, after, final, exchanges⟩ := run
  cases outcome <;> simp [Except.map]

/-- Writing one row inserts it, unless the run fails. -/
theorem runStatement_inserted (holds : stream.statement = some statement)
    (live : statement.finalized = false) {row : Value} (given : row.isNull = false) :
    Inserted statement.sql [row] stream ((runStatement database row).runOn engine stream start) := by
  have bound := Statement.bind_bound engine database statement start row
  rw [runOn_runStatement engine database start holds row rfl]
  generalize (Statement.bind database row).runOn engine statement start = run at bound
  cases bound with
  | finalized ended => exact nomatch live.symm.trans ended
  | unconnected live bare closed =>
      exact ⟨⟨{ statement with parameters := row }, rfl, live, rfl⟩, .inr ⟨⟨_, rfl⟩, List.nil_prefix⟩⟩
  | @executed live opening cursor takes before final answer answered =>
      have same : driverParameters row = row := if_neg (by simp [given])
      have alone : statements (opening ++ Statement.execution cursor statement.sql row answer) =
          [(statement.sql, row)] := by
        rw [statements_append, takes.statements, List.nil_append]
        exact congrArg (fun parameters => [(statement.sql, parameters)]) same
      refine ⟨⟨{ statement with parameters := row, cursor := some cursor }, rfl, live, rfl⟩, ?_⟩
      cases answer with
      | ok result =>
          refine .inl ⟨rfl, takes.smooth.append ?_, alone⟩
          simp [Smooth, failure?, Statement.execution]
      | error cause => exact .inr ⟨⟨_, rfl⟩, alone ▸ List.prefix_rfl⟩

/-- Writing rows inserts them one after the other, up to the first failure. -/
theorem runAll_inserted (holds : stream.statement = some statement)
    (live : statement.finalized = false) {rows : List Value}
    (given : ∀ row ∈ rows, row.isNull = false) :
    Inserted statement.sql rows stream ((runAll database rows).runOn engine stream start) := by
  induction rows generalizing stream statement start with
  | nil =>
      refine ⟨⟨statement, rfl, live, ?_⟩, .inl ⟨rfl, by simp [runAll, Smooth], rfl⟩⟩
      rw [← holds]
      rfl
  | cons row rest inductionHypothesis =>
      obtain ⟨here, others⟩ := List.forall_mem_cons.mp given
      have first := runStatement_inserted engine database start holds live here
      rw [runAll, runOn_bind]
      generalize (runStatement database row).runOn engine stream start = run at first
      obtain ⟨⟨after, same, stays, keeps⟩, ends⟩ := first
      rcases ends with ⟨returns, smooth, complete⟩ | ⟨⟨failure, fails⟩, inOrder⟩
      · have kept : run.state.statement = some after := by rw [keeps]
        have second := inductionHypothesis run.final kept stays others
        simp only [Run.follow, returns]
        generalize (runAll database rest).runOn engine run.state run.final = last at second ⊢
        obtain ⟨⟨final, kept, remains, ends⟩, second⟩ := second
        refine ⟨⟨final, kept.trans same, remains, ends.trans (by rw [keeps])⟩, ?_⟩
        rw [same] at second
        rcases second with ⟨done, fine, rows⟩ | ⟨fails, inOrder⟩
        · refine .inl ⟨done, smooth.append fine, ?_⟩
          rw [statements_append, complete, rows]
          rfl
        · refine .inr ⟨fails, ?_⟩
          rw [statements_append, complete]
          exact (List.prefix_append_right_inj _).mpr inOrder
      · simp only [Run.follow, fails]
        exact ⟨⟨after, same, stays, keeps⟩, .inr ⟨⟨failure, rfl⟩,
          inOrder.trans (List.prefix_append [_] _)⟩⟩

/-! ## Writing a batch -/

/-- The statements that write rows in one transaction. Where one is open already, it encloses them. -/
def batchStatements (joined : Bool) (sql : String) (rows : List Value) : List (String × Value) :=
  if joined then rows.map fun row => (sql, row)
  else (beginText, .tuple []) :: (rows.map fun row => (sql, row)) ++ [(commitText, .tuple [])]

/-- The texts of the statements that begin and end a transaction. -/
def controlTexts : List String := [beginText, commitText, rollbackText]

/-- The first of the rows were executed in their order, and nothing else beside the bounds of a
transaction. -/
structure Attempted (sql : String) (rows : List Value) (exchanges : List Exchange) : Prop where
  inOrder : rowsOf sql exchanges <+: rows
  others : texts exchanges ⊆ sql :: controlTexts

/-- All rows were written in one transaction, and no request failed. -/
structure Written (database : Database) (sql : String) (rows : List Value)
    (exchanges : List Exchange) : Prop where
  smooth : Smooth exchanges
  enclosed : ∃ connection joined rest, database.connection = some connection ∧
    exchanges = ⟨.inTransaction connection, joined⟩ :: rest ∧
    statements exchanges = batchStatements joined sql rows

/-- A log line at the end leaves a batch written. -/
theorem Written.logged {database : Database} {sql : String} {rows : List Value}
    {exchanges : List Exchange} (written : Written database sql rows exchanges) (entry : LogRecord) :
    Written database sql rows (exchanges ++ [⟨.log entry, ()⟩]) := by
  obtain ⟨smooth, connection, joined, rest, opened, rfl, complete⟩ := written
  refine ⟨smooth.append (by simp [Smooth, failure?]), connection, joined, _, opened, rfl, ?_⟩
  rw [statements_append, complete]
  exact List.append_nil _

/-- What comes of writing the batch. Its rows wait no longer, also after a failure. -/
inductive Flushed (database : Database) (statement : Statement) (stream : WriteStream) (start : τ) :
    Run WriteStream τ Unit → Prop where
  | idle (bare : stream.waiting = []) :
      Flushed database statement stream start ⟨.ok (), stream, start, []⟩
  | written (filled : stream.waiting ≠ []) {after : Statement} (same : after.sql = statement.sql)
      (live : after.finalized = false) {exchanges : List Exchange}
      (writes : Written database statement.sql stream.waiting exchanges) (final : τ) :
      Flushed database statement stream start
        ⟨.ok (), { stream with
          waiting := []
          statement := some after
          rowsWritten := stream.rowsWritten + stream.waiting.length }, final, exchanges⟩
  | failed (filled : stream.waiting ≠ []) {after : Statement} (same : after.sql = statement.sql)
      (live : after.finalized = false) {exchanges : List Exchange}
      (attempts : Attempted statement.sql stream.waiting exchanges) (failure : Failure) (final : τ) :
      Flushed database statement stream start
        ⟨.error failure, { stream with waiting := [], statement := some after }, final, exchanges⟩

/-- A batch that was written has executed exactly its rows. -/
theorem Written.rowsOf {database : Database} {sql : String} {rows : List Value}
    {exchanges : List Exchange} (written : Written database sql rows exchanges)
    (apart : sql ∉ controlTexts) : rowsOf sql exchanges = rows := by
  obtain ⟨-, connection, joined, rest, -, -, complete⟩ := written
  have inner : (rows.map fun row => (sql, row)).filterMap (fun executed =>
      if executed.1 = sql then some executed.2 else none) = rows := by
    simp [List.filterMap_map]
  simp only [controlTexts, List.mem_cons, List.not_mem_nil, or_false, not_or] at apart
  rw [Exchange.rowsOf, complete]
  cases joined with
  | true => exact inner
  | false =>
      simp [batchStatements, List.filterMap_append, inner, Ne.symm apart.1, Ne.symm apart.2.1]

/-- The bounds of a transaction attempt no row. -/
theorem Attempted.none {sql : String} {rows : List Value} {exchanges : List Exchange}
    (apart : sql ∉ controlTexts) (outside : texts exchanges ⊆ controlTexts) :
    Attempted sql rows exchanges :=
  ⟨rowsOf_outside outside apart ▸ List.nil_prefix,
    List.Subset.trans outside (List.subset_cons_self _ _)⟩

/-- The bounds of a transaction execute no row. -/
theorem Attempted.between {sql : String} {rows : List Value} {before exchanges after : List Exchange}
    (attempts : Attempted sql rows exchanges) (apart : sql ∉ controlTexts)
    (begins : texts before ⊆ controlTexts) (ends : texts after ⊆ controlTexts) :
    Attempted sql rows (before ++ exchanges ++ after) := by
  constructor
  · rw [rowsOf_append, rowsOf_append, rowsOf_outside begins apart, rowsOf_outside ends apart,
      List.nil_append, List.append_nil]
    exact attempts.inOrder
  · rw [texts_append, texts_append]
    refine List.append_subset.mpr ⟨List.append_subset.mpr ⟨?_, attempts.others⟩, ?_⟩
    · exact List.Subset.trans begins (List.subset_cons_self _ _)
    · exact List.Subset.trans ends (List.subset_cons_self _ _)

/-- Inserted rows were attempted in their order. -/
theorem Inserted.attempted {sql : String} {rows : List Value} {run : Run WriteStream τ Unit}
    (inserted : Inserted sql rows stream run) : Attempted sql rows run.exchanges := by
  obtain ⟨count, same⟩ : ∃ count,
      statements run.exchanges = (rows.take count).map fun row => (sql, row) := by
    rcases inserted.ends with ⟨-, -, complete⟩ | ⟨-, inOrder⟩
    · exact ⟨rows.length, by rw [complete, List.take_length]⟩
    · exact ⟨_, by rw [List.map_take]; exact List.prefix_iff_eq_take.mp inOrder⟩
  refine ⟨rowsOf_statements same ▸ List.take_prefix _ _, ?_⟩
  rw [texts, same, List.map_map]
  rintro text member
  obtain ⟨row, -, rfl⟩ := List.mem_map.mp member
  exact List.mem_cons_self

/-- A block around the insertion of rows. -/
theorem transaction_inserted {rows : List Value} (holds : stream.statement = some statement)
    (live : statement.finalized = false) (given : ∀ row ∈ rows, row.isNull = false)
    (apart : statement.sql ∉ controlTexts) {run : Run WriteStream τ Unit}
    (encloses : Enclosed engine database (runAll database rows) stream start run) :
    ∃ after : Statement, after.sql = statement.sql ∧ after.finalized = false ∧
      run.state = { stream with statement := some after } ∧
      (run.outcome = .ok () ∧ Written database statement.sql rows run.exchanges ∨
        (∃ failure, run.outcome = .error failure) ∧ Attempted statement.sql rows run.exchanges) := by
  have inserts {middle : τ} {ran : Run WriteStream τ Unit}
      (runs : (runAll database rows).runOn engine stream middle = ran) :
      Inserted statement.sql rows stream ran :=
    runs ▸ runAll_inserted engine database middle holds live given
  cases encloses with
  | refused failure final outside =>
      refine ⟨statement, rfl, live, by rw [← holds], .inr ⟨⟨failure, rfl⟩, ?_⟩⟩
      exact .none apart
        (List.Subset.trans outside.texts (List.cons_subset_cons _ (List.nil_subset _)))
  -- An open transaction takes the rows in, and adds no bounds of its own.
  | @joined connection opened middle ran runs =>
      obtain ⟨after, same, stays, keeps⟩ := (inserts runs).keeps
      refine ⟨after, same, stays, keeps, ?_⟩
      rcases (inserts runs).ends with ⟨returns, smooth, complete⟩ | ⟨fails, -⟩
      · refine .inl ⟨returns, ⟨?_, connection, true, _, opened, rfl, complete⟩⟩
        exact List.forall_mem_cons.mpr ⟨rfl, smooth⟩
      · obtain ⟨inOrder, others⟩ := (inserts runs).attempted
        exact .inr ⟨fails, inOrder, others⟩
  | @committed connection opened middle ran runs value returns first last begun ended final =>
      obtain ⟨after, same, stays, keeps⟩ := (inserts runs).keeps
      refine ⟨after, same, stays, keeps, .inl ⟨rfl, ?_⟩⟩
      rcases (inserts runs).ends with ⟨-, smooth, complete⟩ | ⟨⟨failure, fails⟩, -⟩
      · refine ⟨(beginning_smooth.append smooth).append (by simp [Smooth, executed, failure?]),
          connection, false, _, opened, rfl, ?_⟩
        rw [statements_append, statements_append, complete]
        rfl
      · cases returns.symm.trans fails
  | @failed connection opened middle ran runs first begun after outside failure final =>
      obtain ⟨kept, same, stays, keeps⟩ := (inserts runs).keeps
      refine ⟨kept, same, stays, keeps, .inr ⟨⟨failure, rfl⟩, ?_⟩⟩
      exact (inserts runs).attempted.between apart (Apart.begun List.mem_cons_self).texts
        (List.Subset.trans outside.texts (List.subset_cons_self _ _))

/-- A flush without waiting rows asks for nothing. -/
theorem flush_idle (bare : stream.waiting = []) :
    (flush database).runOn engine stream start = ⟨.ok (), stream, start, []⟩ := by
  simp only [flush, runOn_bind, runOn_get, Run.follow, bare, List.isEmpty_nil, if_true, runOn_pure,
    List.append_nil]

/-- A flush writes all waiting rows in one transaction, or fails and drops them. -/
theorem flush_flushed (holds : stream.statement = some statement) (live : statement.finalized = false)
    (given : ∀ row ∈ stream.waiting, row.isNull = false) (apart : statement.sql ∉ controlTexts) :
    Flushed database statement stream start ((flush database).runOn engine stream start) := by
  cases filled : stream.waiting with
  | nil =>
      rw [flush_idle engine database start filled]
      exact .idle filled
  | cons row rest =>
      have bare : ({ stream with waiting := [] } : WriteStream).statement = some statement := holds
      have encloses := transaction_enclosed engine database { stream with waiting := [] } start
        (runAll database (row :: rest))
      simp only [flush, runOn_bind, runOn_get, runOn_modify, runOn_log, Run.follow, filled,
        List.isEmpty_cons, Bool.false_eq_true, if_false, List.nil_append]
      generalize (database.transaction (runAll database (row :: rest))).runOn engine
        { stream with waiting := [] } start = run at encloses
      obtain ⟨after, same, stays, keeps, ends⟩ :=
        transaction_inserted engine database start bare live (filled ▸ given) apart encloses
      obtain ⟨outcome, state, final, exchanges⟩ := run
      have some : stream.waiting ≠ [] := by simp [filled]
      subst keeps
      rcases ends with ⟨rfl, writes⟩ | ⟨⟨failure, rfl⟩, attempts⟩
      · rw [← filled] at writes ⊢
        exact .written some same stays (writes.logged _) _
      · exact .failed some same stays (filled.symm ▸ attempts) failure final

/-! ## Releasing the statement -/

/-- What comes of releasing a stream. Its statement is finalized if it has one. -/
inductive Released (engine : Engine τ) (stream : WriteStream) (start : τ) :
    Run WriteStream τ Unit → Prop where
  | bare (none : stream.statement = none) :
      Released engine stream start ⟨.ok (), { stream with closed := true }, start, []⟩
  | finalized {statement : Statement} (holds : stream.statement = some statement)
      {run : Run Statement τ Unit} (finalized : Statement.Finalized engine statement start run) :
      Released engine stream start
        ⟨.ok (), { stream with closed := true, statement := some run.state }, run.final,
          run.exchanges⟩

/-- Releasing a stream finalizes its statement. -/
theorem release_released (stream : WriteStream) :
    Released engine stream start (release.runOn engine stream start) := by
  obtain ⟨table, replaces, size, written, columns, statement, waiting, closed⟩ := stream
  cases statement with
  | none => exact .bare rfl
  | some statement =>
      have finalized := Statement.finalize_finalized engine statement start
      simp only [release, runOn_bind, runOn_get, runOn_modify, Run.follow, runOn_onPart,
        List.nil_append, finalized.returns]
      exact .finalized rfl finalized

theorem runOn_ensuring {σ α : Type} (action : Action σ α) (last : Action σ Unit) (state : σ) :
    (ensuring action last).runOn engine state start =
      (action.runOn engine state start).afterwards fun _ => last.runOn engine :=
  runOn_afterwards engine state start action fun _ => last

end WriteStream

end Tabular
