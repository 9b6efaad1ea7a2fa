import Tabular.Proofs.Engine.Transaction

/-!
This module tells when a block leaves the transaction open that it began. A rollback follows every
failure of the body, but nothing follows a commit that is refused.
-/

namespace Tabular

open Tabular.Action Exchange

variable {σ τ α : Type}

/-- An engine that tells whether a transaction is open on a connection. A beginning that fails opens
none, and a commit or a rollback that succeeds closes it. -/
structure Closing (engine : Engine τ) (connection : Connection) (isOpen : τ → Bool) : Prop where
  cursors : ∀ state, (engine.answer (.cursor connection) state).1.connection = connection
  quiet : ∀ request state, request.isQuiet = true →
    isOpen (engine.answer request state).2 = isOpen state
  tells : ∀ state, (engine.answer (.inTransaction connection) state).1 = isOpen state
  notBegun : ∀ cursor parameters state cause next, cursor.connection = connection →
    isOpen state = false →
    engine.answer (.execute cursor beginText parameters) state = (.error cause, next) →
    isOpen next = false
  committed : ∀ cursor parameters state result next, cursor.connection = connection →
    engine.answer (.execute cursor commitText parameters) state = (.ok result, next) →
    isOpen next = false
  rolledBack : ∀ cursor parameters state result next, cursor.connection = connection →
    engine.answer (.execute cursor rollbackText parameters) state = (.ok result, next) →
    isOpen next = false

namespace Database

/-- The commit of a block was refused, nothing followed it, and the transaction is still open. -/
structure CommitRefused (connection : Connection) (isOpen : τ → Bool) (left : Run σ τ Unit) :
    Prop where
  last : ∃ cursor cause, left.exchanges = executed connection commitText .null cursor (.error cause)
  stays : isOpen left.final = true

variable {engine : Engine τ} {connection : Connection} {database : Database} {isOpen : τ → Bool}
  (laws : Closing engine connection isOpen) (opened : database.connection = some connection)
  (state : σ) {start : τ}

include laws in
/-- A statement is executed on a cursor of the connection, and what goes before it leaves the
transaction as it is. -/
theorem Answered.inPlace {sql : String} {parameters : Value} {cursor : Cursor}
    {answer : Except Outside RunResult} {final : τ}
    (answered : Answered engine connection sql parameters start cursor answer final) :
    cursor.connection = connection ∧ ∃ before, isOpen before = isOpen start ∧
      engine.answer (.execute cursor sql (driverParameters parameters)) before = (answer, final) := by
  obtain ⟨middle, given, executed⟩ := answered
  have on := laws.cursors (engine.answer
    (.log ⟨.debug, logger, sql ++ " " ++ parameters.literal⟩) start).2
  have same := laws.quiet (.cursor connection) (engine.answer
    (.log ⟨.debug, logger, sql ++ " " ++ parameters.literal⟩) start).2 rfl
  rw [given] at on same
  exact ⟨on, middle, same.trans (laws.quiet _ start rfl), executed⟩

include laws opened

/-- Outside a transaction, a block begins one or fails and leaves none open. -/
theorem enter_begins (outside : isOpen start = false) {entered : Run σ τ Bool}
    (enters : database.enter.runOn engine state start = entered) :
    entered.outcome = .ok true ∨
      (∃ failure, entered.outcome = .error failure) ∧ isOpen entered.final = false := by
  obtain ⟨cursor, answer, final, answered, whole⟩ :=
    runOn_enter opened state ((laws.tells start).trans outside)
  obtain ⟨on, before, same, executed⟩ := Answered.inPlace laws answered
  rw [← enters, whole]
  cases answer with
  | ok result => exact .inl rfl
  | error cause =>
      have closed := (same.trans (laws.quiet _ start rfl)).trans outside
      exact .inr ⟨⟨_, rfl⟩, laws.notBegun cursor _ before cause final on closed executed⟩

/-- After a body that ended well, the transaction stays open only where its commit is refused. -/
theorem leave_ok (value : α) {left : Run σ τ Unit}
    (leaves : (database.leave (.ok value : Except Failure α)).runOn engine state start = left)
    (stays : isOpen left.final = true) : CommitRefused connection isOpen left := by
  obtain ⟨cursor, answer, final, answered, whole⟩ :=
    runOn_execute engine state start opened commitText .null
  obtain ⟨on, before, -, executes⟩ := Answered.inPlace laws answered
  have commits : (database.run commitText >>= fun _ => (pure () : Action σ Unit)).runOn engine state
      start = left := leaves
  rw [Database.run, runOn_bind, runOn_bind, whole] at commits
  cases answer with
  | ok result =>
      have closed := laws.committed cursor _ before result final on executes
      rw [← commits] at stays
      exact absurd (stays.symm.trans closed) (by decide)
  | error cause => exact ⟨⟨cursor, cause, by rw [← commits]; rfl⟩, stays⟩

/-- After a body that failed, the transaction is closed unless its rollback fails. -/
theorem leave_error (failure : Failure) {left : Run σ τ Unit}
    (leaves : (database.leave (.error failure : Except Failure α)).runOn engine state start = left)
    (succeeds : Succeeds rollbackText left.exchanges) : isOpen left.final = false := by
  have tells := laws.tells start
  have same := laws.quiet (.inTransaction connection) start rfl
  rw [leave, runOn_bind, runOn_inTransaction opened, Run.follow] at leaves
  generalize engine.answer (.inTransaction connection) start = told at leaves tells same
  obtain ⟨stillOpen, next⟩ := told
  cases stillOpen with
  | false =>
      subst leaves
      exact same.trans tells.symm
  | true =>
      obtain ⟨cursor, answer, final, answered, whole⟩ :=
        runOn_execute engine state next opened rollbackText .null
      obtain ⟨on, before, -, executes⟩ := Answered.inPlace laws answered
      have rollsBack : (database.run rollbackText >>= fun _ => (throw failure : Action σ Unit)).runOn
          engine state next = { left with exchanges := left.exchanges.tail } := by
        rw [← leaves]
        rfl
      rw [Database.run, runOn_bind, runOn_bind, whole] at rollsBack
      cases answer with
      | ok result =>
          have closed := laws.rolledBack cursor _ before result final on executes
          have ends := congrArg Run.final rollsBack
          exact (congrArg isOpen ends.symm).trans closed
      | error cause =>
          have ends : executed connection rollbackText .null cursor (.error cause) =
              left.exchanges.tail := congrArg Run.exchanges rollsBack
          have fine := succeeds ⟨.execute cursor rollbackText (.tuple []), .error cause⟩
            (List.mem_of_mem_tail (ends ▸ List.mem_of_mem_getLast? rfl)) rfl
          cases fine

/-- A block that is entered outside a transaction leaves one open exactly where its body ended well,
its commit was refused, and the refusal kept the transaction. Everywhere else it is closed, unless a
rollback of the block fails. -/
theorem transaction_leftOpen_iff (body : Action σ α) (outside : isOpen start = false)
    {entered : Run σ τ Bool} {ran : Run σ τ α} {left : Run σ τ Unit}
    (enters : database.enter.runOn engine state start = entered)
    (runs : body.runOn engine entered.state entered.final = ran)
    (leaves : (database.leave ran.outcome).runOn engine ran.state ran.final = left)
    (succeeds : Succeeds rollbackText left.exchanges) :
    isOpen ((database.transaction body).runOn engine state start).final = true ↔
      entered.outcome = .ok true ∧ (∃ value, ran.outcome = .ok value) ∧
        CommitRefused connection isOpen left := by
  rw [transaction, runOn_bind, enters, Run.follow]
  rcases enter_begins laws opened state outside enters with began | ⟨⟨failure, failed⟩, closed⟩
  · simp only [began, if_true, runOn_afterwards, Run.afterwards, runs, leaves, true_and]
    cases ended : ran.outcome with
    | ok value =>
        rw [ended] at leaves
        refine ⟨fun stays => ⟨⟨value, rfl⟩, ?_⟩, fun refused => refused.2.stays⟩
        exact leave_ok laws opened ran.state value leaves stays
    | error failure =>
        rw [ended] at leaves
        have closed := leave_error laws opened ran.state failure leaves succeeds
        refine ⟨fun stays => absurd (stays.symm.trans closed) (by decide), fun refused => ?_⟩
        obtain ⟨value, ended⟩ := refused.1
        cases ended
  · rw [failed]
    refine ⟨fun stays => absurd (stays.symm.trans closed) (by decide), fun refused => ?_⟩
    cases refused.1

omit laws in
/-- A block that is entered inside a transaction only runs its body. -/
theorem transaction_joins (body : Action σ α)
    (inside : (engine.answer (.inTransaction connection) start).1 = true) :
    (database.transaction body).runOn engine state start =
      let ran := body.runOn engine state (engine.answer (.inTransaction connection) start).2
      { ran with exchanges := ⟨.inTransaction connection, true⟩ :: ran.exchanges } := by
  rw [transaction, enter, runOn_bind, runOn_bind, runOn_inTransaction opened, inside]
  rfl

end Database

/-! ## An engine that refuses statements -/

namespace Latch

/-- Only whether a transaction is open is held. A refused statement changes nothing. -/
def execute (refuses : String → Bool) (sql : String) (isOpen : Bool) :
    Except Outside RunResult × Bool :=
  if refuses sql then (.error ⟨.operational, "database is locked"⟩, isOpen)
  else (.ok ⟨none, 1⟩, sql = beginText || (isOpen && sql ≠ commitText && sql ≠ rollbackText))

def engine (refuses : String → Bool) : Engine Bool where
  answer
    | .connect _, isOpen => (.ok ⟨0⟩, isOpen)
    | .disconnect _, isOpen => ((), isOpen)
    | .inTransaction _, isOpen => (isOpen, isOpen)
    | .script _ _, isOpen => (.ok (), isOpen)
    | .cursor connection, isOpen => (⟨connection, 0⟩, isOpen)
    | .execute _ sql _, isOpen => execute refuses sql isOpen
    | .fetchOne _, isOpen => (.ok none, isOpen)
    | .fetchMany _ _, isOpen => (.ok [], isOpen)
    | .fetchAll _, isOpen => (.ok [], isOpen)
    | .rows _, isOpen => (([], none), isOpen)
    | .advance _ _, isOpen => ((), isOpen)
    | .remaining _, isOpen => (0, isOpen)
    | .closeCursor _, isOpen => ((), isOpen)
    | .log _, isOpen => ((), isOpen)
    | .threshold _, isOpen => ((), isOpen)
    | .time, isOpen => (.zero false, isOpen)

theorem execute_error {refuses : String → Bool} {sql : String} {isOpen next : Bool}
    {cause : Outside} (failed : execute refuses sql isOpen = (.error cause, next)) :
    next = isOpen := by
  rw [execute] at failed
  split at failed
  · exact (Prod.mk.inj failed).2.symm
  · exact nomatch (Prod.mk.inj failed).1

theorem execute_ok {refuses : String → Bool} {sql : String} {isOpen next : Bool}
    {result : RunResult} (done : execute refuses sql isOpen = (.ok result, next)) :
    next = (sql = beginText || (isOpen && sql ≠ commitText && sql ≠ rollbackText)) := by
  rw [execute] at done
  split at done
  · exact nomatch (Prod.mk.inj done).1
  · exact (Prod.mk.inj done).2.symm

theorem closing (refuses : String → Bool) (connection : Connection) :
    Closing (engine refuses) connection id where
  cursors _ := rfl
  quiet request isOpen quiet := by
    cases request <;> first | rfl | exact nomatch quiet
  tells _ := rfl
  notBegun cursor parameters isOpen cause next _ outside failed :=
    (execute_error failed).trans outside
  committed cursor parameters isOpen result next _ done := by
    rw [execute_ok done]
    simp [beginText, commitText]
  rolledBack cursor parameters isOpen result next _ done := by
    rw [execute_ok done]
    simp [beginText, rollbackText]

end Latch

namespace Database

/-- The database is locked when a transaction is to be committed. -/
def lockedEngine : Engine Bool := Latch.engine (· = commitText)

def lockedDatabase : Database := { path := "locked.db", settings := {}, connection := some ⟨0⟩ }

/-- A block inserts one row. -/
def insertion (row : String) : Action Unit RunResult :=
  lockedDatabase.run ("INSERT INTO t VALUES (" ++ row ++ ")")

def lockedEnter : Run Unit Bool Bool := lockedDatabase.enter.runOn lockedEngine () false

def lockedBody : Run Unit Bool RunResult :=
  (insertion "1").runOn lockedEngine lockedEnter.state lockedEnter.final

def lockedLeave : Run Unit Bool Unit :=
  (lockedDatabase.leave lockedBody.outcome).runOn lockedEngine lockedBody.state lockedBody.final

def lockedRun : Run Unit Bool RunResult :=
  (lockedDatabase.transaction (insertion "1")).runOn lockedEngine () false

theorem transaction_leftOpen_iff_locked :
    (Closing lockedEngine ⟨0⟩ id ∧ Succeeds rollbackText lockedLeave.exchanges) ∧
      lockedRun.final = true ∧ CommitRefused ⟨0⟩ id lockedLeave := by
  have laws : Closing lockedEngine ⟨0⟩ id := Latch.closing _ _
  have opened : lockedDatabase.connection = some ⟨0⟩ := rfl
  have commits : texts lockedLeave.exchanges = [commitText] := by decide +kernel
  have succeeds : Succeeds rollbackText lockedLeave.exchanges := by
    intro exchange member rollsBack
    have inside := texts_of_mem member (rollsBack ▸ List.mem_singleton_self rollbackText)
    rw [commits] at inside
    exact absurd inside (by decide)
  have stays : lockedRun.final = true := by decide +kernel
  have left := transaction_leftOpen_iff laws opened () (insertion "1") rfl rfl rfl rfl succeeds
  exact ⟨⟨laws, succeeds⟩, stays, (left.mp stays).2.2⟩

/-- No rollback follows the refused commit. The next block joins the open transaction, and nobody
commits its row. -/
theorem transaction_leavesOpen :
    Closing lockedEngine ⟨0⟩ id ∧
      texts lockedRun.exchanges = [beginText, "INSERT INTO t VALUES (1)", commitText] ∧
      lockedRun.final = true ∧
      texts ((lockedDatabase.transaction (insertion "2")).runOn lockedEngine ()
        lockedRun.final).exchanges = ["INSERT INTO t VALUES (2)"] :=
  ⟨Latch.closing _ _, by decide +kernel, by decide +kernel, by decide +kernel⟩

end Database

end Tabular
