import Tabular.Proofs.Engine.Transactional

/-!
This module follows a transaction from its beginning to its end. It is committed, or it is undone
after a failure, or the commit itself fails.
-/

namespace Tabular

open Tabular.Action Exchange

variable {σ τ Content : Type}

namespace Exchange

/-- The engine has told that a transaction is still open. -/
def reportsOpen (exchanges : List Exchange) : Bool :=
  exchanges.any fun exchange =>
    match exchange with
    | ⟨.inTransaction _, true⟩ => true
    | _ => false

end Exchange

def beginText : String := "BEGIN TRANSACTION"

def commitText : String := "COMMIT"

def rollbackText : String := "ROLLBACK"

/-- What becomes of a transaction over planned statements. A rollback follows the failure when the
transaction is still open, and unless the rollback fails, too, the tables are as at the start. -/
inductive Settled (view : EngineView τ Content) (start : τ) (planned : List String)
    (run : Run σ τ Unit) : Prop where
  | committed (outcome : run.outcome = .ok ()) (smooth : Smooth run.exchanges)
      (complete : texts run.exchanges = beginText :: planned ++ [commitText])
  | undone (before after : List Exchange) (failing : Exchange) (cause : Outside)
      (failure : Failure) (split : run.exchanges = before ++ failing :: after)
      (smooth : Smooth before) (fails : failing.failure? = some cause)
      (raises : Raises (before ++ [failing]) cause failure)
      (inOrder : texts (before ++ [failing]) <+: beginText :: planned)
      (closing : texts after = if reportsOpen after then [rollbackText] else [])
      (settled : Succeeds rollbackText after → run.outcome = .error failure ∧
        view.isOpen run.final = false ∧ view.content run.final = view.content start)
  | unsettled (fails : ¬ Succeeds commitText run.exchanges)

namespace Database

variable {engine : Engine τ} {connection : Connection} {database : Database}
  {view : EngineView τ Content} (laws : Transactional engine connection view)
  (opened : database.connection = some connection) (state : σ) {start : τ}

include opened in
theorem runOn_inTransaction :
    (database.inTransaction).runOn engine state start =
      ⟨.ok (engine.answer (.inTransaction connection) start).1, state,
        (engine.answer (.inTransaction connection) start).2,
        [⟨.inTransaction connection, (engine.answer (.inTransaction connection) start).1⟩]⟩ := by
  simp only [inTransaction, connected, opened, pure_bind, Action.runOn_inTransaction]

/-- The exchanges at the beginning of a transaction. -/
def beginning (connection : Connection) (cursor : Cursor) (answer : Except Outside RunResult) :
    List Exchange :=
  ⟨.inTransaction connection, false⟩ :: executed connection beginText .null cursor answer

theorem beginning_owned {cursor : Cursor} {answer : Except Outside RunResult} :
    Owned connection (beginning connection cursor answer) := by
  simp [Owned, beginning, executed, Request.isQuiet]

theorem beginning_smooth {cursor : Cursor} {result : RunResult} :
    Smooth (beginning connection cursor (.ok result)) := by
  simp [Smooth, beginning, executed, failure?]

include opened in
/-- Outside a transaction, a block begins one. -/
theorem runOn_enter (told : (engine.answer (.inTransaction connection) start).1 = false) :
    ∃ cursor answer final,
      Answered engine connection beginText .null (engine.answer (.inTransaction connection) start).2
        cursor answer final ∧
      (database.enter).runOn engine state start =
        ⟨match answer with
          | .ok _ => .ok true
          | .error cause => .error ((Failure.outside cause).attach beginText .null),
          state, final, beginning connection cursor answer⟩ := by
  obtain ⟨cursor, answer, final, answered, executes⟩ := runOn_execute engine state
    (engine.answer (.inTransaction connection) start).2 opened beginText .null
  refine ⟨cursor, answer, final, answered, ?_⟩
  rw [enter, runOn_bind, runOn_inTransaction opened, told]
  simp only [Run.follow, Database.run, runOn_bind, Bool.false_eq_true, if_false]
  rw [← beginText, executes]
  cases answer <;> rfl

include opened in
/-- Where a transaction is still open after a failure, the failure follows the rollback, unless that
fails, too. -/
theorem runOn_leave (told : (engine.answer (.inTransaction connection) start).1 = true)
    (failure : Failure) {rolledBack : Run σ τ RunResult}
    (rolls : (database.run rollbackText).runOn engine state
      (engine.answer (.inTransaction connection) start).2 = rolledBack) :
    (database.leave (.error failure : Except Failure Unit)).runOn engine state start =
      ⟨rolledBack.outcome.bind fun _ => .error failure, rolledBack.state, rolledBack.final,
        ⟨.inTransaction connection, true⟩ :: rolledBack.exchanges⟩ := by
  have rest : (database.run rollbackText >>= fun _ => (throw failure : Action σ Unit)).runOn
      engine state (engine.answer (.inTransaction connection) start).2 =
      ⟨rolledBack.outcome.bind fun _ => .error failure, rolledBack.state, rolledBack.final,
        rolledBack.exchanges⟩ := by
    rw [runOn_bind, rolls, Run.follow]
    cases rolledBack.outcome with
    | ok value => simp [Except.bind]
    | error raised => rfl
  rw [leave, runOn_bind, runOn_inTransaction opened, told]
  exact congrArg (fun rest : Run σ τ Unit => { rest with
    exchanges := ⟨.inTransaction connection, true⟩ :: rest.exchanges }) rest

include laws opened in
/-- After a failure, a transaction that is still open is rolled back. Unless the rollback fails, the
failure is passed on and the saved tables are there again. -/
theorem leave_failed (failure : Failure) {run : Run σ τ Unit}
    (same : (database.leave (.error failure : Except Failure Unit)).runOn engine state start = run) :
    Owned connection run.exchanges ∧
      texts run.exchanges = (if reportsOpen run.exchanges then [rollbackText] else []) ∧
      (∃ raised, run.outcome = .error raised) ∧
      (Succeeds rollbackText run.exchanges → run.outcome = .error failure ∧
        ∀ content, view.Keeps content start →
          view.isOpen run.final = false ∧ view.content run.final = content) := by
  have tells := laws.tells start
  have quiet := laws.quiet (.inTransaction connection) start rfl
  cases told : (engine.answer (.inTransaction connection) start).1 with
  | false =>
      rw [leave, runOn_bind, runOn_inTransaction opened, Run.follow, told] at same
      subst same
      refine ⟨by simp [Owned, Request.isQuiet], rfl, ⟨failure, rfl⟩, fun _ => ⟨rfl, ?_⟩⟩
      intro content keeps
      rcases quiet.keeps keeps with ⟨opened, -⟩ | outside
      · exact absurd ((opened.symm.trans quiet.2.1).trans (tells.symm.trans told)) (by simp)
      · exact outside
  | true =>
      have leaves := runOn_leave opened state told failure rfl
      generalize (engine.answer (.inTransaction connection) start).2 = next at leaves quiet
      have rollback := straight_run engine state next opened rollbackText .null
      have chain := runOn_chain engine (database.run rollbackText) state next
      have ours := laws.ours chain rollback.owned
      have single := rollback.single
      have ends := run_finished engine state next opened rollbackText .null
      generalize (database.run rollbackText).runOn engine state next = rolledBack at *
      obtain rfl := leaves.symm.trans same
      have owned : Owned connection [⟨.inTransaction connection, true⟩] := by
        simp [Owned, Request.isQuiet]
      refine ⟨owned.append rollback.owned, single, ?_, ?_⟩
      · cases rolledBack.outcome with
        | ok value => exact ⟨failure, rfl⟩
        | error raised => exact ⟨raised, rfl⟩
      · intro succeeds
        obtain ⟨value, finished⟩ := ends (succeeds.subset (List.subset_cons_self _ _))
        refine ⟨by rw [finished.outcome]; rfl, fun content keeps => ?_⟩
        obtain ⟨closed, restored⟩ := laws.rolledBack_view chain ours finished.smooth single
          (quiet.2.1.trans (tells.symm.trans told))
        refine ⟨closed, restored.trans ?_⟩
        rcases quiet.keeps keeps with ⟨-, saved⟩ | ⟨outside, -⟩
        · exact saved
        · exact absurd ((outside.symm.trans quiet.2.1).trans (tells.symm.trans told)) (by simp)

include laws in
/-- A transaction whose beginning fails does nothing. -/
theorem beginning_failed (outside : view.isOpen start = false) {cursor : Cursor} {cause : Outside}
    {final : τ} (chain : engine.Chain start (beginning connection cursor (.error cause)) final)
    (planned : List String) :
    Settled view start planned (⟨.error ((Failure.outside cause).attach beginText .null), state,
      final, beginning connection cursor (.error cause)⟩ : Run σ τ Unit) := by
  have ours := laws.ours chain beginning_owned
  obtain ⟨before, failing, split, quiet, fails⟩ : ∃ before failing,
      beginning connection cursor (.error cause) = before ++ [failing] ∧
      (∀ exchange ∈ before, exchange.request.isQuiet = true ∧ exchange.failure? = none) ∧
      failing.failure? = some cause :=
    ⟨[_, _, _], _, rfl, by simp [Request.isQuiet, failure?], rfl⟩
  have unchanged : view.Same final start := by
    rw [split] at chain ours
    obtain ⟨oursBefore, oursFailing⟩ := List.forall_mem_append.mp ours
    obtain ⟨middle, first, last⟩ := chain.split
    have silent : texts before = [] := by
      rw [texts, statements, List.filterMap_eq_nil_iff.mpr]
      · rfl
      · exact fun exchange member => statement?_quiet (quiet exchange member).1
    have same := laws.chain_silent first oursBefore silent
    cases last with
    | cons request _ tail =>
        cases tail with
        | nil =>
            have ours := oursFailing _ (List.mem_singleton_self _)
            exact (laws.failing_step ours fails (same.2.1.trans outside)).trans same
  refine .undone before [] failing cause _ split (fun exchange member => (quiet exchange member).2)
    fails ?_ ?_ rfl fun _ => ⟨rfl, unchanged.2.1.trans outside, unchanged.1⟩
  · exact split ▸ ⟨beginText, .null, rfl, rfl⟩
  · exact split ▸ (List.prefix_append [beginText] planned)

include laws opened in
/-- A block outside a transaction is a transaction, which is settled. -/
theorem transaction_settled {planned : List String} {body : Action σ Unit}
    (straight : ∀ state start, Straight connection planned (body.runOn engine state start))
    (changes : ∀ sql ∈ planned, isChange sql = true) (outside : view.isOpen start = false) :
    Settled view start planned ((database.transaction body).runOn engine state start) := by
  obtain ⟨cursor, answer, middle, -, begins⟩ :=
    runOn_enter opened state ((laws.tells start).trans outside)
  have chain := runOn_chain engine database.enter state start
  rw [begins] at chain
  rw [transaction, runOn_bind, begins]
  cases answer with
  | error cause => exact beginning_failed laws state outside chain planned
  | ok result =>
      have ours := laws.ours chain beginning_owned
      obtain ⟨inside, saved⟩ := laws.begun_view chain ours beginning_smooth rfl outside
      simp only [Run.follow, if_true, runOn_afterwards, Run.afterwards]
      have ran := straight state middle
      have bodyChain := runOn_chain engine body state middle
      generalize body.runOn engine state middle = done at *
      rcases ran.ends with ⟨value, finished⟩ | ⟨before, failing, cause, failure, stopped⟩
      · rw [finished.outcome]
        generalize same : (database.leave (.ok value : Except Failure Unit)).runOn engine done.state
          done.final = left
        have ends := alone_finished engine done.state done.final opened commitText .null same
        -- A refused commit is not rolled back, and this is the case that stays unsettled.
        by_cases succeeds : Succeeds commitText left.exchanges
        · have ended := ends succeeds
          refine .committed (by rw [ended.outcome]; rfl)
            (beginning_smooth.append (finished.smooth.append ended.smooth)) ?_
          rw [texts_append, texts_append, finished.complete, ended.complete]
          rfl
        · refine .unsettled fun whole => succeeds (whole.subset ?_)
          exact List.subset_append_of_subset_right _ (List.subset_append_right _ _)
      · have keeps := laws.stopped_keeps bodyChain ran.owned stopped changes inside
        rw [stopped.outcome]
        generalize same : (database.leave (.error failure : Except Failure Unit)).runOn engine
          done.state done.final = left
        obtain ⟨-, single, raised, leaves⟩ := leave_failed laws opened done.state failure same
        refine .undone (beginning connection cursor (.ok result) ++ before) left.exchanges failing
          cause failure ?_ (beginning_smooth.append stopped.smooth) stopped.fails ?_ ?_ single ?_
        · simp only [stopped.split, List.append_assoc, List.cons_append, List.nil_append]
        · rw [List.append_assoc, ← stopped.split]
          exact stopped.raises.append
        · rw [List.append_assoc, ← stopped.split, texts_append]
          exact List.prefix_append_right_inj [beginText] |>.mpr stopped.inOrder
        · intro succeeds
          obtain ⟨outcome, restores⟩ := leaves succeeds
          obtain ⟨closed, restored⟩ := restores _ keeps
          exact ⟨by rw [outcome]; rfl, closed, restored.trans saved⟩

end Database

end Tabular
