import Tabular.Proofs.Engine.Cursors
import Tabular.Proofs.Engine.Transaction

/-!
This module tells what a block adds to its body, whatever the engine answers. It is a beginning before
the body and a commit or a rollback after it, or nothing where a transaction is open already.
-/

namespace Tabular

namespace Database

open Tabular.Action Exchange

variable {σ τ α : Type}

/-- These exchanges only execute some of the allowed statements, each on a cursor of its own. -/
structure Apart (allowed : List String) (exchanges : List Exchange) : Prop where
  texts : texts exchanges ⊆ allowed
  handles : ∀ held, Handles allowed held exchanges held

namespace Apart

variable {allowed : List String} {connection : Connection} {exchanges : List Exchange}

theorem nil : Apart allowed [] := ⟨List.nil_subset _, .done⟩

theorem executed {sql : String} (allows : sql ∈ allowed) (parameters : Value) (cursor : Cursor)
    (answer : Except Outside RunResult) :
    Apart allowed (executed connection sql parameters cursor answer) :=
  ⟨List.cons_subset.mpr ⟨allows, List.nil_subset _⟩,
    fun held => .quiet rfl rfl (.aside allows (.done held))⟩

theorem asked {answer : Bool} (apart : Apart allowed exchanges) :
    Apart allowed (⟨.inTransaction connection, answer⟩ :: exchanges) :=
  ⟨apart.texts, fun held => .quiet rfl rfl (apart.handles held)⟩

theorem begun {cursor : Cursor} {answer : Except Outside RunResult} (allows : beginText ∈ allowed) :
    Apart allowed (beginning connection cursor answer) :=
  (executed allows .null cursor answer).asked

end Apart

/-- What comes of a block. Its body runs unless the block is refused. -/
inductive Enclosed (engine : Engine τ) (database : Database) (body : Action σ α) (state : σ)
    (start : τ) : Run σ τ α → Prop where
  | refused (failure : Failure) (final : τ) {exchanges : List Exchange}
      (outside : Apart [beginText] exchanges) :
      Enclosed engine database body state start ⟨.error failure, state, final, exchanges⟩
  | joined {connection : Connection} (opened : database.connection = some connection) {middle : τ}
      {ran : Run σ τ α} (runs : body.runOn engine state middle = ran) :
      Enclosed engine database body state start
        { ran with exchanges := ⟨.inTransaction connection, true⟩ :: ran.exchanges }
  | committed {connection : Connection} (opened : database.connection = some connection) {middle : τ}
      {ran : Run σ τ α} (runs : body.runOn engine state middle = ran) {value : α}
      (returns : ran.outcome = .ok value) (first last : Cursor) (begun ended : RunResult) (final : τ) :
      Enclosed engine database body state start
        ⟨.ok value, ran.state, final, beginning connection first (.ok begun) ++ ran.exchanges ++
          executed connection commitText .null last (.ok ended)⟩
  | failed {connection : Connection} (opened : database.connection = some connection) {middle : τ}
      {ran : Run σ τ α} (runs : body.runOn engine state middle = ran) (first : Cursor)
      (begun : RunResult) {after : List Exchange} (outside : Apart [commitText, rollbackText] after)
      (failure : Failure) (final : τ) :
      Enclosed engine database body state start
        ⟨.error failure, ran.state, final,
          beginning connection first (.ok begun) ++ ran.exchanges ++ after⟩

variable (engine : Engine τ) {database : Database} {connection : Connection}
  (opened : database.connection = some connection) (state : σ) (start : τ)

include opened in
theorem runOn_run (sql : String) (parameters : Value) :
    ∃ cursor answer final, (database.run sql parameters).runOn engine state start =
      ⟨Except.mapError (fun cause => (Failure.outside cause).attach sql parameters) answer, state,
        final, executed connection sql parameters cursor answer⟩ := by
  obtain ⟨cursor, answer, final, -, executes⟩ := runOn_execute engine state start opened sql parameters
  refine ⟨cursor, answer, final, ?_⟩
  rw [Database.run, runOn_bind, executes]
  cases answer <;> simp [Run.follow, Except.mapError]

/-- What comes of leaving a block. -/
inductive Left (connection : Connection) (state : σ) (outcome : Except Failure α) :
    Run σ τ Unit → Prop where
  | committed {value : α} (returns : outcome = .ok value) (cursor : Cursor) (result : RunResult)
      (final : τ) :
      Left connection state outcome
        ⟨.ok (), state, final, executed connection commitText .null cursor (.ok result)⟩
  | failed (failure : Failure) (final : τ) {exchanges : List Exchange}
      (outside : Apart [commitText, rollbackText] exchanges) :
      Left connection state outcome ⟨.error failure, state, final, exchanges⟩

include opened in
theorem leave_left (outcome : Except Failure α) :
    Left connection state outcome ((database.leave outcome).runOn engine state start) := by
  cases outcome with
  | ok value =>
      obtain ⟨cursor, answer, final, runs⟩ := runOn_run engine opened state start commitText .null
      rw [leave, runOn_bind, ← commitText, runs]
      cases answer with
      | ok result => exact .committed rfl cursor result final
      | error cause => exact .failed _ final (.executed List.mem_cons_self _ _ _)
  | error failure =>
      rw [leave, runOn_bind, runOn_inTransaction opened, Run.follow]
      generalize engine.answer (.inTransaction connection) start = told
      obtain ⟨stillOpen, next⟩ := told
      cases stillOpen with
      | false => exact .failed failure next Apart.nil.asked
      | true =>
          obtain ⟨cursor, answer, final, runs⟩ := runOn_run engine opened state next rollbackText .null
          simp only [if_true, runOn_bind]
          rw [← rollbackText, runs]
          have outside : Apart [commitText, rollbackText] (⟨.inTransaction connection, true⟩ ::
              executed connection rollbackText .null cursor answer) :=
            (Apart.executed (by simp) _ _ _).asked
          cases answer with
          | ok result => exact .failed failure final outside
          | error cause => exact .failed _ final outside

variable (database) in
theorem transaction_enclosed (body : Action σ α) :
    Enclosed engine database body state start
      ((database.transaction body).runOn engine state start) := by
  cases opened : database.connection with
  | none =>
      simp only [transaction, enter, inTransaction, connected, opened, runOn_bind, runOn_throw,
        Run.follow]
      exact .refused _ start .nil
  | some connection =>
      rw [transaction, runOn_bind]
      cases told : (engine.answer (.inTransaction connection) start).1 with
      | true =>
          simp only [enter, runOn_bind, runOn_inTransaction opened, told, Run.follow, if_true,
            runOn_pure, Bool.false_eq_true, if_false, List.append_nil]
          exact .joined opened rfl
      | false =>
          obtain ⟨cursor, answer, middle, -, begins⟩ := runOn_enter opened state told
          rw [begins]
          cases answer with
          | error cause => exact .refused _ middle (.begun List.mem_cons_self)
          | ok begun =>
              simp only [Run.follow, if_true, runOn_afterwards, Run.afterwards]
              generalize runs : body.runOn engine state middle = ran
              have left := leave_left engine opened ran.state ran.final ran.outcome
              generalize (database.leave ran.outcome).runOn engine ran.state ran.final = last at left
              cases left with
              | committed returns last result final =>
                  rw [returns, ← List.append_assoc]
                  exact .committed opened runs returns cursor last begun result final
              | failed failure final outside =>
                  rw [← List.append_assoc]
                  exact .failed opened runs cursor begun outside failure final

end Database

end Tabular
