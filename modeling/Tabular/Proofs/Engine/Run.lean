import Tabular.Engine

/-!
This module runs actions against an engine. A run keeps its exchanges, also where it fails, and the
run of an action is put together from those of its parts.
-/

namespace Tabular

variable {σ τ α β : Type}

/-- What comes of an action that runs against an engine. -/
structure Run (σ τ α : Type) where
  outcome : Except Failure α
  state : σ
  final : τ
  exchanges : List Exchange

namespace Run

/-- This function goes on after a run that did not fail. -/
def follow (first : Run σ τ α) (next : α → σ → τ → Run σ τ β) : Run σ τ β :=
  match first.outcome with
  | .ok value =>
      let rest := next value first.state first.final
      { rest with exchanges := first.exchanges ++ rest.exchanges }
  | .error failure => ⟨.error failure, first.state, first.final, first.exchanges⟩

/-- This function goes on after a run whether or not it failed, and then returns to its outcome. -/
def afterwards (first : Run σ τ α) (last : Except Failure α → σ → τ → Run σ τ Unit) : Run σ τ α :=
  let rest := last first.outcome first.state first.final
  { rest with
    outcome := rest.outcome.bind fun _ => first.outcome
    exchanges := first.exchanges ++ rest.exchanges }

section

variable {holds : σ → List Exchange → σ → Prop}
  (append : ∀ {before middle after earlier later}, holds before earlier middle →
    holds middle later after → holds before (earlier ++ later) after)
  {state : σ} {first : Run σ τ α}

include append

/-- What holds from state to state along two runs holds along both together. -/
theorem follow_keeps {next : α → σ → τ → Run σ τ β}
    (starts : holds state first.exchanges first.state)
    (goes : ∀ value, first.outcome = .ok value →
      holds first.state (next value first.state first.final).exchanges
        (next value first.state first.final).state) :
    holds state (first.follow next).exchanges (first.follow next).state := by
  rw [follow]
  cases ended : first.outcome with
  | ok value => exact append starts (goes value ended)
  | error failure => exact starts

/-- A closing run keeps what its own exchanges keep. -/
theorem afterwards_keeps {last : Except Failure α → σ → τ → Run σ τ Unit}
    (starts : holds state first.exchanges first.state)
    (goes : holds first.state (last first.outcome first.state first.final).exchanges
      (last first.outcome first.state first.final).state) :
    holds state (first.afterwards last).exchanges (first.afterwards last).state :=
  append starts goes

end

/-- Something holds of the exchanges and the value of a run, unless it fails. -/
structure Ends (run : Run σ τ α) (holds : List Exchange → α → Prop) : Prop where
  holds : ∀ value, run.outcome = .ok value → holds run.exchanges value

end Run

/-- A recorded engine answers as before and writes down what it was asked. -/
theorem Engine.recorded_answer (engine : Engine τ) (request : Request) (start : τ)
    (before : List Exchange) :
    engine.recorded.answer request (start, before) =
      ((engine.answer request start).1, (engine.answer request start).2,
        before ++ [⟨request, (engine.answer request start).1⟩]) := rfl

/-- A run that starts with exchanges adds its own ones. -/
theorem Program.run_recorded (engine : Engine τ) (program : Program α) (start : τ)
    (before : List Exchange) :
    program.run engine.recorded (start, before) =
      ((program.run engine.recorded (start, [])).1,
        (program.run engine.recorded (start, [])).2.1,
        before ++ (program.run engine.recorded (start, [])).2.2) := by
  induction program generalizing start before with
  | done result => simp [Program.run]
  | ask request next inductionHypothesis =>
      simp only [Program.run, Engine.recorded_answer]
      rw [inductionHypothesis _ _ (before ++ _), inductionHypothesis _ _ ([] ++ _)]
      simp only [List.append_assoc, List.nil_append]

namespace Action

/-! The program of an action is put together from those of its parts. -/

/-- An action that follows another starts where this one returned. -/
theorem start_bind (action : Action σ α) (next : α → Action σ β) (state : σ) :
    (action >>= next).start state = (action.start state).bind fun ended =>
      match ended with
      | (.ok value, state) => (next value).start state
      | (.error failure, state) => .done (.error failure, state) := by
  refine congrArg (Program.bind (action.start state)) (funext fun ended => ?_)
  obtain ⟨outcome, state⟩ := ended
  cases outcome <;> rfl

/-- An attempted action returns its outcome. -/
theorem start_attempt (action : Action σ α) (state : σ) :
    (attempt action).start state = (action.start state).bind fun ended =>
      .done (.ok ended.1, ended.2) := rfl

/-- This function runs an action that starts in a state against an engine. -/
def runOn (engine : Engine τ) (action : Action σ α) (state : σ) (start : τ) : Run σ τ α :=
  let ended := (action.start state).run engine.recorded (start, [])
  ⟨ended.1.1, ended.1.2, ended.2.1, ended.2.2⟩

variable (engine : Engine τ) (state : σ) (start : τ)

@[simp] theorem runOn_pure (value : α) :
    (pure value : Action σ α).runOn engine state start = ⟨.ok value, state, start, []⟩ := rfl

/-- A thrown failure ends the run with no exchange. -/
@[simp] theorem runOn_throw (failure : Failure) :
    (throw failure : Action σ α).runOn engine state start = ⟨.error failure, state, start, []⟩ := rfl

/-- A resumed outcome ends the run with no exchange. -/
@[simp] theorem runOn_resume (outcome : Except Failure α) :
    (resume outcome : Action σ α).runOn engine state start = ⟨outcome, state, start, []⟩ := rfl

@[simp] theorem runOn_lift (outcome : Except Failure α) :
    (liftM outcome : Action σ α).runOn engine state start = ⟨outcome, state, start, []⟩ := rfl

/-- Reading the state changes nothing. -/
@[simp] theorem runOn_get :
    (get : Action σ σ).runOn engine state start = ⟨.ok state, state, start, []⟩ := rfl

/-- Setting the state asks nothing of the engine. -/
@[simp] theorem runOn_set (next : σ) :
    (set next : Action σ PUnit).runOn engine state start = ⟨.ok ⟨⟩, next, start, []⟩ := rfl

/-- Nor does changing it. -/
@[simp] theorem runOn_modify (change : σ → σ) :
    (modify change : Action σ PUnit).runOn engine state start =
      ⟨.ok ⟨⟩, change state, start, []⟩ := rfl

@[simp] theorem runOn_modifyGet (change : σ → α × σ) :
    (modifyGet change : Action σ α).runOn engine state start =
      ⟨.ok (change state).1, (change state).2, start, []⟩ := rfl

/-! An action that asks one request has the answer as its outcome. -/

@[simp] theorem runOn_time :
    runOn engine (α := Binary64) (ask .time : Action σ Binary64) state start =
      ⟨.ok (engine.answer .time start).1, state, (engine.answer .time start).2,
        [⟨.time, (engine.answer .time start).1⟩]⟩ := rfl

@[simp] theorem runOn_cursor (connection : Connection) :
    runOn engine (α := Cursor) (ask (.cursor connection) : Action σ Cursor) state start =
      ⟨.ok (engine.answer (.cursor connection) start).1, state,
        (engine.answer (.cursor connection) start).2,
        [⟨.cursor connection, (engine.answer (.cursor connection) start).1⟩]⟩ := rfl

@[simp] theorem runOn_inTransaction (connection : Connection) :
    runOn engine (α := Bool) (ask (.inTransaction connection) : Action σ Bool) state start =
      ⟨.ok (engine.answer (.inTransaction connection) start).1, state,
        (engine.answer (.inTransaction connection) start).2,
        [⟨.inTransaction connection, (engine.answer (.inTransaction connection) start).1⟩]⟩ := rfl

@[simp] theorem runOn_fetchOne (cursor : Cursor) :
    runOn engine (α := Except Outside (Option Row))
        (ask (.fetchOne cursor) : Action σ (Except Outside (Option Row))) state start =
      ⟨.ok (engine.answer (.fetchOne cursor) start).1, state,
        (engine.answer (.fetchOne cursor) start).2,
        [⟨.fetchOne cursor, (engine.answer (.fetchOne cursor) start).1⟩]⟩ := rfl

@[simp] theorem runOn_fetchAll (cursor : Cursor) :
    runOn engine (α := Except Outside (List Row))
        (ask (.fetchAll cursor) : Action σ (Except Outside (List Row))) state start =
      ⟨.ok (engine.answer (.fetchAll cursor) start).1, state,
        (engine.answer (.fetchAll cursor) start).2,
        [⟨.fetchAll cursor, (engine.answer (.fetchAll cursor) start).1⟩]⟩ := rfl

@[simp] theorem runOn_fetchMany (cursor : Cursor) (count : Int) :
    runOn engine (α := Except Outside (List Row))
        (ask (.fetchMany cursor count) : Action σ (Except Outside (List Row))) state start =
      ⟨.ok (engine.answer (.fetchMany cursor count) start).1, state,
        (engine.answer (.fetchMany cursor count) start).2,
        [⟨.fetchMany cursor count, (engine.answer (.fetchMany cursor count) start).1⟩]⟩ := rfl

@[simp] theorem runOn_rows (cursor : Cursor) :
    runOn engine (α := List Row × Option Outside)
        (ask (.rows cursor) : Action σ (List Row × Option Outside)) state start =
      ⟨.ok (engine.answer (.rows cursor) start).1, state, (engine.answer (.rows cursor) start).2,
        [⟨.rows cursor, (engine.answer (.rows cursor) start).1⟩]⟩ := rfl

@[simp] theorem runOn_advance (cursor : Cursor) (count : Nat) :
    runOn engine (α := Unit) (ask (.advance cursor count) : Action σ Unit) state start =
      ⟨.ok (), state, (engine.answer (.advance cursor count) start).2,
        [⟨.advance cursor count, ()⟩]⟩ := rfl

@[simp] theorem runOn_statement (cursor : Cursor) (sql : String) (parameters : Value) :
    runOn engine (α := Except Outside RunResult)
        (ask (.execute cursor sql parameters) : Action σ (Except Outside RunResult)) state start =
      ⟨.ok (engine.answer (.execute cursor sql parameters) start).1, state,
        (engine.answer (.execute cursor sql parameters) start).2,
        [⟨.execute cursor sql parameters,
          (engine.answer (.execute cursor sql parameters) start).1⟩]⟩ := rfl

/-- A log line is one exchange, and its answer says nothing. -/
@[simp] theorem runOn_log (level : Level) (logger message : String) :
    (log level logger message : Action σ Unit).runOn engine state start =
      ⟨.ok (), state, (engine.answer (.log ⟨level, logger, message⟩) start).2,
        [⟨.log ⟨level, logger, message⟩, ()⟩]⟩ := rfl

/-- A run of two actions is the run of the first, followed by the second where it returned. -/
theorem runOn_bind (action : Action σ α) (next : α → Action σ β) :
    (action >>= next).runOn engine state start =
      (action.runOn engine state start).follow fun value => (next value).runOn engine := by
  simp only [runOn, start_bind, Program.runBind]
  cases ended : (action.start state).run engine.recorded (start, []) with
  | mk result final =>
      obtain ⟨outcome, state⟩ := result
      cases outcome with
      | error failure => rfl
      | ok value =>
          simp only [Run.follow]
          rw [Program.run_recorded]
          rfl

/-- An action whose value is wrapped. -/
theorem runOn_wrap (wrap : α → β) (action : Action σ α) :
    (do pure (wrap (← action)) : Action σ β).runOn engine state start =
      let run := action.runOn engine state start
      ⟨run.outcome.map wrap, run.state, run.final, run.exchanges⟩ := by
  simp only [runOn_bind, Run.follow]
  generalize action.runOn engine state start = run
  obtain ⟨outcome, after, final, exchanges⟩ := run
  cases outcome <;> simp [Except.map]

/-- What two actions end with is put together from what each one ends with. -/
theorem ends_bind {action : Action σ α} {next : α → Action σ β} {first : List Exchange → α → Prop}
    {last : List Exchange → β → Prop} (ends : (action.runOn engine state start).Ends first)
    (rest : ∀ value exchanges, first exchanges value → ∀ state start,
      ((next value).runOn engine state start).Ends fun others => last (exchanges ++ others)) :
    ((action >>= next).runOn engine state start).Ends last := by
  constructor
  intro result outcome
  rw [runOn_bind, Run.follow] at outcome ⊢
  cases done : (action.runOn engine state start).outcome with
  | ok value =>
      rw [done] at outcome
      exact (rest value _ (ends.holds value done) _ _).holds result outcome
  | error failure =>
      rw [done] at outcome
      exact nomatch outcome

/-- An attempted action makes the same exchanges and returns its outcome. -/
@[simp] theorem runOn_attempt (action : Action σ α) :
    (attempt action).runOn engine state start =
      ⟨.ok (action.runOn engine state start).outcome, (action.runOn engine state start).state,
        (action.runOn engine state start).final, (action.runOn engine state start).exchanges⟩ := by
  simp only [runOn, start_attempt, Program.runBind]
  rfl

/-- An action on a part of a state leaves the rest of it as it is. -/
@[simp] theorem runOn_onPart {υ : Type} (part : υ → σ) (replace : υ → σ → υ) (action : Action σ α)
    (whole : υ) :
    (onPart part replace action).runOn engine whole start =
      ⟨(action.runOn engine (part whole) start).outcome,
        replace whole (action.runOn engine (part whole) start).state,
        (action.runOn engine (part whole) start).final,
        (action.runOn engine (part whole) start).exchanges⟩ := by
  have begins : (onPart part replace action).start whole =
      (action.start (part whole)).bind fun ended => .done (ended.1, replace whole ended.2) := rfl
  simp only [runOn, begins, Program.runBind]
  rfl

/-- The last action of a block runs after every outcome, and the outcome stays unless it fails. -/
theorem runOn_afterwards (action : Action σ α) (last : Except Failure α → Action σ Unit) :
    (attempt action >>= fun outcome => last outcome >>= fun _ => resume outcome).runOn
        engine state start =
      (action.runOn engine state start).afterwards fun outcome => (last outcome).runOn engine := by
  simp only [runOn_bind, runOn_attempt, runOn_resume, Run.follow, Run.afterwards]
  generalize action.runOn engine state start = first
  generalize (last first.outcome).runOn engine first.state first.final = rest
  cases rest.outcome with
  | ok value => simp [Except.bind]
  | error failure => rfl

end Action

end Tabular
