import Tabular.Proofs.Engine.Guarded

/-!
This module tells which statement is to blame for a failure. An action raises the failure of the last
statement that failed while it ran, and without such a statement no failure of the engine.
-/

namespace Tabular

open Tabular.Action

variable {σ τ υ α β : Type}

namespace Exchange

/-- The failure of a statement, of a script, or of rows that are asked for. -/
def fault? : Exchange → Option Outside
  | ⟨.execute _ _ _, .error cause⟩ => some cause
  | ⟨.script _ _, .error cause⟩ => some cause
  | ⟨.fetchOne _, .error cause⟩ => some cause
  | ⟨.fetchMany _ _, .error cause⟩ => some cause
  | ⟨.fetchAll _, .error cause⟩ => some cause
  | ⟨.rows _, (_, ending)⟩ => ending
  | _ => none

def Faultless (exchanges : List Exchange) : Prop := ∀ exchange ∈ exchanges, exchange.fault? = none

instance (exchanges : List Exchange) : Decidable (Faultless exchanges) :=
  inferInstanceAs (Decidable (∀ exchange ∈ exchanges, exchange.fault? = none))

theorem Faultless.nil : Faultless [] := List.forall_mem_nil _

/-- Two parts in which nothing failed make one in which nothing failed. -/
theorem Faultless.append {first second : List Exchange} (faultless : Faultless first)
    (others : Faultless second) : Faultless (first ++ second) :=
  List.forall_mem_append.mpr ⟨faultless, others⟩

/-- Nothing failed in the first of two parts when nothing failed in both. -/
theorem Faultless.left {first second : List Exchange} (faultless : Faultless (first ++ second)) :
    Faultless first := (List.forall_mem_append.mp faultless).1

/-- Nor did anything in the second. -/
theorem Faultless.right {first second : List Exchange} (faultless : Faultless (first ++ second)) :
    Faultless second := (List.forall_mem_append.mp faultless).2

/-- The statement that was executed on a cursor. -/
def executedOn? (cursor : Cursor) : Exchange → Option (String × Value)
  | ⟨.execute place sql parameters, _⟩ => if place = cursor then some (sql, parameters) else none
  | _ => none

/-- The last statement that was executed on a cursor, whether or not it failed. -/
def lastOn (cursor : Cursor) (exchanges : List Exchange) : Option (String × Value) :=
  (exchanges.filterMap (executedOn? cursor)).getLast?

/-- The last statement of a cursor stands in the second part, or else in the first. -/
theorem lastOn_append (cursor : Cursor) (first second : List Exchange) :
    lastOn cursor (first ++ second) = (lastOn cursor second).or (lastOn cursor first) := by
  rw [lastOn, List.filterMap_append, List.getLast?_append, lastOn, lastOn]

/-- The statement to which a request belongs. Rows belong to the last statement on their cursor. -/
def owner? (before : List Exchange) : Request → Option (String × Value)
  | .execute _ sql parameters => some (sql, parameters)
  | .script _ text => some (text, .tuple [])
  | request => request.source?.bind fun cursor => lastOn cursor before

/-- A request for rows belongs to the statement that its cursor executed last. -/
theorem owner?_source {request : Request} {cursor : Cursor} (asks : request.source? = some cursor)
    (before : List Exchange) : owner? before request = lastOn cursor before := by
  cases request with
  | execute | script => exact nomatch asks
  | _ => simp [owner?, asks]

/-- What was executed before does not change whom a request belongs to. -/
theorem owner?_older {request : Request} {earlier : List Exchange} {owner : String × Value}
    (owned : owner? earlier request = some owner) (before : List Exchange) :
    owner? (before ++ earlier) request = some owner := by
  cases asks : request.source? with
  | some cursor =>
      rw [owner?_source asks] at owned ⊢
      rw [lastOn_append, owned, Option.some_or]
  | none =>
      cases request with
      | execute | script => exact owned
      | _ => simp [owner?, asks] at owned

/-- The last statement that failed raised this failure. What was executed before may have given its
rows. -/
structure Blamed (before exchanges : List Exchange) (failure : Failure) : Prop where
  raised : ∃ earlier failing later cause sql parameters,
    exchanges = earlier ++ failing :: later ∧ failing.fault? = some cause ∧ Faultless later ∧
    owner? (before ++ earlier) failing.request = some (sql, Database.driverParameters parameters) ∧
    failure = (Failure.outside cause).attach sql parameters

namespace Blamed

variable {before exchanges : List Exchange} {failure : Failure}

/-- An exchange that fails at the end of a run is to blame. -/
theorem single (earlier : List Exchange) {failing : Exchange} {cause : Outside}
    (fails : failing.fault? = some cause) {sql : String} {parameters : Value}
    (owned : owner? (before ++ earlier) failing.request =
      some (sql, Database.driverParameters parameters)) :
    Blamed before (earlier ++ [failing]) ((Failure.outside cause).attach sql parameters) :=
  ⟨earlier, failing, [], cause, sql, parameters, rfl, fails, .nil, owned, rfl⟩

/-- Where an exchange is to blame, something failed. -/
theorem not_faultless (blamed : Blamed before exchanges failure) : ¬ Faultless exchanges := by
  obtain ⟨earlier, failing, later, cause, _, _, rfl, fails, -⟩ := blamed.raised
  intro faultless
  have none := faultless failing (by simp)
  exact nomatch none.symm.trans fails

/-- What went before a run can be counted as a part of it. -/
theorem after {first : List Exchange} (blamed : Blamed (before ++ first) exchanges failure) :
    Blamed before (first ++ exchanges) failure := by
  obtain ⟨earlier, failing, later, cause, sql, parameters, rfl, fails, faultless, owned, same⟩ :=
    blamed.raised
  refine ⟨first ++ earlier, failing, later, cause, sql, parameters, ?_, fails, faultless, ?_, same⟩
  · rw [List.append_assoc]
  · rw [← List.append_assoc, owned]

/-- What does not fail afterwards leaves the blame where it is. -/
theorem followed (blamed : Blamed before exchanges failure) {others : List Exchange}
    (faultless : Faultless others) : Blamed before (exchanges ++ others) failure := by
  obtain ⟨earlier, failing, later, cause, sql, parameters, rfl, fails, none, owned, same⟩ :=
    blamed.raised
  refine ⟨earlier, failing, later ++ others, cause, sql, parameters, ?_, fails, ?_, owned, same⟩
  · rw [List.append_assoc, List.cons_append]
  · exact none.append faultless

/-- Where only the last exchange can have failed, it is to blame. -/
theorem atLast {earlier : List Exchange} {failing : Exchange}
    (blamed : Blamed before (earlier ++ [failing]) failure) (faultless : Faultless earlier) :
    ∃ cause sql parameters, failing.fault? = some cause ∧
      owner? (before ++ earlier) failing.request = some (sql, Database.driverParameters parameters) ∧
      failure = (Failure.outside cause).attach sql parameters := by
  obtain ⟨others, failed, later, cause, sql, parameters, split, fails, -, owned, same⟩ :=
    blamed.raised
  rcases List.eq_nil_or_concat later with rfl | ⟨middle, last, rfl⟩
  · obtain ⟨rfl, only⟩ := List.append_inj' split rfl
    cases only
    exact ⟨cause, sql, parameters, fails, owned, same⟩
  · -- The exchange to blame would come earlier, where nothing failed.
    rw [List.concat_eq_append, ← List.cons_append, ← List.append_assoc] at split
    obtain ⟨rfl, -⟩ := List.append_inj' split rfl
    have none := faultless failed (List.mem_append_right _ List.mem_cons_self)
    exact nomatch none.symm.trans fails

/-- The blame does not depend on what was executed before. -/
theorem older (blamed : Blamed [] exchanges failure) (before : List Exchange) :
    Blamed before exchanges failure := by
  obtain ⟨earlier, failing, later, cause, sql, parameters, split, fails, none, owned, same⟩ :=
    blamed.raised
  exact ⟨earlier, failing, later, cause, sql, parameters, split, fails, none,
    owner?_older owned before, same⟩

end Blamed

end Exchange

open Exchange

/-! ## Runs -/

/-- A run in which nothing failed ends without a failure of the engine. Any other one raises the last
failure. -/
inductive Run.Attributed (before : List Exchange) (run : Run σ τ α) : Prop where
  | calm (faultless : Faultless run.exchanges)
      (own : ∀ failure, run.outcome = .error failure → failure.isReported = false)
  | struck {failure : Failure} (raises : run.outcome = .error failure)
      (blamed : Blamed before run.exchanges failure)

/-- A run went on after one statement failed, because a key was taken. Afterwards nothing failed. -/
structure Run.Recovered (run : Run σ τ α) : Prop where
  once : ∃ earlier failing later cause sql parameters,
    run.exchanges = earlier ++ failing :: later ∧ Faultless earlier ∧ failing.fault? = some cause ∧
    Faultless later ∧
    owner? earlier failing.request = some (sql, Database.driverParameters parameters) ∧
    ((Failure.outside cause).attach sql parameters).isEngine = true ∧
    ((Failure.outside cause).attach sql parameters).isUniqueViolation = true
  own : ∀ failure, run.outcome = .error failure → failure.isReported = false

/-- A run that follows an outcome returns, raises its own last failure, or raises the one of the outcome
again. -/
inductive Run.Closes (before : List Exchange) (outcome : Except Failure α) (run : Run σ τ Unit) :
    Prop where
  | returned (faultless : Faultless run.exchanges) (returns : run.outcome = .ok ())
  | raised (faultless : Faultless run.exchanges) {failure : Failure} (failed : outcome = .error failure)
      (again : run.outcome = .error failure)
  | struck {failure : Failure} (raises : run.outcome = .error failure)
      (blamed : Blamed before run.exchanges failure)

/-- Wrapping the value of a run keeps how it recovered. -/
theorem Run.Recovered.map {run : Run σ τ α} (recovered : run.Recovered) (wrap : α → β) (state : υ)
    (final : τ) :
    (⟨run.outcome.map wrap, state, final, run.exchanges⟩ : Run υ τ β).Recovered := by
  refine ⟨recovered.once, fun failure failed => ?_⟩
  cases ended : run.outcome with
  | ok value =>
      rw [ended] at failed
      exact nomatch failed
  | error other =>
      rw [ended] at failed
      cases failed
      exact recovered.own _ ended

namespace Run.Attributed

variable {before : List Exchange} {first : Run σ τ α}

/-- A run that returned and in which nothing failed. -/
theorem still (faultless : Faultless first.exchanges) {value : α} (returns : first.outcome = .ok value) :
    first.Attributed before := by
  refine .calm faultless fun failure failed => ?_
  rw [returns] at failed
  cases failed

/-- A run that is attributed from the start is so after every history. -/
theorem older (attributed : first.Attributed []) (before : List Exchange) :
    first.Attributed before := by
  cases attributed with
  | calm faultless own => exact .calm faultless own
  | struck raises blamed => exact .struck raises (blamed.older before)

/-- The state after a run does not matter. -/
theorem elsewhere (attributed : first.Attributed before) (state : υ) (final : τ) :
    (⟨first.outcome, state, final, first.exchanges⟩ : Run υ τ α).Attributed before := by
  cases attributed with
  | calm faultless own => exact .calm faultless own
  | struck raises blamed => exact .struck raises blamed

/-- Where a run failed, its value does not matter either. -/
theorem refused (attributed : first.Attributed before) {failure : Failure}
    (fails : first.outcome = .error failure) (state : υ) (final : τ) :
    (⟨.error failure, state, final, first.exchanges⟩ : Run υ τ β).Attributed before := by
  cases attributed with
  | struck raises blamed =>
      cases fails.symm.trans raises
      exact .struck rfl blamed
  | calm faultless own =>
      refine .calm faultless fun other failed => ?_
      cases failed
      exact own failure fails

/-- Nothing fails after the run. -/
theorem followed (attributed : first.Attributed before) {others : List Exchange}
    (faultless : Faultless others) :
    Run.Attributed before ({ first with exchanges := first.exchanges ++ others } : Run σ τ α) := by
  cases attributed with
  | calm none own => exact .calm (none.append faultless) own
  | struck raises blamed => exact .struck raises (blamed.followed faultless)

/-- Where a run returned, nothing failed. -/
theorem returned (attributed : first.Attributed before) {value : α} (returns : first.outcome = .ok value)
    (result : β) (state : υ) (final : τ) :
    (⟨.ok result, state, final, first.exchanges⟩ : Run υ τ β).Attributed before := by
  cases attributed with
  | calm faultless own => exact .still faultless rfl
  | struck raises blamed => exact nomatch returns.symm.trans raises

/-- Wrapping the value of a run keeps its attribution. -/
theorem map (attributed : first.Attributed before) (wrap : α → β) (state : υ) (final : τ) :
    (⟨first.outcome.map wrap, state, final, first.exchanges⟩ : Run υ τ β).Attributed before := by
  cases ended : first.outcome with
  | error failure => exact attributed.refused ended state final
  | ok value => exact attributed.returned ended (wrap value) state final

/-- Two attributed runs, one after the other, are attributed. -/
theorem follow {next : α → σ → τ → Run σ τ β} (attributed : first.Attributed before)
    (rest : ∀ value, first.outcome = .ok value →
      (next value first.state first.final).Attributed (before ++ first.exchanges)) :
    (first.follow next).Attributed before := by
  unfold Run.follow
  cases attributed with
  | struck raises blamed =>
      simp only [raises]
      exact .struck rfl blamed
  | calm faultless own =>
      cases ended : first.outcome with
      | error failure =>
          rw [ended] at own
          refine .calm faultless ?_
          simpa using own
      | ok value =>
          cases rest value ended with
          | calm others free => exact .calm (faultless.append others) free
          | struck raises blamed => exact .struck raises blamed.after

/-- A run stays attributed when the one that closes it ends as it should. -/
theorem afterwards {last : Except Failure α → σ → τ → Run σ τ Unit}
    (attributed : first.Attributed before)
    (closes : (last first.outcome first.state first.final).Closes (before ++ first.exchanges)
      first.outcome) :
    (first.afterwards last).Attributed before := by
  unfold Run.afterwards
  generalize last first.outcome first.state first.final = rest at closes
  -- What follows does not fail of its own, so that the outcome stays.
  have keeps (faultless : Faultless rest.exchanges)
      (same : rest.outcome.bind (fun _ => first.outcome) = first.outcome) :
      Run.Attributed before ({ rest with
        outcome := rest.outcome.bind fun _ => first.outcome
        exchanges := first.exchanges ++ rest.exchanges } : Run σ τ α) := by
    cases attributed with
    | calm none own => exact .calm (none.append faultless) fun failure failed => own failure (same ▸ failed)
    | struck raises blamed => exact .struck (same.trans raises) (blamed.followed faultless)
  cases closes with
  | returned faultless returns => exact keeps faultless (by rw [returns]; rfl)
  | raised faultless failed again => exact keeps faultless (by rw [again, failed]; rfl)
  | struck raises blamed => exact .struck (by simp only [raises]; rfl) blamed.after

end Run.Attributed

/-! ## Actions -/

namespace Action

/-- Every run of an action raises the last failure of a statement, if there is one. -/
def Attributes (action : Action σ α) : Prop :=
  ∀ ⦃τ : Type⦄ (engine : Engine τ) state start, (action.runOn engine state start).Attributed []

namespace Attributes

variable {action : Action σ α} {next : α → Action σ β}

theorem pure (value : α) : Attributes (Pure.pure value : Action σ α) :=
  fun _ _ _ _ => .still .nil rfl

theorem get : Attributes (MonadState.get : Action σ σ) :=
  fun _ _ _ _ => .still .nil rfl

theorem modify (change : σ → σ) : Attributes (modifyThe σ change : Action σ PUnit) :=
  fun _ _ _ _ => .still .nil rfl

/-- Throwing a failure of its own raises nothing in the name of a statement. -/
theorem throw {failure : Failure} (own : failure.isReported = false) :
    Attributes (MonadExcept.throw failure : Action σ α) := by
  intro τ engine state start
  refine .calm .nil fun other failed => ?_
  obtain rfl := Except.error.inj failed
  exact own

/-- A computation raises nothing in the name of a statement. -/
theorem lift {outcome : Except Failure α} (computed : Computed outcome) :
    Attributes (liftM outcome : Action σ α) := by
  intro τ engine state start
  refine .calm .nil fun failure failed => ?_
  have own := computed failure failed
  simp only [Failure.isComputed, Bool.and_eq_true, Bool.not_eq_true'] at own
  exact own.1

/-- A request that cannot fail raises nothing. -/
theorem ask {request : Request} (silent : ∀ answer, Exchange.fault? ⟨request, answer⟩ = none) :
    Attributes (Action.ask request : Action σ request.Answer) :=
  fun _ _ _ _ => .still (List.forall_mem_singleton.mpr (silent _)) rfl

theorem log (level : Level) (logger message : String) :
    Attributes (Action.log level logger message : Action σ Unit) := ask fun _ => rfl

/-- Attributed actions are attributed one after the other. -/
theorem bind (first : Attributes action) (rest : ∀ value, Attributes (next value)) :
    Attributes (action >>= next) := by
  intro τ engine state start
  rw [runOn_bind]
  exact (first engine state start).follow fun value _ => (rest value engine _ _).older _

/-- An action that is followed by another one in any case. -/
theorem afterwards {last : Except Failure α → Action σ Unit} (first : Attributes action)
    (closes : ∀ ⦃τ : Type⦄ (engine : Engine τ) outcome state start before,
      ((last outcome).runOn engine state start).Closes before outcome) :
    Attributes (attempt action >>= fun outcome => last outcome >>= fun _ => resume outcome) := by
  intro τ engine state start
  rw [runOn_afterwards]
  exact (first engine state start).afterwards (closes engine _ _ _ _)

/-- An action that only fails where the engine does returns when nothing fails. -/
theorem returns (attributes : Attributes action) (relays : Relays action) (engine : Engine τ)
    (state : σ) (start : τ) (faultless : Faultless (action.runOn engine state start).exchanges) :
    ∃ value, (action.runOn engine state start).outcome = .ok value := by
  cases ended : (action.runOn engine state start).outcome with
  | ok value => exact ⟨value, rfl⟩
  | error failure =>
      have reported := relays engine state start failure ended
      cases attributes engine state start with
      | calm _ own =>
          simp only [own failure ended, Bool.not_false, Bool.true_eq_false] at reported
      | struck raises blamed => exact absurd faultless blamed.not_faultless

end Attributes

/-- From every state in which something holds, an action is attributed and it holds again. -/
def AttributesWhile (holds : σ → Prop) (action : Action σ α) : Prop :=
  ∀ ⦃τ : Type⦄ (engine : Engine τ) state start, holds state →
    (action.runOn engine state start).Attributed [] ∧ holds (action.runOn engine state start).state

namespace AttributesWhile

variable {holds : σ → Prop} {action : Action σ α} {next : α → Action σ β}

/-- An attributed action that keeps a property of the state is attributed while it holds. -/
theorem ofAttributes (attributes : Attributes action)
    (keeps : ∀ ⦃τ : Type⦄ (engine : Engine τ) state start, holds state →
      holds (action.runOn engine state start).state) : AttributesWhile holds action :=
  fun _ engine state start held => ⟨attributes engine state start, keeps engine state start held⟩

/-- Two such actions are attributed while the property holds one after the other. -/
theorem bind (first : AttributesWhile holds action) (rest : ∀ value, AttributesWhile holds (next value)) :
    AttributesWhile holds (action >>= next) := by
  intro τ engine state start held
  obtain ⟨attributed, stays⟩ := first engine state start held
  rw [runOn_bind]
  constructor
  · exact attributed.follow fun value _ => (rest value engine _ _ stays).1.older _
  · rw [Run.follow]
    cases (action.runOn engine state start).outcome with
    | ok value => exact (rest value engine _ _ stays).2
    | error failure => exact stays

/-- Closing such an action keeps its attribution and the property. -/
theorem afterwards {last : Except Failure α → Action σ Unit} (first : AttributesWhile holds action)
    (closes : ∀ ⦃τ : Type⦄ (engine : Engine τ) outcome state start before,
      ((last outcome).runOn engine state start).Closes before outcome)
    (stays : ∀ ⦃τ : Type⦄ (engine : Engine τ) outcome state start,
      ((last outcome).runOn engine state start).state = state) :
    AttributesWhile holds
      (attempt action >>= fun outcome => last outcome >>= fun _ => resume outcome) := by
  intro τ engine state start held
  obtain ⟨attributed, kept⟩ := first engine state start held
  rw [runOn_afterwards]
  refine ⟨attributed.afterwards (closes engine _ _ _ _), ?_⟩
  rw [Run.afterwards, stays]
  exact kept

end AttributesWhile

/-- A run of an action stops at the first statement that fails. -/
def Halts (action : Action σ α) : Prop :=
  ∀ ⦃τ : Type⦄ (engine : Engine τ) state start,
    Faultless (action.runOn engine state start).exchanges ∨
    ∃ earlier failing failure, (action.runOn engine state start).exchanges = earlier ++ [failing] ∧
      Faultless earlier ∧ (action.runOn engine state start).outcome = .error failure

namespace Halts

variable {action : Action σ α} {next : α → Action σ β}

theorem lift (outcome : Except Failure α) : Halts (liftM outcome : Action σ α) :=
  fun _ _ _ _ => .inl .nil

/-- An action that halts, followed by one that halts, stops at the first failure of either. -/
theorem bind (first : Halts action) (rest : ∀ value, Halts (next value)) :
    Halts (action >>= next) := by
  intro τ engine state start
  rw [runOn_bind, Run.follow]
  rcases first engine state start with faultless | ⟨earlier, failing, failure, split, none, raises⟩
  · cases ended : (action.runOn engine state start).outcome with
    | error failure => exact .inl faultless
    | ok value =>
        rcases rest value engine (action.runOn engine state start).state
            (action.runOn engine state start).final with
          others | ⟨earlier, failing, failure, split, none, raises⟩
        · exact .inl (faultless.append others)
        · refine .inr ⟨_ ++ earlier, failing, failure, ?_, faultless.append none, raises⟩
          simp only [split, List.append_assoc]
  · simp only [raises]
    exact .inr ⟨earlier, failing, failure, split, none, rfl⟩

end Halts

/-- A run after a failure raises it again, or it goes on because a key was taken. -/
inductive Resumes (failure : Failure) (run : Run σ τ α) : Prop where
  | again (faultless : Faultless run.exchanges) (raises : run.outcome = .error failure)
  | other (taken : (failure.isEngine && failure.isUniqueViolation) = true)
      (attributed : run.Attributed [])

/-- What is found before the action that goes on. -/
theorem Resumes.after {failure : Failure}
    (taken : (failure.isEngine && failure.isUniqueViolation) = true) {action : Action σ α}
    {next : α → Action σ β} (attributes : Attributes action) (engine : Engine τ)
    (rest : ∀ value state start, Resumes failure ((next value).runOn engine state start)) (state : σ)
    (start : τ) : Resumes failure ((action >>= next).runOn engine state start) := by
  rw [runOn_bind, Run.follow]
  cases attributes engine state start with
  | struck raises blamed =>
      simp only [raises]
      exact .other taken (.struck rfl blamed)
  | calm faultless own =>
      cases ended : (action.runOn engine state start).outcome with
      | error other =>
          refine .other taken (.calm faultless fun _ same => ?_)
          cases same
          exact own other ended
      | ok value =>
          cases rest value (action.runOn engine state start).state
              (action.runOn engine state start).final with
          | again others raises => exact .again (faultless.append others) raises
          | other _ attributed =>
              cases attributed with
              | calm others free => exact .other taken (.calm (faultless.append others) free)
              | struck raises blamed => exact .other taken (.struck raises (blamed.older _).after)

/-- An action is attempted, and another one goes on where a key was taken. -/
theorem attempt_settled {action : Action σ α} {handle : Except Failure α → Action σ β}
    (attributes : Attributes action) (halts : Halts action)
    (calm : ∀ outcome, (∀ failure, outcome = .error failure → failure.isReported = false) →
      Attributes (handle outcome))
    (resumes : ∀ ⦃τ : Type⦄ (engine : Engine τ) failure state start,
      Resumes failure ((handle (.error failure)).runOn engine state start))
    (engine : Engine τ) (state : σ) (start : τ) :
    ((attempt action >>= handle).runOn engine state start).Attributed [] ∨
      ((attempt action >>= handle).runOn engine state start).Recovered := by
  have stops := halts engine state start
  simp only [runOn_bind, runOn_attempt, Run.follow]
  cases attributes engine state start with
  | calm faultless own =>
      cases calm _ own engine (action.runOn engine state start).state
          (action.runOn engine state start).final with
      | calm others free => exact .inl (.calm (faultless.append others) free)
      | struck raises blamed => exact .inl (.struck raises (blamed.older _).after)
  | @struck failure raises blamed =>
      rw [raises]
      have goesOn := resumes engine failure (action.runOn engine state start).state
        (action.runOn engine state start).final
      generalize (handle (.error failure)).runOn engine (action.runOn engine state start).state
        (action.runOn engine state start).final = rest at goesOn
      cases goesOn with
      | again faultless again => exact .inl (.struck again (blamed.followed faultless))
      | other taken attributed =>
          cases attributed with
          | struck raises others => exact .inl (.struck raises (others.older _).after)
          | calm faultless own =>
              rw [Bool.and_eq_true] at taken
              rcases stops with none | ⟨earlier, failing, _, split, none, -⟩
              · exact absurd none blamed.not_faultless
              · -- The action stopped at the exchange to blame, and nothing failed before it.
                rw [split] at blamed
                obtain ⟨cause, sql, parameters, fails, owned, rfl⟩ := blamed.atLast none
                refine .inr ⟨⟨earlier, failing, rest.exchanges, cause, sql, parameters, ?_, none, fails,
                  faultless, owned, taken.1, taken.2⟩, own⟩
                rw [split, List.append_assoc]
                rfl

end Action

end Tabular
