import Tabular.Proofs.Engine.Transaction

/-!
This module describes runs that do all of their planned statements or none of them. A transaction is
such a run, and it stays one when neutral statements are put before it and after it.
-/

namespace Tabular

open Tabular.Action Exchange

variable {σ τ α Content : Type}

/-- The commit, the rollback and the statements after the transaction do not fail. -/
structure EndsWell (closing : List String) (exchanges : List Exchange) : Prop where
  commits : Succeeds commitText exchanges
  rollsBack : Succeeds rollbackText exchanges
  closes : ∀ before after, exchanges = before ++ after → beginText ∈ texts before →
    ∀ sql ∈ closing, Succeeds sql after

/-- A run that was undone after a failure. Only a rollback follows, when the transaction is still
open, and the closing statements, when a transaction was asked for. -/
structure Undone (view : EngineView τ Content) (start : τ) (opening planned closing : List String)
    (run : Run σ τ Unit) (before : List Exchange) (failing : Exchange) (after : List Exchange)
    (cause : Outside) (failure : Failure) : Prop where
  split : run.exchanges = before ++ failing :: after
  smooth : Smooth before
  fails : failing.failure? = some cause
  raises : Raises (before ++ [failing]) cause failure
  outcome : run.outcome = .error failure
  inOrder : texts (before ++ [failing]) <+: opening ++ beginText :: planned
  closes : texts after = (if reportsOpen after then [rollbackText] else []) ++
    (if beginText ∈ texts (before ++ [failing]) then closing else [])
  uncommitted : commitText ∉ texts run.exchanges
  isClosed : view.isOpen run.final = false
  unchanged : view.content run.final = view.content start

/-- A run that executes all planned statements in one transaction, or leaves the tables as they were
at the start. -/
structure AllOrNothing (view : EngineView τ Content) (start : τ)
    (opening planned closing : List String) (run : Run σ τ Unit) : Prop where
  changes : ∀ sql ∈ planned, isChange sql = true
  complete : Smooth run.exchanges → run.outcome = .ok () ∧
    texts run.exchanges = opening ++ beginText :: planned ++ commitText :: closing
  undone : ¬ Smooth run.exchanges → EndsWell closing run.exchanges →
    ∃ before failing after cause failure,
      Undone view start opening planned closing run before failing after cause failure

theorem EndsWell.part {closing others : List String} {first second : List Exchange}
    (endsWell : EndsWell closing (first ++ second)) (fewer : others ⊆ closing) :
    EndsWell others second := by
  refine ⟨endsWell.commits.subset (List.subset_append_right _ _),
    endsWell.rollsBack.subset (List.subset_append_right _ _), ?_⟩
  intro before after split begun sql member
  refine endsWell.closes (first ++ before) after ?_ ?_ sql (fewer member)
  · rw [split, List.append_assoc]
  · rw [texts_append]
    exact List.mem_append_right _ begun

theorem EndsWell.front {closing others : List String} {first second : List Exchange}
    (endsWell : EndsWell closing (first ++ second)) (fewer : others ⊆ closing) :
    EndsWell others first := by
  refine ⟨endsWell.commits.subset (List.subset_append_left _ _),
    endsWell.rollsBack.subset (List.subset_append_left _ _), ?_⟩
  intro before after split begun sql member
  refine (endsWell.closes before (after ++ second) ?_ begun sql (fewer member)).subset
    (List.subset_append_left _ _)
  rw [split, List.append_assoc]

/-! ## A transaction alone -/

/-- A statement of another kind is not among statements of one kind. -/
theorem notMem_of_kind {kind : String → Bool} {planned : List String}
    (all : ∀ sql ∈ planned, kind sql = true) {sql : String} (other : kind sql = false) :
    sql ∉ planned := by
  intro member
  rw [all sql member] at other
  exact nomatch other

/-- What was executed until a failure begins with the beginning of the transaction. -/
theorem begun_of_inOrder {exchanges : List Exchange} {cause : Outside} {failure : Failure}
    {planned : List String} (raises : Raises exchanges cause failure)
    (inOrder : texts exchanges <+: beginText :: planned) : beginText ∈ texts exchanges := by
  obtain ⟨sql, parameters, last, -⟩ := raises
  rcases List.prefix_cons_iff.mp inOrder with empty | ⟨rest, split, -⟩
  · rw [List.map_eq_nil_iff.mp empty] at last
    exact nomatch last
  · rw [split]
    exact List.mem_cons_self

theorem Settled.allOrNothing {view : EngineView τ Content} {start : τ} {planned : List String}
    {run : Run σ τ Unit} (settled : Settled view start planned run)
    (changes : ∀ sql ∈ planned, isChange sql = true) :
    AllOrNothing view start [] planned [] run := by
  refine ⟨changes, ?_, ?_⟩
  · intro smooth
    cases settled with
    | committed outcome _ complete => exact ⟨outcome, complete⟩
    | undone before after failing cause failure split _ fails =>
        have succeeds := smooth failing (by simp [split])
        exact nomatch succeeds.symm.trans fails
    | unsettled fails => exact absurd (smooth.succeeds commitText) fails
  · intro rough endsWell
    cases settled with
    | committed _ smooth => exact absurd smooth rough
    | undone before after failing cause failure split smooth fails raises inOrder closing settled =>
        have rollsBack : Succeeds rollbackText after :=
          endsWell.rollsBack.subset (by simp [split])
        obtain ⟨outcome, isClosed, unchanged⟩ := settled rollsBack
        refine ⟨before, failing, after, cause, failure, split, smooth, fails, raises, outcome,
          inOrder, by simpa using closing, ?_, isClosed, unchanged⟩
        rw [split, ← List.singleton_append, ← List.append_assoc, texts_append, closing,
          List.mem_append]
        rintro (member | member)
        · rcases List.mem_cons.mp (inOrder.subset member) with same | member
          · exact absurd same (by decide)
          · exact notMem_of_kind changes (by decide) member
        · split at member
          · exact absurd (List.mem_singleton.mp member) (by decide)
          · exact absurd member List.not_mem_nil
    | unsettled fails => exact absurd endsWell.commits fails

/-! ## Around a transaction -/

theorem reportsOpen_append (first second : List Exchange) :
    reportsOpen (first ++ second) = (reportsOpen first || reportsOpen second) := by
  simp [reportsOpen]

variable {engine : Engine τ} {connection : Connection} {database : Database}
  {view : EngineView τ Content} (laws : Transactional engine connection view)
  (opened : database.connection = some connection) {start : τ} {planned : List String}

/-- A run that was undone is still undone where a closing statement is executed after it. -/
theorem Undone.closed {run last : Run σ τ Unit} {before after : List Exchange} {failing : Exchange}
    {cause : Outside} {failure : Failure}
    (undone : Undone view start [] planned [] run before failing after cause failure)
    {sql : String} (finished : Finished [sql] last ()) (other : sql ≠ commitText)
    (silent : reportsOpen last.exchanges = false)
    (isClosed : view.isOpen last.final = false)
    (unchanged : view.content last.final = view.content run.final) :
    Undone view start [] planned [sql] (run.afterwards fun _ _ _ => last) before failing
      (after ++ last.exchanges) cause failure where
  split := by
    rw [Run.afterwards, undone.split, List.append_assoc, List.cons_append]
  smooth := undone.smooth
  fails := undone.fails
  raises := undone.raises
  outcome := by
    rw [Run.afterwards, finished.outcome, undone.outcome]
    rfl
  inOrder := undone.inOrder
  closes := by
    have asked := begun_of_inOrder undone.raises undone.inOrder
    rw [texts_append, undone.closes, finished.complete, reportsOpen_append, silent,
      Bool.or_false, if_pos asked, if_pos asked, List.append_nil]
  uncommitted := by
    rw [Run.afterwards, texts_append, finished.complete, List.mem_append, not_or]
    exact ⟨undone.uncommitted, fun member => other (List.mem_singleton.mp member).symm⟩
  isClosed := isClosed
  unchanged := unchanged.trans undone.unchanged

include laws opened in
/-- A neutral statement that follows in any case leaves the tables as they are. -/
theorem AllOrNothing.afterwards {run : Run σ τ Unit}
    (first : AllOrNothing view start [] planned [] run) {sql : String}
    (neutral : isNeutral sql = true) :
    AllOrNothing view start [] planned [sql] (run.afterwards fun _ =>
      (database.run sql >>= fun _ => (pure () : Action σ Unit)).runOn engine) := by
  have straight := Database.straight_alone engine run.state run.final opened sql .null
  obtain ⟨cursor, answer, executes⟩ :=
    Database.alone_exchanges engine run.state run.final opened sql .null
  have chain := runOn_chain engine (database.run sql >>= fun _ => (pure () : Action σ Unit))
    run.state run.final
  simp only [Run.afterwards]
  generalize same : (database.run sql >>= fun _ => (pure () : Action σ Unit)).runOn engine
    run.state run.final = last at *
  have finishes := Database.alone_finished engine run.state run.final opened sql .null same
  refine ⟨first.changes, ?_, ?_⟩
  · intro smooth
    obtain ⟨smoothFirst, smoothLast⟩ := List.forall_mem_append.mp smooth
    have finished := finishes (Smooth.succeeds smoothLast sql)
    obtain ⟨outcome, complete⟩ := first.complete smoothFirst
    refine ⟨by rw [finished.outcome, outcome]; rfl, ?_⟩
    rw [texts_append, complete, finished.complete]
    simp only [List.nil_append, List.cons_append, List.append_assoc]
  · intro rough endsWell
    -- The last statement is promised to succeed only when a transaction was begun before it.
    have begun : ∀ {exchanges rest}, run.exchanges = exchanges ++ rest →
        beginText ∈ texts exchanges → Succeeds sql last.exchanges := by
      intro exchanges rest split member
      refine endsWell.closes run.exchanges last.exchanges rfl ?_ sql (List.mem_singleton_self sql)
      rw [split, texts_append]
      exact List.mem_append_left _ member
    -- What was refused is the last statement, which succeeds, or stands before it.
    by_cases smooth : Smooth run.exchanges
    · have complete := (first.complete smooth).2
      have finished := finishes (begun (List.append_nil _).symm (by simp [complete]))
      exact absurd (smooth.append finished.smooth) rough
    · obtain ⟨before, failing, after, cause, failure, undone⟩ :=
        first.undone smooth (endsWell.front (List.nil_subset _))
      have asked := begun_of_inOrder undone.raises undone.inOrder
      have split : run.exchanges = (before ++ [failing]) ++ after := by
        rw [undone.split, List.append_assoc, List.singleton_append]
      have finished := finishes (begun split asked)
      have unchanged := laws.chain_neutral chain (laws.ours chain straight.owned)
        (by simp [finished.complete, neutral]) undone.isClosed
      have other : sql ≠ commitText := by
        rintro rfl
        exact absurd neutral (by decide)
      have silent : reportsOpen last.exchanges = false := by
        rw [executes]
        rfl
      exact ⟨_, _, _, _, _, undone.closed finished other silent
        (unchanged.2.1.trans undone.isClosed) unchanged.1⟩

variable (engine) in
/-- A record at the end changes nothing. -/
theorem AllOrNothing.logged {run : Run σ τ Unit} {opening closing : List String}
    (first : AllOrNothing view start opening planned closing run) (level : Level)
    (logger message : String) :
    AllOrNothing view start opening planned closing
      (run.follow fun _ => (log level logger message : Action σ Unit).runOn engine) := by
  cases outcome : run.outcome with
  | error failure =>
      have whole : (run.follow fun _ => (log level logger message : Action σ Unit).runOn engine) =
          run := by
        obtain ⟨ended, state, final, exchanges⟩ := run
        cases outcome
        rfl
      rw [whole]
      exact first
  | ok value =>
      obtain ⟨final, record, whole, silent, succeeds⟩ : ∃ final record,
          (run.follow fun _ => (log level logger message : Action σ Unit).runOn engine) =
            ⟨.ok (), run.state, final, run.exchanges ++ [record]⟩ ∧
          texts [record] = [] ∧ record.failure? = none := by
        rw [Run.follow, outcome]
        exact ⟨_, _, rfl, rfl, rfl⟩
      rw [whole]
      refine ⟨first.changes, ?_, ?_⟩
      · intro smooth
        obtain ⟨outcome, complete⟩ := first.complete (List.forall_mem_append.mp smooth).1
        exact ⟨rfl, by rw [texts_append, complete, silent, List.append_nil]⟩
      · intro rough endsWell
        have smooth : ¬ Smooth run.exchanges := by
          intro smooth
          exact rough (smooth.append (by simpa [Smooth] using succeeds))
        obtain ⟨before, failing, after, cause, failure, undone⟩ :=
          first.undone smooth (endsWell.front (List.Subset.refl _))
        cases outcome.symm.trans undone.outcome

section Preceding

variable {opening closing : List String} (neutral : ∀ sql ∈ opening, isNeutral sql = true)

include neutral in
/-- A run that was undone is undone too where neutral statements succeeded before it. -/
theorem Undone.behind {first : Run σ τ α} {value : α} (finished : Finished opening first value)
    {last : Run σ τ Unit} {before after : List Exchange} {failing : Exchange} {cause : Outside}
    {failure : Failure}
    (undone : Undone view first.final [] planned closing last before failing after cause failure)
    (unchanged : view.content first.final = view.content start) :
    Undone view start opening planned closing
      { last with exchanges := first.exchanges ++ last.exchanges } (first.exchanges ++ before)
      failing after cause failure := by
  have texts_eq : texts (first.exchanges ++ before ++ [failing]) =
      opening ++ texts (before ++ [failing]) := by
    rw [List.append_assoc, texts_append, finished.complete]
  have iff : beginText ∈ texts (first.exchanges ++ before ++ [failing]) ↔
      beginText ∈ texts (before ++ [failing]) := by
    rw [texts_eq, List.mem_append, or_iff_right (notMem_of_kind neutral (by decide))]
  refine ⟨?_, finished.smooth.append undone.smooth, undone.fails, ?_, undone.outcome, ?_, ?_, ?_,
    undone.isClosed, undone.unchanged.trans unchanged⟩
  · rw [undone.split, List.append_assoc]
  · rw [List.append_assoc]
    exact undone.raises.append
  · rw [texts_eq]
    exact (List.prefix_append_right_inj opening).mpr undone.inOrder
  · simp only [undone.closes, iff]
  · rw [texts_append, finished.complete, List.mem_append, not_or]
    exact ⟨notMem_of_kind neutral (by decide), undone.uncommitted⟩

include neutral in
/-- Where a neutral statement fails, no transaction was asked for and there is nothing to undo. -/
theorem Stopped.undone {run : Run σ τ Unit} {before : List Exchange} {failing : Exchange}
    {cause : Outside} {failure : Failure} (stopped : Stopped opening run before failing cause failure)
    (isClosed : view.isOpen run.final = false)
    (unchanged : view.content run.final = view.content start) :
    Undone view start opening planned closing run before failing [] cause failure := by
  have inOrder := stopped.inOrder
  rw [stopped.split] at inOrder
  have unasked : beginText ∉ texts (before ++ [failing]) :=
    fun member => notMem_of_kind neutral (by decide) (inOrder.subset member)
  refine ⟨stopped.split, stopped.smooth, stopped.fails, stopped.split ▸ stopped.raises,
    stopped.outcome, inOrder.trans (List.prefix_append _ _), ?_, ?_, isClosed, unchanged⟩
  · rw [if_neg unasked]
    rfl
  · exact fun member => notMem_of_kind neutral (by decide) (stopped.inOrder.subset member)

include laws neutral in
/-- Neutral statements before the transaction leave the tables as they are. -/
theorem AllOrNothing.preceded {first : Run σ τ α} {next : α → σ → τ → Run σ τ Unit}
    (chain : engine.Chain start first.exchanges first.final)
    (straight : Straight connection opening first)
    (outside : view.isOpen start = false) (changes : ∀ sql ∈ planned, isChange sql = true)
    (rest : ∀ value, first.outcome = .ok value → view.isOpen first.final = false →
      AllOrNothing view first.final [] planned closing (next value first.state first.final)) :
    AllOrNothing view start opening planned closing (first.follow next) := by
  have ours := laws.ours chain straight.owned
  rcases straight.ends with ⟨value, finished⟩ | ⟨before, failing, cause, failure, stopped⟩
  · have same := laws.chain_neutral chain ours (by rwa [finished.complete]) outside
    have second := rest value finished.outcome (same.2.1.trans outside)
    simp only [Run.follow, finished.outcome]
    generalize next value first.state first.final = last at second
    refine ⟨changes, ?_, ?_⟩
    · intro smooth
      obtain ⟨outcome, complete⟩ := second.complete (List.forall_mem_append.mp smooth).2
      exact ⟨outcome, by rw [texts_append, finished.complete, complete]; simp⟩
    · intro rough endsWell
      have smooth : ¬ Smooth last.exchanges := fun smooth => rough (finished.smooth.append smooth)
      obtain ⟨before, failing, after, cause, failure, undone⟩ :=
        second.undone smooth (endsWell.part (List.Subset.refl _))
      exact ⟨_, _, _, _, _, undone.behind neutral finished same.1⟩
  · have same := laws.chain_neutral chain ours
      (fun sql member => neutral sql (stopped.inOrder.subset member)) outside
    have failed : first.follow next = ⟨.error failure, first.state, first.final, first.exchanges⟩ := by
      rw [Run.follow, stopped.outcome]
    have ended : Stopped opening (first.follow next) before failing cause failure := by
      rw [failed]
      exact { stopped with outcome := rfl }
    have undone : Undone view start opening planned closing (first.follow next) before failing []
        cause failure :=
      ended.undone neutral (by rw [failed]; exact same.2.1.trans outside)
        (by rw [failed]; exact same.1)
    refine ⟨changes, ?_, fun _ _ => ⟨_, _, _, _, _, undone⟩⟩
    intro smooth
    have succeeds := smooth failing (by simp [ended.split])
    cases succeeds.symm.trans ended.fails

end Preceding

end Tabular
