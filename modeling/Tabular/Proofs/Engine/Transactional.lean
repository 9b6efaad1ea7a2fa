import Tabular.Proofs.Engine.Straight
import Tabular.Table.Reconciler

/-!
This module says what is asked of an engine with transactions, and what statements do to its tables.
-/

namespace Tabular

variable {σ τ α Content : Type}

open Exchange

/-! ## Exchanges one after another -/

/-- Exchanges lead an engine from one state to another. -/
inductive Engine.Chain (engine : Engine τ) : τ → List Exchange → τ → Prop where
  | nil (start : τ) : Chain engine start [] start
  | cons (request : Request) (start : τ) {rest : List Exchange} {final : τ}
      (tail : Chain engine (engine.answer request start).2 rest final) :
      Chain engine start (⟨request, (engine.answer request start).1⟩ :: rest) final

theorem Program.run_chain (engine : Engine τ) (program : Program α) (start : τ) :
    engine.Chain start (program.run engine.recorded (start, [])).2.2
      (program.run engine.recorded (start, [])).2.1 := by
  induction program generalizing start with
  | done result => exact .nil start
  | ask request next inductionHypothesis =>
      simp only [Program.run, Engine.recorded_answer]
      rw [Program.run_recorded]
      exact .cons request start (inductionHypothesis _ _)

theorem Action.runOn_chain (engine : Engine τ) (action : Action σ α) (state : σ) (start : τ) :
    engine.Chain start (action.runOn engine state start).exchanges
      (action.runOn engine state start).final :=
  Program.run_chain engine _ start

namespace Engine.Chain

variable {engine : Engine τ}

/-- A chain goes through a state between two of its exchanges. -/
theorem split {first second : List Exchange} {start final : τ}
    (chain : engine.Chain start (first ++ second) final) :
    ∃ middle, engine.Chain start first middle ∧ engine.Chain middle second final := by
  induction first generalizing start with
  | nil => exact ⟨start, .nil start, chain⟩
  | cons exchange first inductionHypothesis =>
      cases chain with
      | cons request _ tail =>
          obtain ⟨middle, before, after⟩ := inductionHypothesis tail
          exact ⟨middle, .cons request start before, after⟩

/-- Each exchange of a chain is an answer of the engine. -/
theorem answered {exchanges : List Exchange} {start final : τ}
    (chain : engine.Chain start exchanges final) {exchange : Exchange}
    (member : exchange ∈ exchanges) :
    ∃ state, exchange.answer = (engine.answer exchange.request state).1 := by
  induction chain with
  | nil => exact absurd member List.not_mem_nil
  | cons request start _ inductionHypothesis =>
      rcases List.mem_cons.mp member with rfl | member
      · exact ⟨start, rfl⟩
      · exact inductionHypothesis member

end Engine.Chain

/-! ## Transactions -/

/-- Statements that change tables or rows begin with one of these words. -/
def isChange (sql : String) : Bool :=
  ["ALTER ", "CREATE ", "DROP ", "INSERT "].any fun word => word.toList.isPrefixOf sql.toList

/-- Statements of a migration that change no table. -/
def isNeutral (sql : String) : Bool :=
  sql = Schema.indexNamesText || sql = "PRAGMA legacy_alter_table" ||
    sql = "PRAGMA legacy_alter_table = ON" || sql = "PRAGMA legacy_alter_table = OFF"

/-- What a state of an engine holds: its tables, whether a transaction is open on a connection, and
the tables at the beginning of the open transaction. -/
structure EngineView (τ Content : Type) where
  content : τ → Content
  isOpen : τ → Bool
  saved : τ → Content

/-- Two states hold the same. -/
def EngineView.Same (view : EngineView τ Content) (first second : τ) : Prop :=
  view.content first = view.content second ∧ view.isOpen first = view.isOpen second ∧
    view.saved first = view.saved second

/-- An engine with transactions on a connection. A failed statement changes nothing or rolls the
whole transaction back, the beginning of a transaction saves the tables, and a rollback restores
them. Rows are answered with the columns that their statement names. -/
structure Transactional (engine : Engine τ) (connection : Connection)
    (view : EngineView τ Content) : Prop where
  cursors : ∀ state, (engine.answer (.cursor connection) state).1.connection = connection
  quiet : ∀ request state, request.isQuiet = true →
    view.Same (engine.answer request state).2 state
  tells : ∀ state, (engine.answer (.inTransaction connection) state).1 = view.isOpen state
  failed : ∀ cursor sql parameters state cause next, cursor.connection = connection →
    engine.answer (.execute cursor sql parameters) state = (.error cause, next) →
    view.Same next state ∨
      view.isOpen state = true ∧ view.isOpen next = false ∧ view.content next = view.saved state
  begun : ∀ cursor parameters state result next, cursor.connection = connection →
    view.isOpen state = false →
    engine.answer (.execute cursor "BEGIN TRANSACTION" parameters) state = (.ok result, next) →
    view.isOpen next = true ∧ view.saved next = view.content state
  rolledBack : ∀ cursor parameters state result next, cursor.connection = connection →
    view.isOpen state = true →
    engine.answer (.execute cursor "ROLLBACK" parameters) state = (.ok result, next) →
    view.isOpen next = false ∧ view.content next = view.saved state
  changed : ∀ cursor sql parameters state result next, cursor.connection = connection →
    isChange sql = true → view.isOpen state = true →
    engine.answer (.execute cursor sql parameters) state = (.ok result, next) →
    view.isOpen next = true ∧ view.saved next = view.saved state
  neutral : ∀ cursor sql parameters state result next, cursor.connection = connection →
    isNeutral sql = true →
    engine.answer (.execute cursor sql parameters) state = (.ok result, next) →
    view.Same next state
  namesIndices : ∀ cursor parameters state result next rows, cursor.connection = connection →
    engine.answer (.execute cursor Schema.indexNamesText parameters) state = (.ok result, next) →
    (engine.answer (.fetchAll cursor) next).1 = .ok rows →
    ∀ row ∈ rows, ∃ name, row.column "name" = .ok name
  reportsPragma : ∀ cursor parameters state result next, cursor.connection = connection →
    engine.answer (.execute cursor "PRAGMA legacy_alter_table" parameters) state =
      (.ok result, next) →
    (engine.answer (.fetchOne cursor) next).1 ≠ .ok (some [])

namespace EngineView

variable {view : EngineView τ Content}

theorem Same.trans {first second third : τ} (same : view.Same first second)
    (other : view.Same second third) : view.Same first third :=
  ⟨same.1.trans other.1, same.2.1.trans other.2.1, same.2.2.trans other.2.2⟩

/-- A rollback would leave these tables, or has left them. -/
def Keeps (view : EngineView τ Content) (content : Content) (state : τ) : Prop :=
  (view.isOpen state = true ∧ view.saved state = content) ∨
    (view.isOpen state = false ∧ view.content state = content)

theorem Same.keeps {content : Content} {first second : τ} (same : view.Same first second)
    (keeps : view.Keeps content second) : view.Keeps content first := by
  rw [Keeps, same.1, same.2.1, same.2.2]
  exact keeps

end EngineView

/-- An exchange is quiet or executes a statement on a cursor of the connection. -/
def Exchange.Ours (connection : Connection) (exchange : Exchange) : Prop :=
  exchange.request.isQuiet = true ∨ ∃ cursor sql parameters,
    exchange.request = .execute cursor sql parameters ∧ cursor.connection = connection

namespace Transactional

variable {engine : Engine τ} {connection : Connection} {view : EngineView τ Content}

theorem ours (laws : Transactional engine connection view) {start final : τ}
    {exchanges : List Exchange} (chain : engine.Chain start exchanges final)
    (owned : Owned connection exchanges) : ∀ exchange ∈ exchanges, exchange.Ours connection := by
  intro exchange member
  rcases owned exchange member with quiet | ⟨cursor, sql, parameters, same, given⟩
  · exact .inl quiet
  · obtain ⟨state, answer⟩ := chain.answered given
    refine .inr ⟨cursor, sql, parameters, same, ?_⟩
    rw [show cursor = (engine.answer (.cursor connection) state).1 from answer]
    exact laws.cursors state

/-- A statement that fails changes nothing, or it rolls an open transaction back. -/
theorem failing_ends (laws : Transactional engine connection view) {request : Request} {start : τ}
    (ours : Ours connection ⟨request, (engine.answer request start).1⟩) {cause : Outside}
    (fails : failure? ⟨request, (engine.answer request start).1⟩ = some cause) :
    view.Same (engine.answer request start).2 start ∨
      view.isOpen start = true ∧ view.isOpen (engine.answer request start).2 = false ∧
        view.content (engine.answer request start).2 = view.saved start := by
  rcases ours with quiet | ⟨cursor, sql, parameters, rfl, on⟩
  · exact .inl (laws.quiet request start quiet)
  · cases answered : engine.answer (.execute cursor sql parameters) start with
    | mk answer next =>
        rw [answered] at fails
        cases answer with
        | ok result => cases fails
        | error found => exact laws.failed cursor sql parameters start found next on answered

/-- Outside a transaction, a statement that fails changes nothing. -/
theorem failing_step (laws : Transactional engine connection view) {request : Request} {start : τ}
    (ours : Ours connection ⟨request, (engine.answer request start).1⟩) {cause : Outside}
    (fails : failure? ⟨request, (engine.answer request start).1⟩ = some cause)
    (outside : view.isOpen start = false) : view.Same (engine.answer request start).2 start := by
  rcases laws.failing_ends ours fails with same | ⟨opened, -⟩
  · exact same
  · cases outside.symm.trans opened

/-- Outside a transaction, a neutral statement changes nothing, whether or not it fails. -/
theorem neutral_step (laws : Transactional engine connection view) {request : Request} {start : τ}
    (ours : Ours connection ⟨request, (engine.answer request start).1⟩)
    (neutral : ∀ sql ∈ texts [⟨request, (engine.answer request start).1⟩], isNeutral sql = true)
    (outside : view.isOpen start = false) : view.Same (engine.answer request start).2 start := by
  cases fails : failure? ⟨request, (engine.answer request start).1⟩ with
  | some cause => exact laws.failing_step ours fails outside
  | none =>
      rcases ours with quiet | ⟨cursor, sql, parameters, rfl, on⟩
      · exact laws.quiet request start quiet
      · have neutral := neutral sql (List.mem_singleton_self sql)
        cases answered : engine.answer (.execute cursor sql parameters) start with
        | mk answer next =>
            rw [answered] at fails
            cases answer with
            | ok result =>
                exact laws.neutral cursor sql parameters start result next on neutral answered
            | error cause => exact nomatch fails

theorem chain_neutral (laws : Transactional engine connection view) {start final : τ}
    {exchanges : List Exchange} (chain : engine.Chain start exchanges final)
    (ours : ∀ exchange ∈ exchanges, exchange.Ours connection)
    (neutral : ∀ sql ∈ texts exchanges, isNeutral sql = true)
    (outside : view.isOpen start = false) : view.Same final start := by
  induction chain with
  | nil => exact ⟨rfl, rfl, rfl⟩
  | @cons request start rest final tail inductionHypothesis =>
      rw [← List.singleton_append, texts_append, List.forall_mem_append] at neutral
      obtain ⟨oursFirst, oursRest⟩ := List.forall_mem_cons.mp ours
      have step := laws.neutral_step oursFirst neutral.1 outside
      exact (inductionHypothesis oursRest neutral.2 (step.2.1.trans outside)).trans step

/-- Inside a transaction, a change that succeeds keeps the tables that were saved. -/
theorem change_step (laws : Transactional engine connection view) {request : Request} {start : τ}
    (ours : Ours connection ⟨request, (engine.answer request start).1⟩)
    (changes : ∀ sql ∈ texts [⟨request, (engine.answer request start).1⟩], isChange sql = true)
    (succeeds : failure? ⟨request, (engine.answer request start).1⟩ = none)
    (inside : view.isOpen start = true) :
    view.isOpen (engine.answer request start).2 = true ∧
      view.saved (engine.answer request start).2 = view.saved start := by
  rcases ours with quiet | ⟨cursor, sql, parameters, rfl, on⟩
  · have same := laws.quiet request start quiet
    exact ⟨same.2.1.trans inside, same.2.2⟩
  · have change := changes sql (List.mem_singleton_self sql)
    cases answered : engine.answer (.execute cursor sql parameters) start with
    | mk answer next =>
        cases answer with
        | ok result =>
            exact laws.changed cursor sql parameters start result next on change inside answered
        | error cause =>
            rw [answered] at succeeds
            exact nomatch succeeds

theorem chain_changes (laws : Transactional engine connection view) {start final : τ}
    {exchanges : List Exchange} (chain : engine.Chain start exchanges final)
    (ours : ∀ exchange ∈ exchanges, exchange.Ours connection)
    (changes : ∀ sql ∈ texts exchanges, isChange sql = true) (smooth : Smooth exchanges)
    (inside : view.isOpen start = true) :
    view.isOpen final = true ∧ view.saved final = view.saved start := by
  induction chain with
  | nil => exact ⟨inside, rfl⟩
  | @cons request start rest final tail inductionHypothesis =>
      rw [← List.singleton_append, texts_append, List.forall_mem_append] at changes
      obtain ⟨oursFirst, oursRest⟩ := List.forall_mem_cons.mp ours
      obtain ⟨succeeds, smoothRest⟩ := List.forall_mem_cons.mp smooth
      have step := laws.change_step oursFirst changes.1 succeeds inside
      have others := inductionHypothesis oursRest changes.2 smoothRest step.1
      exact ⟨others.1, others.2.trans step.2⟩

/-- A failure keeps what a rollback would restore. -/
theorem failing_keeps (laws : Transactional engine connection view) {start final : τ}
    {failing : Exchange} (chain : engine.Chain start [failing] final)
    (ours : failing.Ours connection) {cause : Outside} (fails : failing.failure? = some cause)
    {content : Content} (keeps : view.Keeps content start) : view.Keeps content final := by
  cases chain with
  | cons request _ tail =>
      cases tail with
      | nil =>
          rcases laws.failing_ends ours fails with same | ⟨opened, closed, restored⟩
          · exact same.keeps keeps
          · rcases keeps with ⟨-, saved⟩ | ⟨outside, -⟩
            · exact .inr ⟨closed, restored.trans saved⟩
            · cases outside.symm.trans opened

/-- After changes of which the last one failed, a rollback restores the tables at the beginning, or
has restored them. -/
theorem stopped_keeps (laws : Transactional engine connection view) {start : τ} {run : Run σ τ α}
    (chain : engine.Chain start run.exchanges run.final) (owned : Owned connection run.exchanges)
    {planned : List String} {before : List Exchange} {failing : Exchange} {cause : Outside}
    {failure : Failure} (stopped : Stopped planned run before failing cause failure)
    (changes : ∀ sql ∈ planned, isChange sql = true) (inside : view.isOpen start = true) :
    view.Keeps (view.saved start) run.final := by
  have ours := laws.ours chain owned
  have each : ∀ sql ∈ texts run.exchanges, isChange sql = true :=
    fun sql member => changes sql (stopped.inOrder.subset member)
  rw [stopped.split] at chain ours each
  rw [texts_append, List.forall_mem_append] at each
  obtain ⟨oursBefore, oursFailing⟩ := List.forall_mem_append.mp ours
  obtain ⟨middle, first, last⟩ := chain.split
  have kept := laws.chain_changes first oursBefore each.1 stopped.smooth inside
  exact laws.failing_keeps last (oursFailing failing (List.mem_singleton_self failing))
    stopped.fails (.inl kept)

/-! ## One statement -/

theorem silent_step (laws : Transactional engine connection view) {request : Request} {start : τ}
    (ours : Ours connection ⟨request, (engine.answer request start).1⟩)
    (silent : texts [⟨request, (engine.answer request start).1⟩] = []) :
    view.Same (engine.answer request start).2 start := by
  rcases ours with quiet | ⟨cursor, sql, parameters, rfl, on⟩
  · exact laws.quiet request start quiet
  · exact nomatch silent

/-- Without a statement nothing changes. -/
theorem chain_silent (laws : Transactional engine connection view) {start final : τ}
    {exchanges : List Exchange} (chain : engine.Chain start exchanges final)
    (ours : ∀ exchange ∈ exchanges, exchange.Ours connection) (silent : texts exchanges = []) :
    view.Same final start := by
  induction chain with
  | nil => exact ⟨rfl, rfl, rfl⟩
  | @cons request start rest final tail inductionHypothesis =>
      rw [← List.singleton_append, texts_append, List.append_eq_nil_iff] at silent
      obtain ⟨oursFirst, oursRest⟩ := List.forall_mem_cons.mp ours
      exact (inductionHypothesis oursRest silent.2).trans (laws.silent_step oursFirst silent.1)

/-- A single statement that succeeds is all that changes something. -/
theorem chain_single (laws : Transactional engine connection view) {start final : τ}
    {exchanges : List Exchange} (chain : engine.Chain start exchanges final)
    (ours : ∀ exchange ∈ exchanges, exchange.Ours connection) (smooth : Smooth exchanges)
    {sql : String} (single : texts exchanges = [sql]) :
    ∃ before after cursor parameters result, cursor.connection = connection ∧
      engine.answer (.execute cursor sql parameters) before = (.ok result, after) ∧
      view.Same before start ∧ view.Same final after := by
  induction chain with
  | nil => exact nomatch single
  | @cons request start rest final tail inductionHypothesis =>
      obtain ⟨oursFirst, oursRest⟩ := List.forall_mem_cons.mp ours
      obtain ⟨succeeds, smoothRest⟩ := List.forall_mem_cons.mp smooth
      rcases oursFirst with quiet | ⟨cursor, text, parameters, same, on⟩
      · have step := laws.quiet request start quiet
        rw [texts_quiet quiet] at single
        obtain ⟨before, after, cursor, parameters, result, on, answered, sameBefore, sameAfter⟩ :=
          inductionHypothesis oursRest smoothRest single
        exact ⟨before, after, cursor, parameters, result, on, answered, sameBefore.trans step,
          sameAfter⟩
      · obtain rfl : request = .execute cursor text parameters := same
        obtain ⟨rfl, silent⟩ := List.cons.inj single
        have rest := laws.chain_silent tail oursRest silent
        cases answered : engine.answer (.execute cursor text parameters) start with
        | mk answer next =>
            rw [answered] at succeeds rest
            cases answer with
            | ok result =>
                exact ⟨start, next, cursor, parameters, result, on, answered, ⟨rfl, rfl, rfl⟩, rest⟩
            | error cause => exact nomatch succeeds

theorem begun_view (laws : Transactional engine connection view) {start final : τ}
    {exchanges : List Exchange} (chain : engine.Chain start exchanges final)
    (ours : ∀ exchange ∈ exchanges, exchange.Ours connection) (smooth : Smooth exchanges)
    (single : texts exchanges = ["BEGIN TRANSACTION"]) (outside : view.isOpen start = false) :
    view.isOpen final = true ∧ view.saved final = view.content start := by
  obtain ⟨before, after, cursor, parameters, result, on, answered, sameBefore, sameAfter⟩ :=
    laws.chain_single chain ours smooth single
  obtain ⟨opened, saved⟩ := laws.begun cursor parameters before result after on
    (sameBefore.2.1.trans outside) answered
  exact ⟨sameAfter.2.1.trans opened, (sameAfter.2.2.trans saved).trans sameBefore.1⟩

theorem rolledBack_view (laws : Transactional engine connection view) {start final : τ}
    {exchanges : List Exchange} (chain : engine.Chain start exchanges final)
    (ours : ∀ exchange ∈ exchanges, exchange.Ours connection) (smooth : Smooth exchanges)
    (single : texts exchanges = ["ROLLBACK"]) (inside : view.isOpen start = true) :
    view.isOpen final = false ∧ view.content final = view.saved start := by
  obtain ⟨before, after, cursor, parameters, result, on, answered, sameBefore, sameAfter⟩ :=
    laws.chain_single chain ours smooth single
  obtain ⟨closed, restored⟩ := laws.rolledBack cursor parameters before result after on
    (sameBefore.2.1.trans inside) answered
  exact ⟨sameAfter.2.1.trans closed, (sameAfter.1.trans restored).trans sameBefore.2.2⟩

end Transactional

end Tabular
