import Tabular.Proofs.Engine.Closing
import Tabular.Proofs.Engine.Enclosing

/-!
This module follows blocks inside blocks. Only an outermost block begins a transaction and ends it,
and every inner one joins it, however deep the blocks are and wherever failures are raised and caught.
-/

namespace Tabular

open Tabular.Action Exchange

variable {σ τ α : Type}

/-- What may stand in a block. A body has code of its own, which does not reach the engine and may
fail, it runs statements, and it holds other blocks. What comes next may depend on what came before,
and a failure may be caught. -/
inductive Body (σ : Type) : Type → Type 1 where
  | own {α : Type} (code : σ → Except Failure α × σ) : Body σ α
  | run (sql : String) (parameters : Value) : Body σ RunResult
  | block {α : Type} (body : Body σ α) : Body σ α
  | follow {α β : Type} (first : Body σ α) (next : α → Body σ β) : Body σ β
  | attempt {α : Type} (body : Body σ α) : Body σ (Except Failure α)

/-- A statement that was executed, with its parameters and what the engine answered. -/
structure Execution where
  sql : String
  parameters : Value
  answer : Except Outside RunResult

namespace Exchange

def execution? : Exchange → Option Execution
  | ⟨.execute _ sql parameters, answer⟩ => some ⟨sql, parameters, answer⟩
  | _ => none

/-- The executed statements in their order. -/
def performed (exchanges : List Exchange) : List Execution := exchanges.filterMap execution?

theorem performed_append (first second : List Exchange) :
    performed (first ++ second) = performed first ++ performed second := by
  simp [performed]

end Exchange

theorem Exchange.owned_asked {connection : Connection} {answer : Bool} :
    Owned connection [⟨.inTransaction connection, answer⟩] := by
  simp [Owned, Request.isQuiet]

/-- The statement that ends a block is chosen by the outcome of its body. -/
def closingText : Except Failure α → String
  | .ok _ => commitText
  | .error _ => rollbackText

namespace Body

/-- This action runs a body on a database. -/
def action (database : Database) : {α : Type} → Body σ α → Action σ α
  | _, .own code => ExceptT.mk fun state => pure (code state)
  | _, .run sql parameters => database.run sql parameters
  | _, .block body => database.transaction (body.action database)
  | _, .follow first next => first.action database >>= fun value => (next value).action database
  | _, .attempt body => Action.attempt (body.action database)

/-- No statement of the body begins or ends a transaction by itself. -/
def Plain (controls : String → Bool) : {α : Type} → Body σ α → Prop
  | _, .own _ => True
  | _, .run sql _ => controls sql = false
  | _, .block body => body.Plain controls
  | _, .follow first next => first.Plain controls ∧ ∀ value, (next value).Plain controls
  | _, .attempt body => body.Plain controls

/-- What a body executes, inside a transaction or outside, and how it ends. Inside, a block is its
body and nothing else. Outside, a block is refused at its beginning, or its body stands between the
beginning of a transaction and the end that belongs to the outcome. -/
inductive Performs : Bool → {α : Type} → Body σ α → σ → List Execution → Except Failure α → σ → Prop
  | own {inside : Bool} {α : Type} (code : σ → Except Failure α × σ) (state : σ) :
      Performs inside (.own code) state [] (code state).1 (code state).2
  | run {inside : Bool} (sql : String) (parameters : Value) (answer : Except Outside RunResult)
      (state : σ) :
      Performs inside (.run sql parameters) state [⟨sql, Database.driverParameters parameters, answer⟩]
        (Except.mapError (fun cause => (Failure.outside cause).attach sql parameters) answer) state
  | joined {α : Type} {body : Body σ α} {state after : σ} {log : List Execution}
      {outcome : Except Failure α} (performs : Performs true body state log outcome after) :
      Performs true (.block body) state log outcome after
  | refused {α : Type} (body : Body σ α) (state : σ) (cause : Outside) :
      Performs false (.block body) state [⟨beginText, .tuple [], .error cause⟩]
        (.error ((Failure.outside cause).attach beginText .null)) state
  | enclosed {α : Type} {body : Body σ α} {state after : σ} {log : List Execution}
      {outcome : Except Failure α} (begun ended : RunResult)
      (performs : Performs true body state log outcome after) :
      Performs false (.block body) state
        (⟨beginText, .tuple [], .ok begun⟩ :: log ++
          [⟨closingText outcome, .tuple [], .ok ended⟩]) outcome after
  | goesOn {inside : Bool} {α β : Type} {first : Body σ α} {next : α → Body σ β}
      {state middle after : σ} {log others : List Execution} {value : α} {outcome : Except Failure β}
      (performs : Performs inside first state log (.ok value) middle)
      (rest : Performs inside (next value) middle others outcome after) :
      Performs inside (.follow first next) state (log ++ others) outcome after
  | stops {inside : Bool} {α β : Type} {first : Body σ α} {next : α → Body σ β} {state after : σ}
      {log : List Execution} {failure : Failure}
      (performs : Performs inside first state log (.error failure) after) :
      Performs inside (.follow first next) state log (.error failure) after
  | caught {inside : Bool} {α : Type} {body : Body σ α} {state after : σ} {log : List Execution}
      {outcome : Except Failure α} (performs : Performs inside body state log outcome after) :
      Performs inside (.attempt body) state log (.ok outcome) after

end Body

/-! ## Transactions in turn -/

namespace Execution

/-- The engine has begun a transaction. -/
def begins (execution : Execution) : Bool :=
  execution.sql = beginText && execution.answer.isOk

/-- The engine has ended a transaction. -/
def ends (execution : Execution) : Bool :=
  (execution.sql = commitText || execution.sql = rollbackText) && execution.answer.isOk

/-- At no time are there two transactions open, and none is at the end. -/
structure Alternates (log : List Execution) : Prop where
  atMostOne : ∀ before, before <+: log → before.countP ends ≤ before.countP begins ∧
    before.countP begins ≤ before.countP ends + 1
  balanced : log.countP begins = log.countP ends

/-- These executions begin no transaction and end none. -/
def Steady (log : List Execution) : Prop :=
  ∀ execution ∈ log, execution.begins = false ∧ execution.ends = false

namespace Steady

variable {log others : List Execution}

theorem append (first : Steady log) (second : Steady others) : Steady (log ++ others) :=
  List.forall_mem_append.mpr ⟨first, second⟩

theorem part (steady : Steady log) (inside : others <+: log) : Steady others :=
  fun execution member => steady execution (inside.subset member)

theorem begins_eq (steady : Steady log) : log.countP begins = 0 :=
  List.countP_eq_zero.mpr fun execution member => by simp [(steady execution member).1]

theorem ends_eq (steady : Steady log) : log.countP ends = 0 :=
  List.countP_eq_zero.mpr fun execution member => by simp [(steady execution member).2]

theorem alternates (steady : Steady log) : Alternates log := by
  refine ⟨fun before inside => ?_, by rw [steady.begins_eq, steady.ends_eq]⟩
  rw [(steady.part inside).begins_eq, (steady.part inside).ends_eq]
  exact ⟨Nat.le_refl _, Nat.zero_le _⟩

end Steady

namespace Alternates

variable {log others : List Execution}

theorem append (first : Alternates log) (second : Alternates others) : Alternates (log ++ others) := by
  refine ⟨fun before inside => ?_, ?_⟩
  · rcases List.prefix_or_prefix_of_prefix inside (List.prefix_append log others) with
      inner | ⟨rest, rfl⟩
    · exact first.atMostOne before inner
    · have turn := second.atMostOne rest ((List.prefix_append_right_inj log).mp inside)
      rw [List.countP_append, List.countP_append, first.balanced]
      omega
  · rw [List.countP_append, List.countP_append, first.balanced, second.balanced]

/-- A transaction around steady executions is begun and ended once. -/
theorem enclosed {first last : Execution} (begun : first.begins = true) (starts : first.ends = false)
    (steady : Steady log) (ended : last.ends = true) (stops : last.begins = false) :
    Alternates (first :: log ++ [last]) := by
  refine ⟨fun before inside => ?_, ?_⟩
  · rcases List.prefix_concat_iff.mp inside with rfl | inner
    · simp [steady.begins_eq, steady.ends_eq, begun, starts, ended, stops]
    · rcases List.prefix_cons_iff.mp inner with rfl | ⟨rest, rfl, within⟩
      · simp
      · have calm := steady.part within
        simp [calm.begins_eq, calm.ends_eq, begun, starts]
  · simp [steady.begins_eq, steady.ends_eq, begun, starts, ended, stops]

end Alternates

end Execution

/-- An engine in which only some statements begin or end a transaction, among them those of the
blocks. -/
structure Bracketing (engine : Engine τ) (connection : Connection) (isOpen : τ → Bool)
    (controls : String → Bool) : Prop extends Closing engine connection isOpen where
  begun : ∀ cursor parameters state result next, cursor.connection = connection →
    engine.answer (.execute cursor beginText parameters) state = (.ok result, next) →
    isOpen next = true
  kept : ∀ cursor sql parameters state, cursor.connection = connection → controls sql = false →
    isOpen (engine.answer (.execute cursor sql parameters) state).2 = isOpen state
  known : controls beginText = true ∧ controls commitText = true ∧ controls rollbackText = true

/-- A statement that begins and ends no transaction is steady. -/
theorem Bracketing.steady {engine : Engine τ} {connection : Connection} {isOpen : τ → Bool}
    {controls : String → Bool} (laws : Bracketing engine connection isOpen controls) {sql : String}
    (other : controls sql = false) (parameters : Value) (answer : Except Outside RunResult) :
    Execution.Steady [⟨sql, parameters, answer⟩] := by
  have apart {text : String} (control : controls text = true) : sql ≠ text := by
    rintro rfl
    exact absurd (other.symm.trans control) (by decide)
  obtain ⟨begins, commits, rollsBack⟩ := laws.known
  simp [Execution.Steady, Execution.begins, Execution.ends, apart begins, apart commits,
    apart rollsBack]

namespace Database

variable {engine : Engine τ} {connection : Connection} {database : Database} {isOpen : τ → Bool}
  {controls : String → Bool} (laws : Bracketing engine connection isOpen controls)
  (opened : database.connection = some connection) (state : σ) {start : τ}

include laws opened

variable (start) in
/-- The run of a statement, with the state in which the engine answered it. -/
theorem run_answered (sql : String) (parameters : Value) :
    ∃ cursor answer before final, cursor.connection = connection ∧ isOpen before = isOpen start ∧
      engine.answer (.execute cursor sql (driverParameters parameters)) before = (answer, final) ∧
      (database.run sql parameters).runOn engine state start =
        ⟨Except.mapError (fun cause => (Failure.outside cause).attach sql parameters) answer, state,
          final, executed connection sql parameters cursor answer⟩ := by
  obtain ⟨cursor, answer, final, answered, executes⟩ :=
    runOn_execute engine state start opened sql parameters
  obtain ⟨on, before, same, given⟩ := answered.inPlace laws.toClosing
  refine ⟨cursor, answer, before, final, on, same, given, ?_⟩
  rw [Database.run, runOn_bind, executes]
  cases answer <;> simp [Run.follow, Except.mapError]

/-- A block that is left while its transaction is open ends it, and passes the outcome on. -/
theorem leave_ends (inside : isOpen start = true) (outcome : Except Failure α) {left : Run σ τ Unit}
    (leaves : (database.leave outcome).runOn engine state start = left)
    (commits : Succeeds commitText left.exchanges)
    (rollsBack : Succeeds rollbackText left.exchanges) :
    (∃ ended, performed left.exchanges = [⟨closingText outcome, .tuple [], .ok ended⟩]) ∧
      Owned connection left.exchanges ∧ left.outcome.bind (fun _ => outcome) = outcome ∧
      left.state = state ∧ isOpen left.final = false := by
  cases outcome with
  | ok value =>
      obtain ⟨cursor, answer, before, final, on, -, given, runs⟩ :=
        run_answered laws opened state start commitText .null
      rw [leave, runOn_bind, ← commitText, runs] at leaves
      cases answer with
      -- A refused commit is excluded, as commits are assumed to succeed.
      | error cause =>
          subst leaves
          have fine := commits ⟨.execute cursor commitText (.tuple []), .error cause⟩
            (List.mem_of_mem_getLast? rfl) rfl
          cases fine
      | ok ended =>
          subst leaves
          exact ⟨⟨ended, rfl⟩, executed_owned.append (List.forall_mem_nil _), rfl, rfl,
            laws.committed _ _ before _ _ on given⟩
  | error failure =>
      rw [leave, runOn_bind, runOn_inTransaction opened, (laws.tells start).trans inside] at leaves
      generalize (engine.answer (.inTransaction connection) start).2 = next at leaves
      obtain ⟨cursor, answer, before, final, on, -, given, runs⟩ :=
        run_answered laws opened state next rollbackText .null
      simp only [Run.follow, if_true, runOn_bind] at leaves
      rw [← rollbackText, runs] at leaves
      cases answer with
      | error cause =>
          subst leaves
          have fine := rollsBack ⟨.execute cursor rollbackText (.tuple []), .error cause⟩
            (List.mem_of_mem_getLast? rfl) rfl
          cases fine
      | ok ended =>
          subst leaves
          have asked : Owned connection [⟨.inTransaction connection, true⟩] := owned_asked
          have rolledBack : Owned connection
              (executed connection rollbackText .null cursor (.ok ended)) := executed_owned
          exact ⟨⟨ended, rfl⟩, asked.append rolledBack, rfl, rfl, laws.rolledBack _ _ before _ _ on given⟩

end Database

namespace Body

open Execution

variable {engine : Engine τ} {connection : Connection} {database : Database} {isOpen : τ → Bool}
  {controls : String → Bool} {body : Body σ α} {state after : σ} {log : List Execution}
  {outcome : Except Failure α}

/-- Only the blocks of a plain body begin and end transactions, and inside a transaction none does. -/
theorem Performs.alternates (laws : Bracketing engine connection isOpen controls) {inside : Bool}
    (performs : Performs inside body state log outcome after) (plain : body.Plain controls) :
    (inside = true → Steady log) ∧ Alternates log := by
  induction performs with
  | own code state =>
      have steady : Steady [] := fun _ => nofun
      exact ⟨fun _ => steady, steady.alternates⟩
  | run sql parameters answer state =>
      have steady := laws.steady plain (Database.driverParameters parameters) answer
      exact ⟨fun _ => steady, steady.alternates⟩
  | joined performs inductionHypothesis => exact inductionHypothesis plain
  | refused body state cause =>
      have steady : Steady [⟨beginText, .tuple [], .error cause⟩] := by
        simp [Steady, begins, ends, Except.isOk, Except.toBool]
      exact ⟨nofun, steady.alternates⟩
  | @enclosed α body state after log outcome begun ended performs inductionHypothesis =>
      have steady := (inductionHypothesis plain).1 rfl
      refine ⟨nofun, .enclosed rfl rfl steady ?_ ?_⟩
      · cases outcome <;> rfl
      · cases outcome <;> rfl
  | goesOn performs rest first second =>
      have before := first plain.1
      have later := second (plain.2 _)
      exact ⟨fun joins => (before.1 joins).append (later.1 joins), before.2.append later.2⟩
  | stops performs inductionHypothesis => exact inductionHypothesis plain.1
  | caught performs inductionHypothesis => exact inductionHypothesis plain

/-- A run of a body that executes what it should, and nothing else. Afterwards a transaction is open
if one was open before. -/
structure Bracketed (connection : Connection) (isOpen : τ → Bool) (body : Body σ α) (state : σ)
    (start : τ) (ran : Run σ τ α) : Prop where
  performs : Performs (isOpen start) body state (performed ran.exchanges) ran.outcome ran.state
  stays : isOpen ran.final = isOpen start
  owned : Owned connection ran.exchanges

namespace Bracketed

variable {β : Type} {isOpen : τ → Bool} {start : τ} {first : Body σ β} {next : β → Body σ α}
  {one : Run σ τ β}

/-- A part that fails stops the whole. -/
theorem stops {failure : Failure} (before : Bracketed connection isOpen first state start one)
    (ended : one.outcome = .error failure) :
    Bracketed connection isOpen (first.follow next) state start
      ⟨.error failure, one.state, one.final, one.exchanges⟩ := by
  have performs := before.performs
  rw [ended] at performs
  exact ⟨.stops performs, before.stays, before.owned⟩

/-- Two parts one after the other leave a transaction open if one was open before the first. -/
theorem goesOn {value : β} {rest : Run σ τ α}
    (before : Bracketed connection isOpen first state start one) (ended : one.outcome = .ok value)
    (later : Bracketed connection isOpen (next value) one.state one.final rest) :
    Bracketed connection isOpen (first.follow next) state start
      { rest with exchanges := one.exchanges ++ rest.exchanges } := by
  have performs := before.performs
  have others := later.performs
  rw [ended] at performs
  rw [before.stays] at others
  refine ⟨?_, later.stays.trans before.stays, before.owned.append later.owned⟩
  simp only [performed_append]
  exact .goesOn performs others

end Bracketed

section

variable (laws : Bracketing engine connection isOpen controls)
  (opened : database.connection = some connection)

include laws opened

/-- A block is bracketed when its body is, wherever a transaction is open. -/
theorem block_bracketed {start : τ}
    (bracketed : ∀ middle ran, isOpen middle = true →
      (body.action database).runOn engine state middle = ran → Succeeds commitText ran.exchanges →
      Succeeds rollbackText ran.exchanges → Bracketed connection isOpen body state middle ran)
    {ran : Run σ τ α} (runs : (body.block.action database).runOn engine state start = ran)
    (commits : Succeeds commitText ran.exchanges) (rollsBack : Succeeds rollbackText ran.exchanges) :
    Bracketed connection isOpen body.block state start ran := by
  have tells := laws.tells start
  have quiet := laws.quiet (.inTransaction connection) start rfl
  rw [action] at runs
  cases inside : isOpen start with
  -- A block inside another one only asks whether it is inside, and adds no bounds.
  | true =>
      rw [Database.transaction_joins opened state (body.action database) (tells.trans inside)] at runs
      subst runs
      have inner := bracketed _ _ (quiet.trans inside) rfl
        (commits.subset (List.subset_cons_self _ _)) (rollsBack.subset (List.subset_cons_self _ _))
      have performs := inner.performs
      rw [quiet, inside] at performs
      exact ⟨inside ▸ .joined performs, inner.stays.trans quiet, owned_asked.append inner.owned⟩
  | false =>
      obtain ⟨first, answer, middle, answered, begins⟩ :=
        Database.runOn_enter opened state (tells.trans inside)
      obtain ⟨on, before, same, given⟩ := answered.inPlace laws.toClosing
      rw [Database.transaction, runOn_bind, begins] at runs
      cases answer with
      | error cause =>
          subst runs
          have closed := laws.notBegun _ _ before _ _ on ((same.trans quiet).trans inside) given
          exact ⟨inside ▸ .refused body state cause, closed.trans inside.symm,
            Database.beginning_owned⟩
      | ok begun =>
          simp only [Run.follow, if_true, runOn_afterwards, Run.afterwards] at runs
          generalize ranBody : (body.action database).runOn engine state middle = inner at runs
          generalize leaves : (database.leave inner.outcome).runOn engine inner.state inner.final =
            left at runs
          subst runs
          have innerPart : inner.exchanges ⊆ Database.beginning connection first (.ok begun) ++
              (inner.exchanges ++ left.exchanges) :=
            List.subset_append_of_subset_right _ (List.subset_append_left _ _)
          have leftPart : left.exchanges ⊆ Database.beginning connection first (.ok begun) ++
              (inner.exchanges ++ left.exchanges) :=
            List.subset_append_of_subset_right _ (List.subset_append_right _ _)
          have opens := laws.begun _ _ before _ _ on given
          -- The body runs on an open transaction and leaves it open, and then the block closes it.
          have within := bracketed middle inner opens ranBody (commits.subset innerPart)
            (rollsBack.subset innerPart)
          obtain ⟨⟨ended, closes⟩, ownedLeft, passes, kept, closed⟩ :=
            Database.leave_ends laws opened inner.state (within.stays.trans opens) inner.outcome
              leaves (commits.subset leftPart) (rollsBack.subset leftPart)
          have performs := within.performs
          rw [opens] at performs
          refine ⟨?_, closed.trans inside.symm,
            Database.beginning_owned.append (within.owned.append ownedLeft)⟩
          simp only [performed_append, closes, passes, kept, inside]
          exact .enclosed begun ended performs

/-- Every plain body is bracketed, inside a transaction and outside. -/
theorem bracketed {α : Type} (body : Body σ α) (plain : body.Plain controls) (state : σ) (start : τ)
    {ran : Run σ τ α} (runs : (body.action database).runOn engine state start = ran)
    (commits : Succeeds commitText ran.exchanges) (rollsBack : Succeeds rollbackText ran.exchanges) :
    Bracketed connection isOpen body state start ran := by
  induction body generalizing state start with
  | own code =>
      subst runs
      exact ⟨.own code state, rfl, fun _ => nofun⟩
  | run sql parameters =>
      obtain ⟨cursor, answer, before, final, on, same, given, whole⟩ :=
        Database.run_answered laws opened state start sql parameters
      rw [action, whole] at runs
      subst runs
      have stays : isOpen final = isOpen before := by
        have kept := laws.kept cursor sql (Database.driverParameters parameters) before on plain
        rwa [given] at kept
      exact ⟨.run sql parameters answer state, stays.trans same, Database.executed_owned⟩
  | block body inductionHypothesis =>
      exact block_bracketed laws opened
        (fun middle ran _ runs => inductionHypothesis plain state middle runs) runs commits rollsBack
  -- The second part starts where the first one left the transaction, which is as open as before.
  | follow first next firstHypothesis nextHypothesis =>
      rw [action, runOn_bind] at runs
      generalize ranFirst : (first.action database).runOn engine state start = one at runs
      rw [Run.follow] at runs
      cases ended : one.outcome with
      | error failure =>
          rw [ended] at runs
          subst runs
          exact (firstHypothesis plain.1 state start ranFirst commits rollsBack).stops ended
      | ok value =>
          simp only [ended] at runs
          generalize ranNext : ((next value).action database).runOn engine one.state one.final =
            rest at runs
          subst runs
          have before := firstHypothesis plain.1 state start ranFirst
            (commits.subset (List.subset_append_left _ _))
            (rollsBack.subset (List.subset_append_left _ _))
          have later := nextHypothesis value (plain.2 value) one.state one.final ranNext
            (commits.subset (List.subset_append_right _ _))
            (rollsBack.subset (List.subset_append_right _ _))
          exact before.goesOn ended later
  | attempt body inductionHypothesis =>
      rw [action, runOn_attempt] at runs
      subst runs
      have inner := inductionHypothesis plain state start rfl commits rollsBack
      exact ⟨.caught inner.performs, inner.stays, inner.owned⟩

/-- Nested blocks join the outermost one. A body that starts outside a transaction executes a
beginning, the statements of its body and a commit or a rollback for each outermost block that is
begun, and nothing for an inner one. Failures pass every block unchanged, and no two transactions are
ever open together. -/
theorem blocks_joined {α : Type} {body : Body σ α} (plain : body.Plain controls) (state : σ)
    {start : τ} (outside : isOpen start = false) {ran : Run σ τ α}
    (runs : (body.action database).runOn engine state start = ran)
    (commits : Succeeds commitText ran.exchanges) (rollsBack : Succeeds rollbackText ran.exchanges) :
    Performs false body state (performed ran.exchanges) ran.outcome ran.state ∧
      Alternates (performed ran.exchanges) ∧ Owned connection ran.exchanges ∧
      isOpen ran.final = false := by
  have whole := bracketed laws opened body plain state start runs commits rollsBack
  have performs := whole.performs
  rw [outside] at performs
  exact ⟨performs, (performs.alternates laws plain).2, whole.owned, whole.stays.trans outside⟩

end

end Body

/-! ## Two blocks on an engine that refuses a statement -/

namespace Latch

/-- These statements begin or end transactions. -/
def controls (sql : String) : Bool := sql = beginText || sql = commitText || sql = rollbackText

theorem bracketing (refuses : String → Bool) (connection : Connection) :
    Bracketing (engine refuses) connection id controls where
  toClosing := closing refuses connection
  begun cursor parameters isOpen result next _ done := by
    rw [execute_ok done]
    simp
  kept cursor sql parameters isOpen _ other := by
    simp only [controls, Bool.or_eq_false_iff, decide_eq_false_iff_not] at other
    have answered : (engine refuses).answer (.execute cursor sql parameters) isOpen =
        execute refuses sql isOpen := rfl
    rw [answered]
    cases done : execute refuses sql isOpen with
    | mk answer next =>
        cases answer with
        | error cause => rw [execute_error done]
        | ok result =>
            rw [execute_ok done]
            simp [other]
  known := by simp [controls]

end Latch

namespace Body

/-- A body of one insertion. -/
def insertion (row : String) : Body Unit RunResult :=
  .run ("INSERT INTO t VALUES (" ++ row ++ ")") .null

theorem insertion_plain (row : String) : (insertion row).Plain Latch.controls := by
  have apart (text : String) (other : text.toList.head? ≠ some 'I') :
      "INSERT INTO t VALUES (" ++ row ++ ")" ≠ text := by
    rintro rfl
    exact other (by simp)
  have begins := apart beginText (by decide)
  have commits := apart commitText (by decide)
  have rollsBack := apart rollbackText (by decide)
  simp [insertion, Plain, Latch.controls, begins, commits, rollsBack]

/-- The first block catches the failure of its inner block and fails later on, and that is caught,
too. Then comes a second block. -/
def orders : Body Unit RunResult :=
  .follow (.attempt (.block (.follow (.attempt (.block (insertion "1"))) fun _ =>
    .follow (insertion "2") fun _ => .own fun state =>
      ((.error .endOfRows : Except Failure Unit), state)))) fun _ =>
  .block (.follow (insertion "3") fun _ => .block (insertion "4"))

def ordersRun : Run Unit Bool RunResult :=
  (orders.action Database.lockedDatabase).runOn
    (Latch.engine (· = "INSERT INTO t VALUES (1)")) () false

theorem blocks_joined_orders :
    (orders.Plain Latch.controls ∧ Succeeds commitText ordersRun.exchanges ∧
      Succeeds rollbackText ordersRun.exchanges) ∧
      Performs false orders () (performed ordersRun.exchanges) ordersRun.outcome () ∧
      texts ordersRun.exchanges = [beginText, "INSERT INTO t VALUES (1)", "INSERT INTO t VALUES (2)",
        rollbackText, beginText, "INSERT INTO t VALUES (3)", "INSERT INTO t VALUES (4)",
        commitText] := by
  have plain : orders.Plain Latch.controls :=
    ⟨⟨insertion_plain _, fun _ => ⟨insertion_plain _, fun _ => trivial⟩⟩,
      fun _ => ⟨insertion_plain _, fun _ => insertion_plain _⟩⟩
  have commits : Succeeds commitText ordersRun.exchanges := by
    unfold Succeeds
    decide +kernel
  have rollsBack : Succeeds rollbackText ordersRun.exchanges := by
    unfold Succeeds
    decide +kernel
  have joined := blocks_joined (Latch.bracketing _ ⟨0⟩) rfl plain () rfl rfl commits rollsBack
  exact ⟨⟨plain, commits, rollsBack⟩, joined.1, by decide +kernel⟩

end Body

end Tabular
