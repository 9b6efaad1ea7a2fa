import Tabular.Proofs.Engine.Attribution
import Tabular.Proofs.Statement.Holding

/-!
This module tells which statement a failure names, where statements are executed on a database one by
one. A fetch that fails names the statement that was last executed on its cursor.
-/

namespace Tabular

open Tabular.Action Exchange

variable {σ τ α : Type}

/-- A callback that never fails. -/
def Action.Silent (callback : Callback σ) : Prop := ∀ row state, ∃ next, callback row state = (.ok (), next)

/-- A callback that raises nothing takes all rows. -/
theorem Action.Silent.feed_eq {callback : Callback σ} (silent : Silent callback) (rows : List Row)
    (state : σ) : ∃ next, feed callback rows state = ((rows.length, none), next) := by
  induction rows generalizing state with
  | nil => exact ⟨state, rfl⟩
  | cons row rest inductionHypothesis =>
      obtain ⟨next, seen⟩ := silent row state
      obtain ⟨last, fed⟩ := inductionHypothesis next
      exact ⟨last, by simp only [feed, seen, fed, List.length_cons]⟩

/-! ## Rows of a cursor -/

section

variable {before : List Exchange} {sql : String} {parameters : Value} {cursor : Cursor}
  (last : lastOn cursor before = some (sql, Database.driverParameters parameters))

include last

/-- A request for rows raises its failure with the statement of its cursor. -/
theorem attributed_asked {exchange : Exchange} (asks : exchange.request.source? = some cursor)
    (answer : Except Outside α)
    (fault : exchange.fault? = match answer with | .ok _ => none | .error cause => some cause)
    {others : List Exchange} (faultless : Faultless others) (state : σ) (final : τ) :
    (⟨Statement.raised sql parameters answer, state, final, exchange :: others⟩ :
      Run σ τ α).Attributed before := by
  cases answer with
  | ok value =>
      exact .still (List.forall_mem_cons.mpr ⟨fault, faultless⟩) rfl
  | error cause =>
      refine .struck rfl (Blamed.followed (Blamed.single [] fault ?_) faultless)
      rw [List.append_nil, owner?_source asks, last]

variable (engine : Engine τ) (state : σ) (start : τ)

/-- Walking over a cursor raises the failure of the statement that it executed. -/
theorem attributed_each {callback : Callback σ} (silent : Silent callback) :
    ((attaching sql parameters (eachRow cursor callback)).runOn engine state start).Attributed
      before := by
  obtain ⟨⟨rows, ending⟩, after, seen⟩ : ∃ told after,
      engine.answer (.rows cursor) start = (told, after) := ⟨_, _, rfl⟩
  obtain ⟨next, fed⟩ := silent.feed_eq rows state
  rw [Statement.runOn_attaching, Statement.runOn_eachRow engine seen fed]
  have advance : Faultless [⟨.advance cursor rows.length, ()⟩] := List.forall_mem_singleton.mpr rfl
  cases ending with
  | none => exact attributed_asked last rfl (.ok rows.length) rfl advance next _
  | some cause => exact attributed_asked last rfl (.error cause) rfl advance next _

end

/-! ## Statements of a database -/

namespace Database

variable {database : Database} {connection : Connection}
  (opened : database.connection = some connection)

include opened

theorem connected_eq : (database.connected : Action σ Connection) = pure connection := by
  simp only [connected, opened]

/-- Executing a statement raises the failure of this statement. -/
theorem execute_attributes (sql : String) (parameters : Value) :
    Attributes (database.execute sql parameters : Action σ (Cursor × RunResult)) := by
  intro τ engine state start
  obtain ⟨cursor, answer, final, -, runs⟩ :=
    runOn_execute engine state start opened sql parameters
  rw [runs]
  cases answer with
  | ok result =>
      refine .still ?_ rfl
      simp [Faultless, executed, fault?]
  | error cause =>
      exact .struck rfl (Blamed.single [_, _] rfl rfl)

/-- Running a statement for its effect raises the failure of this statement. -/
theorem run_attributes (sql : String) (parameters : Value) :
    Attributes (database.run sql parameters : Action σ RunResult) :=
  (execute_attributes opened sql parameters).bind fun _ => .pure _

/-- What is asked of the cursor after its execution is attributed to the statement. -/
theorem executing_attributes (sql : String) (parameters : Value) (asks : Cursor → Action σ α)
    (attributed : ∀ ⦃τ : Type⦄ (engine : Engine τ) cursor state start before,
      lastOn cursor before = some (sql, driverParameters parameters) →
      ((asks cursor).runOn engine state start).Attributed before) :
    Attributes (database.execute sql parameters >>= fun executed => asks executed.1) := by
  intro τ engine state start
  rw [runOn_bind]
  apply (execute_attributes opened sql parameters engine state start).follow
  obtain ⟨cursor, answer, final, -, runs⟩ :=
    runOn_execute engine state start opened sql parameters
  rw [runs]
  intro value returns
  cases answer with
  | error cause => exact nomatch returns
  | ok result =>
      obtain rfl := Except.ok.inj returns
      apply attributed
      simp [lastOn, executed, executedOn?]

/-- Fetching the first row raises the failure of the statement or of the fetch. -/
theorem first_attributes (sql : String) (parameters : Value) :
    Attributes (database.first sql parameters : Action σ (Option Row)) := by
  apply executing_attributes opened sql parameters fun cursor => do
    attached sql parameters (← ask (.fetchOne cursor))
  intro τ engine cursor state start before last
  simp only [runOn_bind, runOn_fetchOne, Run.follow, Statement.runOn_attached, List.append_nil]
  exact attributed_asked last rfl _ (by split <;> simp_all [fault?]) .nil state _

/-- Fetching all rows raises the failure of the statement or of the fetch. -/
theorem all_attributes (sql : String) (parameters : Value) :
    Attributes (database.all sql parameters : Action σ (List Row)) := by
  apply executing_attributes opened sql parameters fun cursor => do
    attached sql parameters (← ask (.fetchAll cursor))
  intro τ engine cursor state start before last
  simp only [runOn_bind, runOn_fetchAll, Run.follow, Statement.runOn_attached, List.append_nil]
  exact attributed_asked last rfl _ (by split <;> simp_all [fault?]) .nil state _

/-- Walking over the rows raises the failure of the statement when the callback raises nothing. -/
theorem each_attributes (sql : String) (parameters : Value) {callback : Callback σ}
    (silent : Silent callback) : Attributes (database.each sql parameters callback) := by
  apply executing_attributes opened sql parameters fun cursor =>
    attaching sql parameters (eachRow cursor callback)
  exact fun τ engine cursor state start before last => attributed_each last engine state start silent

/-- A script raises its own failure, with the text of the whole script. -/
theorem script_attributes (text : String) : Attributes (database.script text : Action σ Unit) := by
  apply Attributes.bind (.log _ _ _)
  intro _
  rw [connected_eq opened, pure_bind]
  intro τ engine state start
  have asks : (ask (.script connection text) : Action σ (Except Outside Unit)).runOn engine state
      start = ⟨.ok (engine.answer (.script connection text) start).1, state,
        (engine.answer (.script connection text) start).2,
        [⟨.script connection text, (engine.answer (.script connection text) start).1⟩]⟩ := rfl
  rw [runOn_bind, asks]
  simp only [Run.follow, Statement.runOn_attached, List.append_nil]
  generalize engine.answer (.script connection text) start = answered
  obtain ⟨answer, final⟩ := answered
  cases answer with
  | ok _ => exact .still (List.forall_mem_singleton.mpr rfl) rfl
  | error cause => exact .struck rfl (Blamed.single [] rfl rfl)

theorem inTransaction_attributes : Attributes (database.inTransaction : Action σ Bool) := by
  rw [inTransaction, connected_eq opened, pure_bind]
  exact .ask fun _ => rfl

/-- Reading a pragma raises the failure of its statement. -/
theorem pragma_attributes (name : String) :
    Attributes (database.pragma name : Action σ Value) := by
  apply Attributes.bind (first_attributes opened _ _)
  intro found
  split
  · exact .pure _
  · exact .pure _
  · exact .throw rfl

/-- Setting a pragma raises the failure of its statement. -/
theorem setPragma_attributes (name : String) (value : Value) :
    Attributes (database.setPragma name value : Action σ Unit) :=
  (run_attributes opened _ _).bind fun _ => .pure _

/-! A statement that is executed once, or whose first row is asked for, stops at a failure. -/

/-- Running a statement stops at its failure. -/
theorem run_halts (sql : String) (parameters : Value) :
    Halts (database.run sql parameters : Action σ RunResult) := by
  intro τ engine state start
  obtain ⟨cursor, answer, final, runs⟩ := runOn_run engine opened state start sql parameters
  rw [runs]
  cases answer with
  | ok result => exact .inl (by simp [Faultless, executed, fault?])
  | error cause => exact .inr ⟨[_, _], _, _, rfl, by simp [Faultless, fault?], rfl⟩

/-- Fetching the first row stops at the first failure. -/
theorem first_halts (sql : String) (parameters : Value) :
    Halts (database.first sql parameters : Action σ (Option Row)) := by
  intro τ engine state start
  obtain ⟨cursor, answer, final, -, runs⟩ :=
    runOn_execute engine state start opened sql parameters
  rw [first, runOn_bind, runs]
  cases answer with
  | error cause => exact .inr ⟨[_, _], _, _, rfl, by simp [Faultless, fault?], rfl⟩
  | ok result =>
      simp only [Run.follow, runOn_bind, runOn_fetchOne, Statement.runOn_attached, List.append_nil]
      generalize engine.answer (.fetchOne cursor) final = fetched
      obtain ⟨found, last⟩ := fetched
      have faultless : Faultless (executed connection sql parameters cursor (.ok result)) := by
        simp [Faultless, executed, fault?]
      cases found with
      | ok row => exact .inl (faultless.append (List.forall_mem_singleton.mpr rfl))
      | error cause => exact .inr ⟨_, _, _, rfl, faultless, rfl⟩

/-! ## Transactions -/

/-- A statement at the end of a block returns, or it is to blame. -/
theorem alone_closes (engine : Engine τ) (sql : String) (outcome : Except Failure α) (state : σ)
    (start : τ) (before : List Exchange) :
    ((database.run sql >>= fun _ => (pure () : Action σ Unit)).runOn engine state start).Closes
      before outcome := by
  obtain ⟨cursor, answer, final, runs⟩ := runOn_run engine opened state start sql .null
  rw [runOn_bind, runs]
  cases answer with
  | ok result =>
      refine .returned ?_ rfl
      simp [Run.follow, Except.mapError, Faultless, executed, fault?]
  | error cause => exact .struck rfl (Blamed.single [_, _] rfl rfl)

/-- Leaving a transaction returns, raises the failure of the body again, or raises its own. -/
theorem leave_closes (engine : Engine τ) (outcome : Except Failure α) (state : σ) (start : τ)
    (before : List Exchange) :
    ((database.leave outcome : Action σ Unit).runOn engine state start).Closes before outcome := by
  cases outcome with
  | ok value => exact alone_closes opened engine "COMMIT" _ state start before
  | error failure =>
      rw [leave, runOn_bind, runOn_inTransaction opened, Run.follow]
      generalize engine.answer (.inTransaction connection) start = told
      obtain ⟨stillOpen, middle⟩ := told
      cases stillOpen with
      | false => exact .raised (List.forall_mem_singleton.mpr rfl) rfl rfl
      | true =>
          obtain ⟨cursor, answer, final, runs⟩ := runOn_run engine opened state middle "ROLLBACK" .null
          simp only [if_true, runOn_bind, runs]
          cases answer with
          | ok result =>
              refine .raised ?_ rfl rfl
              simp [Run.follow, Except.mapError, Faultless, executed, fault?]
          | error cause => exact .struck rfl (Blamed.single [_, _, _] rfl rfl)

theorem enter_attributes : Attributes (database.enter : Action σ Bool) := by
  apply Attributes.bind (inTransaction_attributes opened)
  intro inside
  cases inside with
  | true => exact .pure _
  | false => exact (run_attributes opened _ _).bind fun _ => .pure _

/-- Running a statement changes no state of the caller. -/
theorem run_state (engine : Engine τ) (sql : String) (parameters : Value) (state : σ) (start : τ) :
    ((database.run sql parameters).runOn engine state start).state = state := by
  obtain ⟨cursor, answer, final, runs⟩ := runOn_run engine opened state start sql parameters
  rw [runs]

/-- The bounds of a block leave the state as it is. -/
theorem enter_state (engine : Engine τ) (state : σ) (start : τ) :
    ((database.enter).runOn engine state start).state = state := by
  rw [enter, runOn_bind, runOn_inTransaction opened, Run.follow]
  cases (engine.answer (.inTransaction connection) start).1 with
  | true => rfl
  | false =>
      have stays := run_state (σ := σ) opened engine "BEGIN TRANSACTION" .null
      simp only [Bool.false_eq_true, if_false, runOn_bind, Run.follow]
      split <;> exact stays _ _

/-- Leaving a transaction changes no state of the caller. -/
theorem leave_state (engine : Engine τ) (outcome : Except Failure α) (state : σ) (start : τ) :
    ((database.leave outcome : Action σ Unit).runOn engine state start).state = state := by
  have left := leave_left engine opened state start outcome
  generalize (database.leave outcome).runOn engine state start = run at left
  cases left <;> rfl

/-- A transaction is attributed while a property holds when its body is. -/
theorem transaction_attributesWhile {holds : σ → Prop} {body : Action σ α}
    (attributes : AttributesWhile holds body) : AttributesWhile holds (database.transaction body) := by
  apply AttributesWhile.bind
  · apply AttributesWhile.ofAttributes (enter_attributes opened)
    intro τ engine state start held
    rw [enter_state opened]
    exact held
  intro began
  cases began with
  | true =>
      exact attributes.afterwards (fun τ engine => leave_closes opened engine)
        fun τ engine => leave_state opened engine
  | false => exact attributes

/-- A transaction is attributed when its body is. -/
theorem transaction_attributes {body : Action σ α} (attributes : Attributes body) :
    Attributes (database.transaction body) := by
  have always : AttributesWhile (fun _ => True) body := .ofAttributes attributes fun _ _ _ _ _ => trivial
  exact fun τ engine state start => (transaction_attributesWhile opened always engine state start trivial).1

end Database

/-! ## Prepared statements -/

namespace Statement

variable {before : List Exchange} {engine : Engine τ} {database : Database} {connection : Connection}
  {statement : Statement} {start : τ}

/-- A statement was executed last on its cursor. -/
def Last (statement : Statement) (exchanges : List Exchange) : Prop :=
  ∀ cursor, statement.cursor = some cursor →
    lastOn cursor exchanges = some (statement.sql, Database.driverParameters statement.parameters)

/-- A run is attributed, and afterwards the statement was executed last on its cursor. -/
structure Traced (before : List Exchange) (statement : Statement) (run : Run σ τ α) : Prop where
  attributed : run.Attributed before
  last : statement.Last (before ++ run.exchanges)

/-- Nothing was asked for. -/
theorem Last.traced (last : statement.Last before) (value : α) (state : σ) (final : τ) :
    Traced before statement (⟨.ok value, state, final, []⟩ : Run σ τ α) :=
  ⟨.still .nil rfl, (List.append_nil before).symm ▸ last⟩

/-- What a cursor has just executed is its last statement. -/
theorem lastOn_executed (before opening : List Exchange) (cursor : Cursor) (sql : String)
    (parameters : Value) (answer : Except Outside RunResult) :
    lastOn cursor (before ++ (opening ++ execution cursor sql parameters answer)) =
      some (sql, Database.driverParameters parameters) := by
  rw [lastOn_append, lastOn_append]
  simp [lastOn, execution, executedOn?]

/-- An execution is to blame for its own failure. -/
theorem attributed_executed {opening : List Exchange} (faultless : Faultless opening) (cursor : Cursor)
    (sql : String) (parameters : Value) (answer : Except Outside RunResult) (state : σ) (final : τ) :
    (⟨raised sql parameters answer, state, final,
      opening ++ execution cursor sql parameters answer⟩ : Run σ τ RunResult).Attributed before := by
  cases answer with
  | ok result =>
      refine .still (faultless.append ?_) rfl
      simp [Faultless, execution, fault?]
  | error cause =>
      refine .struck rfl ?_
      rw [execution, List.append_cons]
      exact Blamed.single _ rfl rfl

/-- Nothing fails while a statement takes its cursor. -/
theorem Takes.faultless {held : Option Cursor} {opening : List Exchange} {cursor : Cursor}
    (takes : Takes database held opening cursor) : Faultless opening := by
  cases takes <;> simp [Faultless, fault?]

section

variable (opened : database.connection = some connection) (live : statement.finalized = false)

include opened live

/-- Binding parameters executes the statement that the cursor then belongs to. -/
theorem Bound.traced {parameters : Value} {run : Run Statement τ RunResult}
    (bound : Bound engine database parameters statement start run) (before : List Exchange) :
    Traced before run.state run := by
  cases bound with
  | finalized ended => exact nomatch live.symm.trans ended
  | unconnected _ bare closed => exact nomatch opened.symm.trans closed
  | executed _ takes answered =>
      refine ⟨attributed_executed takes.faultless _ _ _ _ _ _, fun cursor held => ?_⟩
      cases held
      exact lastOn_executed _ _ _ _ _ _

/-- A fetch reaches a cursor that belongs to its statement. -/
theorem Reached.traced {run : Run Statement τ Cursor} (last : statement.Last before)
    (reached : Reached engine database statement start run) : Traced before run.state run := by
  cases reached with
  | held _ holds => exact last.traced _ _ _
  | finalized ended => exact nomatch live.symm.trans ended
  | unconnected _ bare closed => exact nomatch opened.symm.trans closed
  | @executed _ bare connection opened cursor _ final answer answered =>
      have made : Faultless [⟨.cursor connection, cursor⟩] := List.forall_mem_singleton.mpr rfl
      refine ⟨?_, fun _ held => ?_⟩
      · exact (attributed_executed made cursor _ _ answer statement final).map (fun _ => cursor) _ _
      · cases held
        exact lastOn_executed _ [_] _ _ _ _

end

/-- Asking for rows executes nothing. -/
theorem lastOn_asking {cursor : Cursor} {asked : List Exchange}
    (asks : ∀ exchange ∈ asked, exchange.request.source? = some cursor) (place : Cursor)
    (exchanges : List Exchange) : lastOn place (exchanges ++ asked) = lastOn place exchanges := by
  have none : asked.filterMap (executedOn? place) = [] := by
    refine List.filterMap_eq_nil_iff.mpr fun exchange member => ?_
    obtain ⟨request, answer⟩ := exchange
    have source := asks _ member
    cases request with
    | execute => exact nomatch source
    | _ => rfl
  rw [lastOn_append, lastOn, none]
  rfl

/-- After the cursor was reached, its rows are asked for. -/
theorem Traced.asking {run : Run Statement τ Cursor} (traced : Traced before run.state run)
    {cursor : Cursor} (reaches : run.outcome = .ok cursor) {asked : Run σ τ α}
    (attributed : asked.Attributed (before ++ run.exchanges))
    (asks : ∀ exchange ∈ asked.exchanges, exchange.request.source? = some cursor) :
    Traced before run.state ({ asked with exchanges := run.exchanges ++ asked.exchanges }) := by
  constructor
  · cases traced.attributed with
    | struck raises blamed => exact nomatch reaches.symm.trans raises
    | calm faultless own =>
        cases attributed with
        | calm others free => exact .calm (faultless.append others) free
        | struck raises blamed => exact .struck raises blamed.after
  · intro place held
    rw [← List.append_assoc, lastOn_asking asks]
    exact traced.last place held

/-- Nothing fails when a statement is finalized. -/
theorem Finalized.faultless {run : Run Statement τ Unit}
    (finalized : Finalized engine statement start run) : Faultless run.exchanges := by
  cases finalized <;> simp [Faultless, fault?]

/-- A finalized statement holds no cursor of another statement. -/
theorem Finalized.last (last : statement.Last before) {run : Run Statement τ Unit}
    (finalized : Finalized engine statement start run) : run.state.Last (before ++ run.exchanges) := by
  cases finalized with
  | already ended => exact (List.append_nil before).symm ▸ last
  | bare live bare => exact fun _ held => nomatch bare.symm.trans held
  | closed live held => exact fun _ held => nomatch held

/-- The rows that are asked for once belong to the last execution. -/
theorem Reached.asked (opened : database.connection = some connection)
    (live : statement.finalized = false) (last : statement.Last before)
    {run : Run Statement τ Cursor} (reached : Reached engine database statement start run)
    {cursor : Cursor} (reaches : run.outcome = .ok cursor) {exchange : Exchange}
    (asks : exchange.request.source? = some cursor) (answer : Except Outside α)
    (fault : exchange.fault? = match answer with | .ok _ => none | .error cause => some cause)
    (state : σ) (final : τ) :
    Traced before run.state (⟨raised run.state.sql run.state.parameters answer, state, final,
      run.exchanges ++ [exchange]⟩ : Run σ τ α) := by
  have traced := reached.traced opened live last
  have executed := traced.last cursor (reached.holds reaches).1
  exact traced.asking reaches (attributed_asked executed asks answer fault .nil state final)
    (List.forall_mem_singleton.mpr asks)

section

variable (engine start) (opened : database.connection = some connection)
  (live : statement.finalized = false) (last : statement.Last before)

include opened live last

/-- A statement is asked for its rows once. -/
theorem fetched_attributed (asks : Cursor → Action Statement (Except Outside α))
    (exchange : Cursor → Except Outside α → Exchange)
    (answers : ∀ cursor statement start, ∃ answer final,
      (asks cursor).runOn engine statement start =
        ⟨.ok answer, statement, final, [exchange cursor answer]⟩)
    (asksFor : ∀ cursor answer, (exchange cursor answer).request.source? = some cursor)
    (fault : ∀ cursor answer, (exchange cursor answer).fault? =
      match answer with | .ok _ => none | .error cause => some cause) :
    ((executed database >>= fun cursor => asks cursor >>= fetched).runOn engine statement
      start).Attributed before := by
  have reached := executed_reached engine database statement start
  have traced := reached.traced opened live last
  rw [runOn_bind]
  apply traced.attributed.follow
  intro cursor reaches
  have executed := traced.last cursor (reached.holds reaches).1
  obtain ⟨answer, final, asked⟩ := answers cursor
    ((Statement.executed database).runOn engine statement start).state
    ((Statement.executed database).runOn engine statement start).final
  rw [runOn_bind, asked]
  simp only [fetched, Run.follow, runOn_bind, runOn_get, runOn_attached, List.append_nil]
  exact attributed_asked executed (asksFor _ _) answer (fault _ _) .nil _ _

/-- Walking over the rows of a statement is attributed when the callback raises nothing. -/
theorem each_attributed {callback : Callback σ} (silent : Silent callback) (inner : σ) :
    ((Statement.each database callback).runOn engine (statement, inner) start).Attributed before := by
  have reached := executed_reached engine database statement start
  have traced := reached.traced opened live last
  rw [Statement.each, runOn_bind, runOn_onPart]
  apply (traced.attributed.elsewhere _ _).follow
  intro cursor reaches
  have executed := traced.last cursor (reached.holds reaches).1
  have asked := attributed_each executed engine inner
    ((Statement.executed database).runOn engine statement start).final silent
  rw [runOn_attaching] at asked
  simp only [runOn_bind, runOn_get, Run.follow, List.nil_append, runOn_attaching, runOn_onPart]
  exact asked.elsewhere _ _

namespace Call

/-- Callbacks do not fail. -/
def Silent : Call σ → Prop
  | .each callback => Action.Silent callback
  | _ => True

/-- Every call of a prepared statement is attributed after every history. -/
theorem perform_attributed {call : Call σ} (silent : call.Silent) (inner : σ) :
    ((call.perform database).runOn engine (statement, inner) start).Attributed before := by
  cases call with
  | bind parameters =>
      have bound := bind_bound engine database statement start parameters
      rw [perform, runOn_besides]
      exact (bound.traced opened live before).attributed.map Answer.ran _ _
  | first =>
      rw [perform, runOn_besides]
      exact (fetched_attributed engine start opened live last (fun cursor => ask (.fetchOne cursor))
        (fun cursor answer => ⟨.fetchOne cursor, answer⟩) (fun _ _ _ => ⟨_, _, rfl⟩) (fun _ _ => rfl)
        fun _ answer => by cases answer <;> rfl).map Answer.row _ _
  | many count =>
      rw [perform, runOn_besides]
      exact (fetched_attributed engine start opened live last
        (fun cursor => ask (.fetchMany cursor count)) (fun cursor answer => ⟨.fetchMany cursor count, answer⟩)
        (fun _ _ _ => ⟨_, _, rfl⟩) (fun _ _ => rfl)
        fun _ answer => by cases answer <;> rfl).map Answer.rows _ _
  | all =>
      rw [perform, runOn_besides]
      exact (fetched_attributed engine start opened live last (fun cursor => ask (.fetchAll cursor))
        (fun cursor answer => ⟨.fetchAll cursor, answer⟩) (fun _ _ _ => ⟨_, _, rfl⟩) (fun _ _ => rfl)
        fun _ answer => by cases answer <;> rfl).map Answer.rows _ _
  | each callback =>
      rw [perform, runOn_wrap]
      exact (each_attributed engine start opened live last silent inner).map Answer.count _ _
  | finalize =>
      have finalized := finalize_finalized engine statement start
      rw [runOn_finalize]
      exact .still finalized.faultless rfl

/-- After a call, the statement was executed last on its cursor. -/
theorem perform_last (call : Call σ) (inner : σ) {run : Run (Statement × σ) τ Answer}
    (runs : (call.perform database).runOn engine (statement, inner) start = run) :
    run.state.1.Last (before ++ run.exchanges) := by
  have fetches {call : Call σ} {run : Run (Statement × σ) τ Answer}
      (fetched : Fetched engine database call statement inner start run) :
      run.state.1.Last (before ++ run.exchanges) := by
    cases fetched with
    | refused reached fails => exact (reached.traced opened live last).last
    | taken reached reaches asks hands =>
        intro place held
        rw [← List.append_assoc, lastOn_asking asks]
        exact (reached.traced opened live last).last place held
  subst runs
  cases call with
  | bind parameters =>
      rw [perform, runOn_besides]
      exact ((bind_bound engine database statement start parameters).traced opened live before).last
  | finalize =>
      rw [runOn_finalize]
      exact (finalize_finalized engine statement start).last last
  | first | many | all | each =>
      exact fetches (perform_fetched engine database statement start rfl inner)

end Call

end

end Statement

end Tabular
