import Tabular.Outcome
import Tabular.Proofs.Engine.Enclosing
import Tabular.Proofs.Value.Computed

/-!
This module tells which failures come before a write. An action that only inspects the database may
fail in any way, and what goes after it is checked from there on.
-/

namespace Tabular

open Tabular.Action

variable {σ τ ρ α β : Type}

/-! ## Reads and changes -/

/-- A read begins like this or is one of the pragmas that are only asked for. -/
def readStarts : List String :=
  ["SELECT ", "PRAGMA table_info(", "PRAGMA index_list(", "PRAGMA index_info(",
    "PRAGMA foreign_key_list("]

def isRead (sql : String) : Bool :=
  sql = "PRAGMA foreign_keys" || sql = "PRAGMA legacy_alter_table" ||
    readStarts.any fun start => start.toList.isPrefixOf sql.toList

/-- What begins like one of some texts does so whatever follows. -/
theorem begins_append {starts : List String} {start : String}
    (known : ∃ first ∈ starts, first.toList <+: start.toList) (rest : String) :
    (starts.any fun first => first.toList.isPrefixOf (start ++ rest).toList) = true := by
  obtain ⟨first, inside, begins⟩ := known
  rw [List.any_eq_true]
  refine ⟨first, inside, List.isPrefixOf_iff_prefix.mpr ?_⟩
  rw [String.toList_append]
  exact begins.trans (List.prefix_append _ _)

/-- A statement that starts as a read does is one, whatever follows. -/
theorem isRead_append {start : String}
    (known : ∃ first ∈ readStarts, first.toList <+: start.toList) (rest : String) :
    isRead (start ++ rest) = true := by
  rw [isRead, begins_append known rest, Bool.or_true]

/-- A request does not execute anything but a read. -/
def Request.isRead : Request → Bool
  | .execute _ sql _ => Tabular.isRead sql
  | .script _ _ => false
  | _ => true

namespace Exchange

/-- A statement that is no read was executed without a failure. -/
def changes : Exchange → Bool
  | ⟨.execute _ sql _, .ok _⟩ => !Tabular.isRead sql
  | ⟨.script _ _, .ok _⟩ => true
  | _ => false

/-- Only reads were executed. -/
def OnlyReads (exchanges : List Exchange) : Prop :=
  ∀ exchange ∈ exchanges, exchange.request.isRead = true

/-- Nothing but reads was executed without a failure, and no transaction was to be begun. -/
structure Untouched (exchanges : List Exchange) : Prop where
  unchanged : ∀ exchange ∈ exchanges, exchange.changes = false
  notBegun : beginText ∉ texts exchanges

/-- Reads followed by reads are reads. -/
theorem OnlyReads.append {first second : List Exchange} (reads : OnlyReads first)
    (others : OnlyReads second) : OnlyReads (first ++ second) :=
  List.forall_mem_append.mpr ⟨reads, others⟩

/-- Two parts that change nothing change nothing together. -/
theorem Untouched.append {first second : List Exchange} (untouched : Untouched first)
    (others : Untouched second) : Untouched (first ++ second) where
  unchanged := List.forall_mem_append.mpr ⟨untouched.unchanged, others.unchanged⟩
  notBegun := by
    rw [texts_append, List.mem_append, not_or]
    exact ⟨untouched.notBegun, others.notBegun⟩

/-- Exchanges that only read leave the database untouched. -/
theorem OnlyReads.untouched {exchanges : List Exchange} (reads : OnlyReads exchanges) :
    Untouched exchanges where
  unchanged := by
    intro exchange member
    have read := reads exchange member
    obtain ⟨request, answer⟩ := exchange
    cases request with
    | execute cursor sql parameters => cases answer <;> simp_all [changes, Request.isRead]
    | script connection text => exact nomatch read
    | _ => rfl
  notBegun := by
    intro member
    obtain ⟨⟨sql, parameters⟩, inside, same⟩ := List.mem_map.mp member
    obtain ⟨⟨request, answer⟩, present, executes⟩ := List.mem_filterMap.mp inside
    have read := reads _ present
    cases request with
    | execute cursor text values =>
        obtain ⟨rfl, rfl⟩ := Prod.mk.inj (Option.some.inj executes)
        obtain rfl : text = beginText := same
        exact absurd read (show ¬ Tabular.isRead beginText = true by decide)
    | _ => exact nomatch executes

end Exchange

open Exchange

/-! ## Actions that avoid some failures -/

namespace Action

/-- Every run of an action only executes reads. -/
def Inspects (action : Action σ α) : Prop :=
  ∀ ⦃τ : Type⦄ (engine : Engine τ) state start,
    OnlyReads (action.runOn engine state start).exchanges

/-- No run of an action fails with one of these causes. -/
def Avoids (causes : Failure → Bool) (action : Action σ α) : Prop :=
  ∀ ⦃τ : Type⦄ (engine : Engine τ) state start,
    Outcome.Avoids causes (action.runOn engine state start).outcome

/-- Where an action fails with one of these causes, it has changed nothing before. -/
def Guarded (causes : Failure → Bool) (action : Action σ α) : Prop :=
  ∀ ⦃τ : Type⦄ (engine : Engine τ) state start failure,
    (action.runOn engine state start).outcome = .error failure → causes failure = true →
    Untouched (action.runOn engine state start).exchanges

variable {causes : Failure → Bool} {action : Action σ α} {next : α → Action σ β}

namespace Inspects

theorem pure (value : α) : Inspects (Pure.pure value : Action σ α) :=
  fun _ _ _ _ => List.forall_mem_nil _

theorem throw (failure : Failure) : Inspects (MonadExcept.throw failure : Action σ α) :=
  fun _ _ _ _ => List.forall_mem_nil _

theorem lift (outcome : Except Failure α) : Inspects (liftM outcome : Action σ α) :=
  fun _ _ _ _ => List.forall_mem_nil _

/-- Asking for a read is an inspection. -/
theorem ask {request : Request} (read : request.isRead = true) :
    Inspects (Action.ask request : Action σ request.Answer) :=
  fun _ _ _ _ => List.forall_mem_singleton.mpr read

theorem log (level : Level) (logger message : String) :
    Inspects (Action.log level logger message : Action σ Unit) := ask rfl

/-- Two inspections, one after the other, are an inspection. -/
theorem bind (first : Inspects action) (rest : ∀ value, Inspects (next value)) :
    Inspects (action >>= next) := by
  intro τ engine state start
  rw [runOn_bind, Run.follow]
  split
  · exact (first engine state start).append (rest _ engine _ _)
  · exact first engine state start

/-- What follows a computation starts from its value. -/
theorem lifted {outcome : Except Failure α} {next : α → Action σ β}
    (rest : ∀ value, outcome = .ok value → Inspects (next value)) :
    Inspects ((liftM outcome : Action σ α) >>= next) := by
  cases outcome with
  | ok value => exact rest value rfl
  | error failure => exact throw failure

/-- Catching the failure of an inspection adds no request to it. -/
theorem attempt (inspects : Inspects action) : Inspects (Action.attempt action) := by
  intro τ engine state start
  rw [runOn_attempt]
  exact inspects engine state start

end Inspects

namespace Avoids

theorem lift {outcome : Except Failure α} (avoids : Outcome.Avoids causes outcome) :
    Avoids causes (liftM outcome : Action σ α) := fun _ _ _ _ => avoids

theorem pure (value : α) : Avoids causes (Pure.pure value : Action σ α) :=
  fun _ _ _ _ _ failed => nomatch failed

theorem throw {failure : Failure} (avoids : causes failure = false) :
    Avoids causes (MonadExcept.throw failure : Action σ α) := by
  intro τ engine state start other failed
  obtain rfl := Except.error.inj failed
  exact avoids

theorem ask (request : Request) : Avoids causes (Action.ask request : Action σ request.Answer) :=
  fun _ _ _ _ _ failed => nomatch failed

theorem log (level : Level) (logger message : String) :
    Avoids causes (Action.log level logger message : Action σ Unit) := ask _

/-- Two actions that avoid some failures avoid them one after the other. -/
theorem bind (first : Avoids causes action) (rest : ∀ value, Avoids causes (next value)) :
    Avoids causes (action >>= next) := by
  intro τ engine state start failure failed
  rw [runOn_bind, Run.follow] at failed
  split at failed
  · exact rest _ engine _ _ failure failed
  · next other raised =>
      obtain rfl := Except.error.inj failed
      exact first engine state start other raised

/-- An action that is followed by another one in any case. -/
theorem afterwards {last : Except Failure α → Action σ Unit} (first : Avoids causes action)
    (rest : ∀ outcome, Outcome.Avoids causes outcome → Avoids causes (last outcome)) :
    Avoids causes (attempt action >>= fun outcome => last outcome >>= fun _ => resume outcome) := by
  intro τ engine state start failure failed
  have avoids := first engine state start
  simp only [runOn_afterwards, Run.afterwards] at failed
  cases ended : ((last (action.runOn engine state start).outcome).runOn engine
      (action.runOn engine state start).state (action.runOn engine state start).final).outcome with
  | ok value =>
      rw [ended] at failed
      exact avoids failure failed
  | error other =>
      rw [ended] at failed
      obtain rfl := Except.error.inj failed
      exact rest _ avoids engine _ _ other ended

end Avoids

namespace Guarded

/-- An action that only reads is guarded against every failure. -/
theorem ofInspects (inspects : Inspects action) : Guarded causes action :=
  fun _ engine state start _ _ _ => (inspects engine state start).untouched

/-- An action that never ends with a failure is guarded against it. -/
theorem ofAvoids (avoids : Avoids causes action) : Guarded causes action := by
  intro τ engine state start failure failed blamed
  rw [avoids engine state start failure failed] at blamed
  cases blamed

/-- An action guarded against more failures is guarded against fewer. -/
theorem mono {others : Failure → Bool} (guarded : Guarded others action)
    (weaker : ∀ failure, causes failure = true → others failure = true) : Guarded causes action :=
  fun _ engine state start failure failed blamed =>
    guarded engine state start failure failed (weaker failure blamed)

/-- Nothing is changed before an action that is guarded. -/
theorem after (first : Inspects action) (rest : ∀ value, Guarded causes (next value)) :
    Guarded causes (action >>= next) := by
  intro τ engine state start failure failed blamed
  have untouched := (first engine state start).untouched
  rw [runOn_bind, Run.follow] at failed ⊢
  split at failed
  · exact untouched.append (rest _ engine _ _ failure failed blamed)
  · exact untouched

theorem lifted {outcome : Except Failure α} {next : α → Action σ β}
    (rest : ∀ value, outcome = .ok value → Guarded causes (next value)) :
    Guarded causes ((liftM outcome : Action σ α) >>= next) := by
  cases outcome with
  | ok value => exact rest value rfl
  | error failure => exact ofInspects (.throw failure)

/-- Nothing fails after an action that is guarded. -/
theorem before (first : Guarded causes action) (rest : ∀ value, Avoids causes (next value)) :
    Guarded causes (action >>= next) := by
  intro τ engine state start failure failed blamed
  rw [runOn_bind, Run.follow] at failed ⊢
  split at failed
  · rw [rest _ engine _ _ failure failed] at blamed
    cases blamed
  · next other raised =>
      obtain rfl := Except.error.inj failed
      exact first engine state start other raised blamed

/-- A handler goes on with the failures that changed nothing, and passes on the others. -/
theorem handled {others : Failure → Bool} {handler : Except Failure α → Action σ β}
    (first : Guarded others action) (returns : ∀ value, Avoids causes (handler (.ok value)))
    (goes : ∀ failure, others failure = true → Guarded causes (handler (.error failure)))
    (passes : ∀ failure, others failure = false → Avoids causes (handler (.error failure))) :
    Guarded causes (attempt action >>= handler) := by
  intro τ engine state start failure failed blamed
  rw [runOn_bind, runOn_attempt] at failed ⊢
  simp only [Run.follow] at failed ⊢
  cases ended : (action.runOn engine state start).outcome with
  | ok value =>
      rw [ended] at failed
      rw [returns value engine _ _ failure failed] at blamed
      cases blamed
  | error cause =>
      rw [ended] at failed
      cases known : others cause with
      | true =>
          have untouched := first engine state start cause ended known
          exact untouched.append (goes cause known engine _ _ failure failed blamed)
      | false =>
          rw [passes cause known engine _ _ failure failed] at blamed
          cases blamed

end Guarded

end Action

/-! ## Statements of a database -/

/-- The library finds these failures before it writes. -/
def Failure.isMistake (failure : Failure) : Bool := failure.isUsage || failure.isSchemaRefusal

namespace Action

/-- An action only fails where the driver or the engine does. -/
abbrev Relays (action : Action σ α) : Prop := Avoids (fun failure => !failure.isReported) action

/-- An action that only relays reported failures is guarded against mistakes of the caller. -/
theorem Guarded.ofRelays {action : Action σ α} (relays : Relays action) :
    Guarded Failure.isMistake action := by
  apply Guarded.ofAvoids
  intro τ engine state start failure failed
  have reported : failure.isReported = true := by
    simpa using relays engine state start failure failed
  cases failure with
  | engine | outside => rfl
  | _ => exact nomatch reported

end Action

namespace Database

variable (database : Database) {sql : String} (parameters : Value)

/-- Asking for the connection sends no statement. -/
theorem connected_inspects : Inspects (database.connected : Action σ Connection) := by
  unfold connected
  split
  · exact .pure _
  · exact .throw _

/-- Attaching the statement to a failure sends nothing. -/
theorem attached_inspects (sql : String) (answer : Except Outside α) :
    Inspects (attached sql parameters answer : Action σ α) := by
  unfold attached
  split
  · exact .pure _
  · exact .throw _

section

variable (read : isRead sql = true)

include read

/-- Executing a statement that reads is an inspection. -/
theorem execute_inspects : Inspects (database.execute sql parameters : Action σ (Cursor × RunResult)) := by
  apply Inspects.bind (.log _ _ _)
  intro _
  apply Inspects.bind (connected_inspects database)
  intro connection
  apply Inspects.bind (.ask rfl)
  intro cursor
  have executes : (Request.execute cursor sql (driverParameters parameters)).isRead = true := read
  apply Inspects.bind (.ask executes)
  intro answer
  apply Inspects.bind (attached_inspects parameters sql answer)
  intro result
  exact .pure _

/-- Fetching the first row of a reading statement is an inspection. -/
theorem first_inspects : Inspects (database.first sql parameters : Action σ (Option Row)) := by
  apply Inspects.bind (execute_inspects database parameters read)
  intro executed
  apply Inspects.bind (.ask rfl)
  intro answer
  exact attached_inspects parameters sql answer

/-- Fetching all rows of a reading statement is an inspection. -/
theorem all_inspects : Inspects (database.all sql parameters : Action σ (List Row)) := by
  apply Inspects.bind (execute_inspects database parameters read)
  intro executed
  apply Inspects.bind (.ask rfl)
  intro answer
  exact attached_inspects parameters sql answer

end

/-- Walking over the rows of a cursor sends no further statement, whatever the callback answers. -/
theorem eachRow_inspects (cursor : Cursor) (callback : Callback σ) :
    Inspects (eachRow cursor callback) := by
  apply Inspects.bind (.ask rfl)
  intro answer
  apply Inspects.bind
  · exact fun _ _ _ _ => List.forall_mem_nil _
  intro fed
  apply Inspects.bind (.ask rfl)
  intro _
  obtain ⟨count, failure⟩ := fed
  obtain ⟨rows, ending⟩ := answer
  cases failure <;> cases ending
  · exact .pure _
  all_goals exact .throw _

/-- Walking over the rows of a reading statement is an inspection. -/
theorem each_inspects (read : isRead sql = true) (callback : Callback σ) :
    Inspects (database.each sql parameters callback) := by
  apply Inspects.bind (execute_inspects database parameters read)
  intro executed
  apply Inspects.bind (eachRow_inspects executed.1 callback).attempt
  intro outcome
  cases outcome
  · exact .throw _
  · exact .pure _

/-! A statement only fails where the driver or the engine does. -/

/-- Asking for the connection fails only with a reported failure, that the database is closed. -/
theorem connected_relays : Relays (database.connected : Action σ Connection) := by
  unfold connected
  split
  · exact .pure _
  · exact .throw rfl

/-- A failure of the engine with its statement attached is a reported one. -/
theorem attach_isReported (sql : String) (cause : Outside) :
    ((Failure.outside cause).attach sql parameters).isReported = true := by
  simp only [Failure.attach]
  split <;> rfl

/-- What the engine refuses is relayed with its statement attached. -/
theorem attached_relays (sql : String) (answer : Except Outside α) :
    Relays (attached sql parameters answer : Action σ α) := by
  unfold attached
  split
  · exact .pure _
  · exact .throw (by rw [attach_isReported, Bool.not_true])

/-- Executing a statement fails only with reported failures. -/
theorem execute_relays (sql : String) :
    Relays (database.execute sql parameters : Action σ (Cursor × RunResult)) := by
  apply Avoids.bind (.log _ _ _)
  intro _
  apply Avoids.bind (connected_relays database)
  intro connection
  apply Avoids.bind (.ask _)
  intro cursor
  apply Avoids.bind (.ask _)
  intro answer
  apply Avoids.bind (attached_relays parameters sql answer)
  intro result
  exact .pure _

/-- So does running it for its effect. -/
theorem run_relays (sql : String) :
    Relays (database.run sql parameters : Action σ RunResult) := by
  apply Avoids.bind (execute_relays database parameters sql)
  intro executed
  exact .pure _

/-- Fetching the first row fails only with reported failures. -/
theorem first_relays (sql : String) :
    Relays (database.first sql parameters : Action σ (Option Row)) := by
  apply Avoids.bind (execute_relays database parameters sql)
  intro executed
  apply Avoids.bind (.ask _)
  intro answer
  exact attached_relays parameters sql answer

/-- Fetching all rows fails only with reported failures. -/
theorem all_relays (sql : String) :
    Relays (database.all sql parameters : Action σ (List Row)) := by
  apply Avoids.bind (execute_relays database parameters sql)
  intro executed
  apply Avoids.bind (.ask _)
  intro answer
  exact attached_relays parameters sql answer

/-- Setting a pragma fails only with reported failures. -/
theorem setPragma_relays (name : String) (value : Value) :
    Relays (database.setPragma name value : Action σ Unit) := by
  apply Avoids.bind (run_relays database .null _)
  intro _
  exact .pure _

/-- Asking whether a transaction is open fails only with reported failures. -/
theorem inTransaction_relays :
    Relays (database.inTransaction : Action σ Bool) := by
  apply Avoids.bind (connected_relays database)
  intro connection
  exact .ask _

/-- Leaving a block relays what the block ended with, and reported failures of its own. -/
theorem leave_relays {outcome : Except Failure α}
    (relays : Outcome.Avoids (fun failure => !failure.isReported) outcome) :
    Relays (database.leave outcome : Action σ Unit) := by
  cases outcome with
  | ok value =>
      apply Avoids.bind (run_relays database .null _)
      intro _
      exact .pure _
  | error failure =>
      have passes : Relays (throw failure : Action σ Unit) :=
        .throw (relays failure rfl)
      apply Avoids.bind (inTransaction_relays database)
      intro stillOpen
      cases stillOpen with
      | true => exact (run_relays database .null _).bind fun _ => passes
      | false => exact passes

/-- A transaction around a body that relays only reported failures does so itself. -/
theorem transaction_relays {body : Action σ α} (relays : Relays body) :
    Relays (database.transaction body) := by
  have begins : Relays (database.enter : Action σ Bool) := by
    apply Avoids.bind (inTransaction_relays database)
    intro inside
    cases inside with
    | true => exact .pure _
    | false => exact (run_relays database .null _).bind fun _ => .pure _
  apply Avoids.bind begins
  intro began
  cases began with
  | true => exact .afterwards relays fun outcome => leave_relays database
  | false => exact relays

/-- A statement that fails has changed nothing. -/
theorem run_guarded (causes : Failure → Bool) (other : sql ≠ beginText) :
    Guarded causes (database.run sql parameters : Action σ RunResult) := by
  intro τ engine state start failure failed _
  cases opened : database.connection with
  | none =>
      have reads : OnlyReads [⟨.log ⟨.debug, logger, sql ++ " " ++ parameters.literal⟩, ()⟩] :=
        List.forall_mem_singleton.mpr rfl
      simp only [Database.run, execute, connected, opened, runOn_bind, runOn_log, Run.follow,
        runOn_throw, List.append_nil]
      exact reads.untouched
  | some connection =>
      obtain ⟨cursor, answer, final, runs⟩ := runOn_run engine opened state start sql parameters
      rw [runs] at failed ⊢
      cases answer with
      | ok result => cases failed
      | error cause =>
          refine ⟨by simp [executed, changes], fun begun => ?_⟩
          have same : sql = beginText := by simpa [executed, texts, statements, statement?] using begun
          exact other same

end Database

end Tabular
