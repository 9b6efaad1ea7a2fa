import Mathlib.Data.List.DropRight
import Tabular.Proofs.Engine.Closing
import Tabular.Proofs.Engine.Turns
import Tabular.Proofs.Outcome

/-!
This module tells when an opening is atomic. The connection is kept before the configured statements
are executed, so that a failure of one of them leaves the database open without them.
-/

namespace Tabular

open Tabular.Action Exchange

variable {τ : Type}

/-- The statements that an opening executes, in their order. -/
def Settings.statements (settings : Settings) : Except Failure (List String) := do
  let timeout ← settings.busyTimeout.toInteger
  pure (("PRAGMA busy_timeout=" ++ toString timeout) ::
    ((if settings.journalMode.isTrue then ["PRAGMA journal_mode=" ++ settings.journalMode.toText]
      else []) ++
    (if settings.foreignKeys.isTrue then ["PRAGMA foreign_keys=ON"] else [])))

/-- No two of the configured statements are the same. -/
theorem Settings.statements_nodup {settings : Settings} {planned : List String}
    (plan : settings.statements = .ok planned) : planned.Nodup := by
  obtain ⟨timeout, -, plan⟩ := Outcome.bind_eq_ok.mp plan
  obtain rfl := Except.ok.inj plan
  cases settings.journalMode.isTrue <;> cases settings.foreignKeys.isTrue <;>
    simp [String.ext_iff]

namespace Exchange

def isConnect : Exchange → Bool
  | ⟨.connect _, _⟩ => true
  | _ => false

/-- The exchanges after the last one that connects. -/
def sinceConnect (exchanges : List Exchange) : List Exchange :=
  exchanges.rtakeWhile fun exchange => !exchange.isConnect

theorem sinceConnect_cons {connect : Exchange} (connects : connect.isConnect = true)
    (before : List Exchange) {after : List Exchange}
    (apart : ∀ exchange ∈ after, exchange.isConnect = false) :
    sinceConnect (before ++ connect :: after) = after := by
  rw [sinceConnect, List.rtakeWhile, List.reverse_append, List.reverse_cons, List.append_assoc,
    List.takeWhile_append_of_pos, List.singleton_append, List.takeWhile_cons_of_neg,
    List.append_nil, List.reverse_reverse]
  · simp [connects]
  · simpa using apart

/-- A statement was executed without a failure on a new cursor of the connection. -/
def Accepted (connection : Connection) (sql : String) (exchanges : List Exchange) : Prop :=
  ∃ cursor result, [⟨.cursor connection, cursor⟩, ⟨.execute cursor sql (.tuple []), .ok result⟩] <:+:
    exchanges

theorem accepted_cons_iff {connection : Connection} {sql other : String} {cursor : Cursor}
    {result : RunResult} {exchanges : List Exchange} :
    Accepted connection sql (⟨.cursor connection, cursor⟩ ::
        ⟨.execute cursor other (.tuple []), .ok result⟩ :: exchanges) ↔
      sql = other ∨ Accepted connection sql exchanges := by
  constructor
  · intro ⟨given, answer, inside⟩
    rcases List.infix_cons_iff.mp inside with first | later
    · obtain ⟨-, same⟩ := List.cons_prefix_cons.mp first
      simp at same
      exact .inl same.1.2
    · rcases List.infix_cons_iff.mp later with second | rest
      · simp at second
      · exact .inr ⟨given, answer, rest⟩
  · intro accepts
    rcases accepts with rfl | ⟨given, answer, inside⟩
    · exact ⟨cursor, result, List.IsPrefix.isInfix (by simp)⟩
    · exact ⟨given, answer, List.infix_cons (List.infix_cons inside)⟩

theorem not_accepted_refused {connection : Connection} {sql other : String} {cursor : Cursor}
    {cause : Outside} : ¬ Accepted connection sql
      [⟨.cursor connection, cursor⟩, ⟨.execute cursor other (.tuple []), .error cause⟩] := by
  intro ⟨given, answer, inside⟩
  have whole := inside.eq_of_length rfl
  simp at whole

/-- The exchanges that execute planned statements one after the other, and how they end. -/
inductive Configures (connection : Connection) :
    List String → List Exchange → Except Failure Unit → Prop where
  | done (entry : LogRecord) : Configures connection [] [⟨.log entry, ()⟩] (.ok ())
  | accepted {sql : String} {others : List String} {exchanges : List Exchange}
      {outcome : Except Failure Unit} (cursor : Cursor) (result : RunResult)
      (rest : Configures connection others exchanges outcome) :
      Configures connection (sql :: others)
        (⟨.cursor connection, cursor⟩ :: ⟨.execute cursor sql (.tuple []), .ok result⟩ :: exchanges)
        outcome
  | refused {sql : String} (others : List String) (cursor : Cursor) (cause : Outside) :
      Configures connection (sql :: others)
        [⟨.cursor connection, cursor⟩, ⟨.execute cursor sql (.tuple []), .error cause⟩]
        (.error (.outside cause))

namespace Configures

variable {connection : Connection} {planned : List String} {exchanges : List Exchange}
  {outcome : Except Failure Unit} (configures : Configures connection planned exchanges outcome)

include configures

theorem apart : ∀ exchange ∈ exchanges, exchange.isConnect = false := by
  induction configures with
  | done entry => simp [isConnect]
  | accepted cursor result rest inductionHypothesis => simpa [isConnect] using inductionHypothesis
  | refused others cursor cause => simp [isConnect]

/-- The exchanges are without a failure exactly where they end well. -/
theorem smooth_iff : Smooth exchanges ↔ outcome = .ok () := by
  induction configures with
  | done entry => simp [Smooth, failure?]
  | accepted cursor result rest inductionHypothesis =>
      simpa [Smooth, failure?] using inductionHypothesis
  | refused others cursor cause => simp [Smooth, failure?]

/-- Distinct statements are all accepted exactly where their exchanges end well. -/
theorem accepted_iff (distinct : planned.Nodup) :
    (∀ sql ∈ planned, Accepted connection sql exchanges) ↔ outcome = .ok () := by
  induction configures with
  | done entry => simp
  | @accepted sql others exchanges outcome cursor result rest inductionHypothesis =>
      -- The rest does not execute the first statement again.
      obtain ⟨apart, distinct⟩ := List.nodup_cons.mp distinct
      rw [← inductionHypothesis distinct]
      simp only [List.forall_mem_cons, accepted_cons_iff, true_or, true_and]
      apply forall₂_congr
      intro other member
      have differs : other ≠ sql := fun same => apart (same ▸ member)
      simp [differs]
  | refused others cursor cause =>
      simp only [List.forall_mem_cons, not_accepted_refused, false_and, reduceCtorEq]

end Configures

/-- All configured statements were accepted since the connection was made. -/
def Configured (settings : Settings) (connection : Connection) (exchanges : List Exchange) : Prop :=
  ∃ planned, settings.statements = .ok planned ∧
    ∀ sql ∈ planned, Accepted connection sql (sinceConnect exchanges)

end Exchange

namespace Database

/-- What comes of an opening. -/
inductive Opened (engine : Engine τ) (database : Database) (start : τ) :
    Run Database τ Unit → Prop where
  | already {connection : Connection} (opened : database.connection = some connection) :
      Opened engine database start ⟨.ok (), database, start, []⟩
  | refused (closed : database.connection = none) {cause : Outside} {final : τ}
      (refuses : engine.answer (.connect database.path) start = (.error cause, final)) :
      Opened engine database start
        ⟨.error ((Failure.outside cause).attach database.openText .null), database, final,
          [⟨.connect database.path, .error cause⟩]⟩
  | unreadable {failure : Failure} (unreadable : database.settings.statements = .error failure)
      (connection : Connection) (final : τ) :
      Opened engine database start
        ⟨.error failure, { database with connection := some connection }, final,
          [⟨.connect database.path, .ok connection⟩]⟩
  | connected {planned : List String} (plan : database.settings.statements = .ok planned)
      {connection : Connection} {exchanges : List Exchange} {outcome : Except Failure Unit}
      (configures : Configures connection planned exchanges outcome) (final : τ) :
      Opened engine database start
        ⟨outcome, { database with connection := some connection }, final,
          ⟨.connect database.path, .ok connection⟩ :: exchanges⟩

variable (engine : Engine τ) (database : Database) (start : τ)

/-- This action executes planned statements and then writes a record. -/
def configure (connection : Connection) (message : String) : List String → Action Database Unit
  | [] => log .debug logger message
  | sql :: others => do
      prepareConnection connection sql
      configure connection message others

theorem configure_configures (connection : Connection) (message : String) (planned : List String) :
    ∃ final exchanges outcome, Configures connection planned exchanges outcome ∧
      (configure connection message planned).runOn engine database start =
        ⟨outcome, database, final, exchanges⟩ := by
  induction planned generalizing start with
  | nil => exact ⟨_, _, _, .done _, rfl⟩
  | cons sql others inductionHypothesis =>
      rw [configure, runOn_bind]
      simp only [prepareConnection, runOn_bind, runOn_cursor, runOn_statement, Run.follow]
      generalize engine.answer (.cursor connection) start = given
      generalize engine.answer (.execute given.1 sql (.tuple [])) given.2 = answered
      obtain ⟨answer, final⟩ := answered
      cases answer with
      | error cause => exact ⟨final, _, _, .refused others given.1 cause, rfl⟩
      | ok result =>
          obtain ⟨last, exchanges, outcome, configures, runs⟩ := inductionHypothesis final
          refine ⟨last, _, outcome, .accepted given.1 result configures, ?_⟩
          simp only [bare, runOn_pure, runs]
          rfl

/-- After the connection was made, an opening executes the configured statements. -/
theorem open_eq (closed : database.connection = none) :
    Database.open.runOn engine database start =
      (do
        let connection ← attached database.openText .null (← ask (.connect database.path))
        set { database with connection := some connection }
        let planned ← (database.settings.statements : Except Failure (List String))
        configure connection ("Opened database " ++ database.path) planned :
        Action Database Unit).runOn engine database start := by
  rw [Database.open, runOn_bind]
  simp only [runOn_get, Run.follow, closed, Option.isSome_none, Bool.false_eq_true, if_false,
    Settings.statements]
  cases database.settings.busyTimeout.toInteger with
  | error failure => rfl
  | ok timeout =>
    cases database.settings.journalMode.isTrue <;> cases database.settings.foreignKeys.isTrue <;>
      rfl

theorem open_opened : Opened engine database start (Database.open.runOn engine database start) := by
  cases opened : database.connection with
  | some connection =>
      rw [Database.open, runOn_bind]
      simp only [runOn_get, Run.follow, opened, Option.isSome_some, if_true]
      exact .already opened
  | none =>
      rw [open_eq engine database start opened, runOn_bind]
      have connects : (ask (.connect database.path) : Action Database _).runOn engine database start =
          ⟨.ok (engine.answer (.connect database.path) start).1, database,
            (engine.answer (.connect database.path) start).2,
            [⟨.connect database.path, (engine.answer (.connect database.path) start).1⟩]⟩ := rfl
      rw [connects]
      generalize refuses : engine.answer (.connect database.path) start = answered
      obtain ⟨answer, middle⟩ := answered
      cases answer with
      | error cause => exact .refused opened refuses
      | ok connection =>
        simp only [Run.follow, attached, runOn_pure, runOn_bind, runOn_set, runOn_lift]
        cases plan : database.settings.statements with
        | error failure => exact .unreadable plan connection middle
        | ok planned =>
          obtain ⟨final, exchanges, outcome, configures, runs⟩ := configure_configures engine
            { database with connection := some connection } middle connection
            ("Opened database " ++ database.path) planned
          simp only [runs]
          exact .connected plan configures final

/-! ## Openings and closings -/

inductive Lifecycle where
  | «open»
  | close
  deriving DecidableEq

def Lifecycle.perform : Lifecycle → Action Database Unit
  | .open => Database.open
  | .close => Database.close

/-- The exchanges since the connection of an open database was made are those of an opening. -/
structure Standing (settings : Settings) (exchanges : List Exchange) (database : Database) : Prop where
  kept : database.settings = settings
  configures : ∀ connection, database.connection = some connection →
    (∃ planned outcome, settings.statements = .ok planned ∧
      Configures connection planned (sinceConnect exchanges) outcome) ∨
    ∃ failure, settings.statements = .error failure

section

variable {database} {engine} {start}

/-- An opening that leaves the database not open was refused by the driver. -/
theorem Opened.refusal {run : Run Database τ Unit} (opens : Opened engine database start run)
    (refusals : ∀ path state cause, (engine.answer (.connect path) state).1 = .error cause →
      cause.kind.isEngine = true) (closed : run.state.connection = none) :
    ∃ message sql parameters, run.outcome = .error (.engine message sql parameters) := by
  cases opens with
  | already opened => simp [opened] at closed
  | @refused _ cause final refuses =>
      have isEngine := refusals database.path start cause (congrArg Prod.fst refuses)
      exact ⟨cause.message, database.openText, .null, by simp [Failure.attach, isEngine]⟩
  | unreadable unreadable connection final => exact nomatch closed
  | connected plan configures final => exact nomatch closed

variable {settings : Settings} {exchanges : List Exchange}
  (standing : Standing settings exchanges database)

include standing

/-- An opening and a closing keep the standing of a database. -/
theorem Standing.opened {run : Run Database τ Unit} (opens : Opened engine database start run) :
    Standing settings (exchanges ++ run.exchanges) run.state := by
  cases opens with
  | already opened => simpa using standing
  | refused closed refuses => exact ⟨standing.kept, fun connection opened => by simp [closed] at opened⟩
  | unreadable unreadable connection final =>
      exact ⟨standing.kept, fun _ _ => .inr ⟨_, standing.kept ▸ unreadable⟩⟩
  | connected plan configures final =>
      refine ⟨standing.kept, fun connection opened => .inl ?_⟩
      obtain rfl := Option.some.inj opened
      rw [sinceConnect_cons rfl exchanges configures.apart, ← standing.kept]
      exact ⟨_, _, plan, configures⟩

theorem Standing.closed :
    Standing settings (exchanges ++ (close.runOn engine database start).exchanges)
      (close.runOn engine database start).state := by
  rw [close, runOn_bind]
  simp only [runOn_get, Run.follow]
  cases opened : database.connection with
  | none => simpa using standing
  | some connection => exact ⟨standing.kept, fun other held => by cases held⟩

/-- An opening that leaves a configured connection returns. -/
theorem Standing.returns {run : Run Database τ Unit} (opens : Opened engine database start run)
    {connection : Connection} (kept : run.state.connection = some connection)
    (configured : Configured settings connection (exchanges ++ run.exchanges)) :
    run.outcome = .ok () := by
  obtain ⟨planned, plan, accepts⟩ := configured
  cases opens with
  | already opened => rfl
  | refused closed refuses => exact nomatch closed.symm.trans kept
  | unreadable unreadable connection final =>
      rw [standing.kept, plan] at unreadable
      exact nomatch unreadable
  | connected settled configures final =>
      rw [standing.kept, plan] at settled
      obtain rfl := Except.ok.inj settled
      obtain rfl := Option.some.inj kept
      rw [sinceConnect_cons rfl exchanges configures.apart] at accepts
      exact (configures.accepted_iff (Settings.statements_nodup plan)).mp accepts

/-- An open database is configured exactly where nothing failed since its connection was made. -/
theorem Standing.configured_iff {connection : Connection}
    (opened : database.connection = some connection) :
    Configured settings connection exchanges ↔
      Smooth (sinceConnect exchanges) ∧ ∃ timeout, settings.busyTimeout.toInteger = .ok timeout := by
  have readable : (∃ timeout, settings.busyTimeout.toInteger = .ok timeout) ↔
      ∃ planned, settings.statements = .ok planned := by
    cases read : settings.busyTimeout.toInteger <;>
      simp [Settings.statements, read, bind, Except.bind, pure, Except.pure]
  rw [Configured, readable]
  rcases standing.configures connection opened with ⟨planned, outcome, plan, configures⟩ |
      ⟨failure, unreadable⟩
  · rw [configures.smooth_iff, ← configures.accepted_iff (Settings.statements_nodup plan)]
    simp [plan]
  · simp [unreadable]

end

/-- Openings and closings of a database that was not open keep its standing. -/
theorem plays_standing (closed : database.connection = none) (calls : List Lifecycle) :
    Standing database.settings (plays engine Lifecycle.perform calls database start).exchanges
      (plays engine Lifecycle.perform calls database start).state := by
  apply plays_keep engine Lifecycle.perform
    fun turns state _ => Standing database.settings (Turn.exchanges turns) state
  · intro turns state start call standing
    rw [Turn.exchanges_append, Turn.exchanges_single]
    cases call with
    | «open» => exact standing.opened (open_opened engine state start)
    | close => exact standing.closed
  · exact ⟨rfl, fun connection opened => by simp [closed] at opened⟩

/-- An opening either returns with a configured connection, or it fails with an engine failure and
leaves the database not open. -/
def Atomic (settings : Settings) (exchanges : List Exchange) (opening : Run Database τ Unit) : Prop :=
  (opening.outcome = .ok () ∧ ∃ connection, opening.state.connection = some connection ∧
    Configured settings connection exchanges) ∨
  (∃ message sql parameters, opening.outcome = .error (.engine message sql parameters)) ∧
    opening.state.connection = none

/-- After any openings and closings, an open database is configured exactly where nothing has failed
since its connection was made. A further opening is atomic exactly where that holds of the connection
that it leaves. -/
theorem open_atomic_iff
    (refusals : ∀ path state cause, (engine.answer (.connect path) state).1 = .error cause →
      cause.kind.isEngine = true)
    (closed : database.connection = none) (calls : List Lifecycle)
    {played : Played Lifecycle Database τ Unit}
    (plays : Action.plays engine Lifecycle.perform calls database start = played)
    {opening : Run Database τ Unit}
    (opens : Database.open.runOn engine played.state played.final = opening) :
    (∀ connection, played.state.connection = some connection →
      (Configured database.settings connection played.exchanges ↔
        Smooth (sinceConnect played.exchanges) ∧
          ∃ timeout, database.settings.busyTimeout.toInteger = .ok timeout)) ∧
    (Atomic database.settings (played.exchanges ++ opening.exchanges) opening ↔
      ∀ connection, opening.state.connection = some connection →
        Smooth (sinceConnect (played.exchanges ++ opening.exchanges)) ∧
          ∃ timeout, database.settings.busyTimeout.toInteger = .ok timeout) := by
  have standing := plays_standing engine database start closed calls
  have opened := open_opened engine played.state played.final
  rw [plays] at standing
  rw [opens] at opened
  refine ⟨fun connection => standing.configured_iff, ?_⟩
  cases kept : opening.state.connection with
  | none =>
      -- Only a refused connect leaves the database not open.
      obtain ⟨message, sql, parameters, raised⟩ := opened.refusal refusals kept
      simp [Atomic, kept, raised]
  | some connection =>
      have configured := (standing.opened opened).configured_iff kept
      have returns := standing.returns opened kept
      simpa [Atomic, kept, ← configured] using returns

/-- The database is locked when foreign keys are to be enforced. -/
def lockedOpening : Engine Bool := Latch.engine (· = "PRAGMA foreign_keys=ON")

def loggingDatabase : Database := { path := "log.db", settings := { journalMode := .text "WAL" } }

def enforcingDatabase : Database := { path := "keys.db", settings := { foreignKeys := .bool true } }

/-- The calls that were made on a database that was not open. -/
def played (database : Database) (calls : List Lifecycle) : Played Lifecycle Database Bool Unit :=
  plays lockedOpening Lifecycle.perform calls database false

/-- The opening that follows the calls. -/
def reopening (database : Database) (calls : List Lifecycle) : Run Database Bool Unit :=
  Database.open.runOn lockedOpening (played database calls).state (played database calls).final

theorem open_atomic_iff_logging :
    (∀ path state cause, (lockedOpening.answer (.connect path) state).1 = .error cause →
      cause.kind.isEngine = true) ∧ loggingDatabase.connection = none ∧
    Atomic loggingDatabase.settings ((played loggingDatabase [.open, .close]).exchanges ++
      (reopening loggingDatabase [.open, .close]).exchanges)
      (reopening loggingDatabase [.open, .close]) := by
  have refusals : ∀ path state cause, (lockedOpening.answer (.connect path) state).1 = .error cause →
      cause.kind.isEngine = true := fun path state cause refused => nomatch refused
  have atomic := open_atomic_iff lockedOpening loggingDatabase false refusals rfl [.open, .close]
    (rfl : _ = played loggingDatabase [.open, .close])
    (rfl : _ = reopening loggingDatabase [.open, .close])
  refine ⟨refusals, rfl, atomic.2.mpr fun connection _ => ⟨?_, 5000, rfl⟩⟩
  unfold Smooth
  decide +kernel

/-- The failure of the driver is passed on as it is, and the connection is kept. A second opening
returns at once, and foreign keys are not enforced on the open database. -/
theorem open_partial :
    (played enforcingDatabase [.open, .open]).outcomes =
      [.error (.outside ⟨.operational, "database is locked"⟩), .ok ()] ∧
    texts (played enforcingDatabase [.open, .open]).exchanges =
      ["PRAGMA busy_timeout=5000", "PRAGMA foreign_keys=ON"] ∧
    (played enforcingDatabase [.open, .open]).state.connection = some ⟨0⟩ ∧
    ¬ Configured enforcingDatabase.settings ⟨0⟩ (played enforcingDatabase [.open, .open]).exchanges := by
  have opened : (played enforcingDatabase [.open, .open]).state.connection = some ⟨0⟩ := by
    decide +kernel
  refine ⟨by decide +kernel, by decide +kernel, opened, ?_⟩
  have standing := plays_standing lockedOpening enforcingDatabase false rfl [.open, .open]
  intro configured
  obtain ⟨smooth, -⟩ := (standing.configured_iff opened).mp configured
  unfold Smooth at smooth
  revert smooth
  decide +kernel

end Database

end Tabular
