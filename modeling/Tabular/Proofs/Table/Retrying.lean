import Tabular.Proofs.Table.Attribution
import Tabular.Proofs.Table.Once

/-!
This module tells after which failures an upsert looks its row up again. It should do so where the engine
says that a key is taken, but the statement and the values that it binds are searched for the same words.
-/

namespace Tabular

open Tabular.Action Exchange

variable {σ τ ρ υ α β : Type}

namespace Exchange

/-- The warning that an upsert writes before it looks its row up again. -/
def warnsRetry : Exchange → Bool
  | ⟨.log entry, _⟩ => entry.level = .warning && entry.logger = Schema.rowLogger
  | _ => false

/-- A row was looked up again. -/
def Retried (exchanges : List Exchange) : Prop := ∃ exchange ∈ exchanges, exchange.warnsRetry = true

instance (exchanges : List Exchange) : Decidable (Retried exchanges) :=
  inferInstanceAs (Decidable (∃ exchange ∈ exchanges, exchange.warnsRetry = true))

/-- A failure of the driver and the statement that it belongs to. -/
structure Strike where
  cause : Outside
  sql : String
  parameters : Value
  deriving DecidableEq

/-- This function gives the first failure in exchanges that come after others. -/
def strikeAfter? (before : List Exchange) : List Exchange → Option Strike
  | [] => none
  | exchange :: rest =>
      match exchange.fault? with
      | some cause => (owner? before exchange.request).map fun owner => ⟨cause, owner.1, owner.2⟩
      | none => strikeAfter? (before ++ [exchange]) rest

/-- This function gives the first failure of the driver. -/
def strike? (exchanges : List Exchange) : Option Strike := strikeAfter? [] exchanges

/-- The first failure comes after everything that did not fail. -/
theorem strikeAfter?_faultless (before : List Exchange) {first : List Exchange}
    (faultless : Faultless first) (rest : List Exchange) :
    strikeAfter? before (first ++ rest) = strikeAfter? (before ++ first) rest := by
  induction first generalizing before with
  | nil => simp
  | cons exchange others inductionHypothesis =>
      obtain ⟨silent, faultless⟩ := List.forall_mem_cons.mp faultless
      rw [List.cons_append, strikeAfter?, silent, inductionHypothesis _ faultless,
        List.append_assoc, List.singleton_append]

/-- Where nothing failed, there is no first failure. -/
theorem strike?_faultless {exchanges : List Exchange} (faultless : Faultless exchanges) :
    strike? exchanges = none := by
  rw [strike?, ← List.append_nil exchanges, strikeAfter?_faultless [] faultless]
  rfl

/-- The first failure is the one that nothing failed before. -/
theorem strike?_first {earlier : List Exchange} (faultless : Faultless earlier) {failing : Exchange}
    {cause : Outside} (fails : failing.fault? = some cause) {sql : String} {parameters : Value}
    (owned : owner? earlier failing.request = some (sql, parameters)) (later : List Exchange) :
    strike? (earlier ++ failing :: later) = some ⟨cause, sql, parameters⟩ := by
  rw [strike?, strikeAfter?_faultless [] faultless, List.nil_append, strikeAfter?, fails]
  simp only [owned, Option.map_some]

end Exchange

/-! ## Actions that write no warning -/

namespace Action

/-- No run of an action writes the warning. -/
def Unwarned (action : Action σ α) : Prop :=
  ∀ ⦃τ : Type⦄ (engine : Engine τ) state start, ¬ Retried (action.runOn engine state start).exchanges

namespace Unwarned

variable {action : Action σ α} {next : α → Action σ β}

theorem ask {request : Request} (silent : ∀ answer, warnsRetry ⟨request, answer⟩ = false) :
    Unwarned (Action.ask request : Action σ request.Answer) := by
  rintro τ engine state start ⟨exchange, member, warns⟩
  obtain rfl := List.mem_singleton.mp member
  exact nomatch warns.symm.trans (silent _)

theorem lift (outcome : Except Failure α) : Unwarned (liftM outcome : Action σ α) := by
  rintro τ engine state start ⟨exchange, member, -⟩
  exact absurd member List.not_mem_nil

/-- Two actions without the warning do not write it one after the other. -/
theorem bind (first : Unwarned action) (rest : ∀ value, Unwarned (next value)) :
    Unwarned (action >>= next) := by
  rintro τ engine state start ⟨exchange, member, warns⟩
  rw [runOn_bind, Run.follow] at member
  split at member
  · rcases List.mem_append.mp member with member | member
    · exact first engine state start ⟨exchange, member, warns⟩
    · exact rest _ engine _ _ ⟨exchange, member, warns⟩
  · exact first engine state start ⟨exchange, member, warns⟩

/-- Attaching a statement to a failure writes no warning. -/
theorem attached (sql : String) (parameters : Value) (answer : Except Outside α) :
    Unwarned (Action.attached sql parameters answer : Action σ α) := by
  cases answer with
  | ok result => exact lift (.ok result)
  | error cause => exact lift (.error _)

end Unwarned

end Action

namespace Database

variable (database : Database)

/-- Executing a statement does not write the warning. -/
theorem execute_unwarned (sql : String) (parameters : Value) :
    Unwarned (database.execute sql parameters : Action σ (Cursor × RunResult)) := by
  apply Unwarned.bind (.ask fun _ => by simp [warnsRetry])
  intro _
  apply Unwarned.bind
  · rw [connected]
    split
    · exact .lift (.ok _)
    · exact .lift (.error _)
  intro connection
  apply Unwarned.bind (.ask fun _ => rfl)
  intro cursor
  apply Unwarned.bind (.ask fun _ => rfl)
  intro answer
  exact (Unwarned.attached sql parameters answer).bind fun result => .lift (.ok (cursor, result))

/-- Nor does running one. -/
theorem run_unwarned (sql : String) (parameters : Value) :
    Unwarned (database.run sql parameters : Action σ RunResult) :=
  (database.execute_unwarned sql parameters).bind fun executed => .lift (.ok executed.2)

/-- Nor does fetching its first row. -/
theorem first_unwarned (sql : String) (parameters : Value) :
    Unwarned (database.first sql parameters : Action σ (Option Row)) := by
  apply (database.execute_unwarned sql parameters).bind
  intro executed
  exact Unwarned.bind (.ask fun _ => rfl) fun answer => .attached sql parameters answer

end Database

namespace Schema

variable (schema : Schema) (database : Database)

/-- Reading a stored row does not write the warning. -/
theorem storedRow_unwarned (filter : Value) :
    Unwarned (schema.storedRow database filter : Action σ (Option Row)) :=
  (Unwarned.lift _).bind fun _ => (Unwarned.lift _).bind fun bound =>
    database.first_unwarned bound.sql bound.parameters

/-- Nor does an update by a filter. -/
theorem updateWhere_unwarned (filter row : Value) :
    Unwarned (schema.updateWhere database filter row : Action σ RunResult) :=
  (Unwarned.lift _).bind fun _ => (Unwarned.lift _).bind fun bound =>
    database.run_unwarned bound.sql bound.parameters

/-- Nor does writing over a stored row. -/
theorem writeOver_unwarned (filter row : Value) (found : Option Row) :
    Unwarned (schema.writeOver database filter row found : Action σ Value) := by
  cases found with
  | none =>
      apply Unwarned.bind
      · exact (Unwarned.lift _).bind fun bound => database.run_unwarned bound.sql bound.parameters
      · exact fun _ => .lift _
  | some stored =>
      unfold writeOver
      cases schema.keyColumn? with
      | some key =>
          apply (Unwarned.lift _).bind
          exact fun _ => (schema.updateWhere_unwarned database _ row).bind fun _ => .lift _
      | none => exact (schema.updateWhere_unwarned database filter row).bind fun _ => .lift _

/-- One round of an upsert does not write the warning, which stands between two rounds. -/
theorem tryUpsert_unwarned (filter row : Value) :
    Unwarned (schema.tryUpsert database filter row : Action σ Value) :=
  (schema.storedRow_unwarned database filter).bind fun found =>
    schema.writeOver_unwarned database filter row found

/-! ## The first attempt -/

variable {schema database} {connection : Connection} {row : Value}

/-- An attempt stops at the first failure of the driver and raises it. Without one it raises nothing that
counts as a taken key. -/
theorem tryUpsert_stops (opened : database.connection = some connection) (filter : Value)
    (engine : Engine τ) (state : σ) (start : τ) {first : Run σ τ Value}
    (runs : (schema.tryUpsert database filter row).runOn engine state start = first) :
    (Faultless first.exchanges ∧
        ∀ failure, first.outcome = .error failure → failure.violates = false) ∨
      ∃ earlier failing cause sql parameters, first.exchanges = earlier ++ [failing] ∧
        Faultless earlier ∧ failing.fault? = some cause ∧
        owner? earlier failing.request = some (sql, Database.driverParameters parameters) ∧
        first.outcome = .error ((Failure.outside cause).attach sql parameters) := by
  have attributed := schema.tryUpsert_attributes opened filter row engine state start
  have halts := schema.tryUpsert_halts opened filter row engine state start
  rw [runs] at attributed halts
  cases attributed with
  | calm faultless own =>
      exact .inl ⟨faultless, fun failure failed => Failure.violates_own (own failure failed)⟩
  | struck raises blamed =>
      rcases halts with faultless | ⟨earlier, failing, _, split, faultless, -⟩
      · exact absurd faultless blamed.not_faultless
      · rw [split] at blamed
        obtain ⟨cause, sql, parameters, fails, owned, rfl⟩ := blamed.atLast faultless
        exact .inr ⟨earlier, failing, cause, sql, parameters, split, faultless, fails, owned, raises⟩

/-- An upsert does what its first attempt does, and goes on behind a warning where that failed because a
key was taken. -/
theorem upsert_goesOn {filter : Value} (looked : schema.lookup row = .ok filter)
    (engine : Engine τ) (state : σ) (start : τ) {first : Run σ τ Value}
    (tries : (schema.tryUpsert database filter row).runOn engine state start = first) :
    ∃ later, ((schema.upsert database row).runOn engine state start).exchanges =
        first.exchanges ++ later ∧
      ((later = [] ∧ ∀ failure, first.outcome = .error failure → failure.violates = false) ∨
        Retried later ∧ ∃ failure, first.outcome = .error failure ∧ failure.violates = true) := by
  rw [upsert_eq looked, runOn_bind, runOn_attempt, tries, Run.follow]
  obtain ⟨outcome, after, final, exchanges⟩ := first
  cases outcome with
  | ok result => exact ⟨[], rfl, .inl ⟨rfl, by simp⟩⟩
  | error failure =>
      cases taken : failure.violates with
      | false =>
          refine ⟨[], by simp [taken], .inl ⟨rfl, ?_⟩⟩
          rintro _ ⟨⟩
          exact taken
      | true =>
          simp only [taken, if_true, runOn_bind, runOn_log, Run.follow]
          refine ⟨_, rfl, .inr ⟨⟨_, List.mem_cons_self, ?_⟩, failure, rfl, taken⟩⟩
          simp [warnsRetry]

end Schema

/-! ## Calls on open databases -/

/-- A call that upserts a row into a table of an open database. -/
structure UpsertCall (σ τ : Type) where
  schema : Schema
  database : Database
  connection : Connection
  opened : database.connection = some connection
  row : Value
  engine : Engine τ
  state : σ
  start : τ

namespace UpsertCall

def run (call : UpsertCall σ τ) : Run σ τ Value :=
  (call.schema.upsert call.database call.row).runOn call.engine call.state call.start

/-- The first failure of the driver during the call. -/
def strike? (call : UpsertCall σ τ) : Option Strike := Exchange.strike? call.run.exchanges

/-- The first failure of the driver during the call, without the statement that it belongs to. -/
def cause? (call : UpsertCall σ τ) : Option Outside := call.strike?.map Strike.cause

/-- The call looks its row up again after the first failure of the engine, where the message of the
engine, the failed statement or the values that it binds show the words of a taken key. -/
theorem retried_iff (call : UpsertCall σ τ) :
    Retried call.run.exchanges ↔
      ∃ strike, call.strike? = some strike ∧ strike.cause.kind.isEngine = true ∧
        (SaysTaken strike.cause.message ∨ ShowsTaken strike.sql strike.parameters) := by
  obtain ⟨schema, database, connection, opened, row, engine, state, start⟩ := call
  simp only [run, strike?]
  cases looked : schema.lookup row with
  | error failure =>
      rw [Schema.upsert, looked]
      refine iff_of_false (Unwarned.lift (.error failure) engine state start) ?_
      rintro ⟨strike, struck, -⟩
      exact Option.some_ne_none strike struck.symm
  | ok filter =>
      generalize tries : (schema.tryUpsert database filter row).runOn engine state start = first
      have unwarned : ¬ Retried first.exchanges := by
        rw [← tries]
        exact schema.tryUpsert_unwarned database filter row engine state start
      obtain ⟨later, split, goesOn⟩ := Schema.upsert_goesOn looked engine state start tries
      -- The warning stands between the two rounds, so that it tells whether there was a second one.
      have retried : Retried (first.exchanges ++ later) ↔
          ∃ failure, first.outcome = .error failure ∧ failure.violates = true := by
        rcases goesOn with ⟨rfl, calm⟩ | ⟨warned, failed⟩
        · rw [List.append_nil]
          refine iff_of_false unwarned ?_
          rintro ⟨failure, raises, taken⟩
          simp [calm failure raises] at taken
        · refine iff_of_true ?_ failed
          obtain ⟨exchange, member, warns⟩ := warned
          exact ⟨exchange, List.mem_append_right _ member, warns⟩
      rw [split, retried]
      rcases Schema.tryUpsert_stops opened filter engine state start tries with
        ⟨faultless, calm⟩ | ⟨earlier, failing, cause, sql, parameters, last, faultless, fails, owned,
          raises⟩
      · have ended : later = [] := by
          rcases goesOn with ⟨none, -⟩ | ⟨-, failure, raises, taken⟩
          · exact none
          · simp [calm failure raises] at taken
        rw [ended, List.append_nil, strike?_faultless faultless]
        refine iff_of_false ?_ (by simp)
        rintro ⟨failure, raises, taken⟩
        simp [calm failure raises] at taken
      · rw [last, List.append_assoc, List.singleton_append, strike?_first faultless fails owned]
        simp only [raises, Except.error.injEq, exists_eq_left', Option.some.injEq,
          Failure.violates_attach, Failure.showsTaken_driver]

/-- After the same failure of the driver, two calls both look their rows up again or both do not, unless
the engine does not say that a key is taken and only one of them shows the words all the same. -/
theorem retried_alike_iff (first : UpsertCall σ τ) (second : UpsertCall υ ρ)
    (same : first.cause? = second.cause?) :
    (Retried first.run.exchanges ↔ Retried second.run.exchanges) ↔
      ∀ strike, first.strike? = some strike → ∀ other, second.strike? = some other →
        strike.cause.kind.isEngine = true → ¬ SaysTaken strike.cause.message →
        (ShowsTaken strike.sql strike.parameters ↔ ShowsTaken other.sql other.parameters) := by
  rw [retried_iff, retried_iff]
  rw [cause?, cause?] at same
  cases struck : first.strike? with
  | none =>
      rw [struck, Option.map_none, eq_comm, Option.map_eq_none_iff] at same
      simp [same]
  | some strike =>
      rw [struck, Option.map_some, eq_comm, Option.map_eq_some_iff] at same
      obtain ⟨other, strikes, cause⟩ := same
      simp only [strikes, Option.some.injEq, exists_eq_left', cause, forall_eq']
      by_cases engine : strike.cause.kind.isEngine = true
      · by_cases said : SaysTaken strike.cause.message
        · simp [said]
        · simp [engine, said]
      · simp [engine]

/-- A failure counts as a taken key where the engine says so, but also where the statement or a value that
it binds shows the same words, and each text value shows what it holds. An upsert therefore looks its row
up again after any failure of the engine at such a statement, and the same failure leads two upserts
different ways exactly where only one of them shows the words. -/
theorem retry_judged_iff (first : UpsertCall σ τ) (second : UpsertCall υ ρ) :
    (∀ message sql parameters, (Failure.engine message sql parameters).isUniqueViolation = true ↔
      SaysTaken message ∨ ShowsTaken sql parameters) ∧
    (∀ entries, SaysTaken (Value.map entries).literal ↔
      ∃ entry ∈ entries, SaysTaken entry.1.literal ∨ SaysTaken entry.2.literal) ∧
    (∀ content, SaysTaken (Value.text content).literal ↔ SaysTaken content) ∧
    (Retried first.run.exchanges ↔
      ∃ strike, first.strike? = some strike ∧ strike.cause.kind.isEngine = true ∧
        (SaysTaken strike.cause.message ∨ ShowsTaken strike.sql strike.parameters)) ∧
    (first.cause? = second.cause? →
      ((Retried first.run.exchanges ↔ Retried second.run.exchanges) ↔
        ∀ strike, first.strike? = some strike → ∀ other, second.strike? = some other →
          strike.cause.kind.isEngine = true → ¬ SaysTaken strike.cause.message →
          (ShowsTaken strike.sql strike.parameters ↔ ShowsTaken other.sql other.parameters))) :=
  ⟨Failure.isUniqueViolation_engine, Value.shows_map, Text.shows_literal, first.retried_iff,
    first.retried_alike_iff second⟩

/-! ## A member without a name -/

def nameless (email : String) : UpsertCall Unit Unit where
  schema := Schema.members
  database := Database.lockedDatabase
  connection := ⟨0⟩
  opened := rfl
  row := .map [(.text "email", .text email)]
  engine := Schema.namelessEngine
  state := ()
  start := ()

/-- The same failure is judged alike for both members without a name. -/
theorem retry_judged_iff_nameless :
    (nameless "ann").cause? = (nameless "eve").cause? ∧
      (Retried (nameless "ann").run.exchanges ↔ Retried (nameless "eve").run.exchanges) := by
  have same : (nameless "ann").cause? = (nameless "eve").cause? := by decide +kernel
  have judged := (retry_judged_iff (nameless "ann") (nameless "eve")).2.2.2.2 same
  refine ⟨same, judged.mpr fun strike struck other strikes _ _ => ?_⟩
  have plain (email : String) (shown : (nameless email).strike?.all
      (fun strike => !decide (ShowsTaken strike.sql strike.parameters)) = true) {strike : Strike}
      (struck : (nameless email).strike? = some strike) :
      ¬ ShowsTaken strike.sql strike.parameters := by
    simpa [struck] using shown
  exact iff_of_false (plain "ann" (by decide +kernel) struck) (plain "eve" (by decide +kernel) strikes)

/-- An address with the words makes the missing name count as a taken key. -/
theorem retry_misjudged :
    ¬ SaysTaken "NOT NULL constraint failed: members.name" ∧
    (nameless "ann").cause? =
      some ⟨.integrity, "NOT NULL constraint failed: members.name"⟩ ∧
    (nameless "UNIQUE constraint failed").cause? =
      some ⟨.integrity, "NOT NULL constraint failed: members.name"⟩ ∧
    ¬ Retried (nameless "ann").run.exchanges ∧
    Retried (nameless "UNIQUE constraint failed").run.exchanges := by
  decide +kernel

end UpsertCall

end Tabular
