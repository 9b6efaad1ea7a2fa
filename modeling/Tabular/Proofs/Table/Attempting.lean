import Tabular.Proofs.Engine.Closing
import Tabular.Proofs.Schema.Declared
import Tabular.Proofs.Table.Planned
import Tabular.Proofs.Table.Surveying

/-!
This module tells what is done about a declared table before the database is changed. A table is
kept or refused after reads, and everywhere else it is written.
-/

namespace Tabular

open Tabular.Action Exchange

variable {σ τ α β : Type}

/-! ## Preliminary statements -/

/-- A statement that configures a connection begins like this. -/
def configurationStarts : List String :=
  ["PRAGMA busy_timeout=", "PRAGMA journal_mode=", "PRAGMA foreign_keys=ON"]

/-- A statement is a read or configures a connection. -/
def isPreliminary (sql : String) : Bool :=
  isRead sql || configurationStarts.any fun start => start.toList.isPrefixOf sql.toList

/-- A request does not execute anything but preliminary statements. -/
def Request.isPreliminary : Request → Bool
  | .execute _ sql _ => Tabular.isPreliminary sql
  | .script _ _ => false
  | _ => true

/-- A read is preliminary. -/
theorem Request.isPreliminary_of_isRead {request : Request} (read : request.isRead = true) :
    request.isPreliminary = true := by
  cases request with
  | execute cursor sql parameters =>
      rw [isPreliminary, Tabular.isPreliminary, show Tabular.isRead sql = true from read,
        Bool.true_or]
  | script connection text => exact nomatch read
  | _ => rfl

/-- A creation is not preliminary. -/
theorem isPreliminary_create (rest : String) : isPreliminary ("CREATE TABLE " ++ rest) = false := by
  have other : "CREATE TABLE " ++ rest ≠ "PRAGMA foreign_keys" ∧
      "CREATE TABLE " ++ rest ≠ "PRAGMA legacy_alter_table" := by
    constructor <;> simp [String.ext_iff]
  simp [isPreliminary, isRead, readStarts, configurationStarts, other, List.isPrefixOf]

namespace Exchange

/-- Only preliminary statements were executed. -/
def Preliminary (exchanges : List Exchange) : Prop :=
  ∀ exchange ∈ exchanges, exchange.request.isPreliminary = true

/-- Exchanges that only read are preliminary. -/
theorem OnlyReads.preliminary {exchanges : List Exchange} (reads : OnlyReads exchanges) :
    Preliminary exchanges :=
  fun exchange member => Request.isPreliminary_of_isRead (reads exchange member)

/-- Two parts are preliminary together exactly when each one is. -/
theorem preliminary_append {first second : List Exchange} :
    Preliminary (first ++ second) ↔ Preliminary first ∧ Preliminary second :=
  List.forall_mem_append

/-- The beginning of a preliminary part is preliminary. -/
theorem Preliminary.of_begins {first second : List Exchange} (preliminary : Preliminary second)
    (begins : first <+: second) : Preliminary first :=
  fun exchange member => preliminary exchange (begins.subset member)

end Exchange

namespace Action

/-- A run of two actions begins with the exchanges of the first. -/
theorem runOn_begins (action : Action σ α) (next : α → Action σ β) (engine : Engine τ) (state : σ)
    (start : τ) :
    (action.runOn engine state start).exchanges <+:
      ((action >>= next).runOn engine state start).exchanges := by
  rw [runOn_bind]
  exact Run.follow_exchanges _ _

/-- Every run of an action executes a statement that is not preliminary. -/
def Alters (action : Action σ α) : Prop :=
  ∀ ⦃τ : Type⦄ (engine : Engine τ) state start,
    ¬ Preliminary (action.runOn engine state start).exchanges

/-- An action that begins with an altering one alters. -/
theorem Alters.bind {action : Action σ α} (writes : Alters action) (next : α → Action σ β) :
    Alters (action >>= next) :=
  fun _ engine state start preliminary =>
    writes engine state start (preliminary.of_begins (runOn_begins action next engine state start))

end Action

namespace Database

variable {database : Database} {connection : Connection}
  (opened : database.connection = some connection)

include opened

/-- Running a statement that is not preliminary alters. -/
theorem run_writes {sql : String} (writes : isPreliminary sql = false) (parameters : Value) :
    Alters (database.run sql parameters : Action σ RunResult) := by
  intro τ engine state start preliminary
  obtain ⟨cursor, answer, final, runs⟩ := runOn_run engine opened state start sql parameters
  rw [runs] at preliminary
  have executes := preliminary ⟨.execute cursor sql (driverParameters parameters), answer⟩ (by
    simp [executed])
  rw [Request.isPreliminary, writes] at executes
  exact absurd executes Bool.false_ne_true

/-- A block begins a transaction or only runs its body, so that it writes where its body does. -/
theorem transaction_writes {body : Action σ α} (writes : Alters body) :
    Alters (database.transaction body) := by
  intro τ engine state start
  cases told : (engine.answer (.inTransaction connection) start).1 with
  | true =>
      rw [transaction_joins opened state body told]
      exact fun preliminary => writes _ _ _ (List.forall_mem_cons.mp preliminary).2
  | false =>
      obtain ⟨cursor, answer, final, -, enters⟩ := runOn_enter opened state told
      intro preliminary
      have begun := preliminary.of_begins (runOn_begins _ _ engine state start)
      rw [enters] at begun
      have executes := begun ⟨.execute cursor beginText (driverParameters .null), answer⟩ (by
        simp [beginning, executed])
      exact absurd executes (show ¬ isPreliminary beginText = true by decide)

end Database

namespace Schema

variable {schema : Schema} {database : Database} {connection : Connection}

/-- Creating a table that can be written alters. -/
theorem create_writes (opened : database.connection = some connection)
    {definitions : List Definition} (renders : schema.definitions = .ok definitions) :
    Alters (schema.create database : Action σ Unit) := by
  obtain ⟨table, tabled, rest⟩ := Outcome.bind_eq_ok.mp renders
  obtain ⟨indices, -, rest⟩ := Outcome.bind_eq_ok.mp rest
  obtain ⟨columns, keys, key, -, -, -, same⟩ := tableDefinition_eq_ok tabled
  have starts : isPreliminary table.sql = false := by
    rw [same, Definition.sql, Definition.head, String.append_assoc, String.append_assoc]
    exact isPreliminary_create _
  have body : Alters (runDefinitions database definitions : Action σ Unit) := by
    rw [← Except.ok.inj rest]
    exact (Database.run_writes opened starts .null).bind _
  rw [create, renders]
  exact (Database.transaction_writes opened body).bind _

/-! ## Migrations -/

/-- The reads before a migration only read. -/
theorem reading_inspects (schema old : Schema) (database : Database) :
    Inspects (schema.reading old database : Action σ (List MigrationStep × Value)) := by
  apply Inspects.bind (.ask rfl)
  intro now
  apply Inspects.bind (schema.explicitIndexNames_looks database).inspects
  intro indices
  apply Inspects.bind (.lift _)
  intro steps
  apply Inspects.bind (.lift _)
  intro shared
  apply Inspects.bind (.log _ _ _)
  intro _
  apply Inspects.bind (database.pragma_looks (by decide)).inspects
  exact fun legacy => .pure _

/-- A migration to a table that cannot be written cannot be planned. -/
theorem reading_unwritten (old : Schema) {failure : Failure}
    (unwritten : schema.definitions = .error failure) (engine : Engine τ) (state : σ) (start : τ) :
    ∃ raised, ((schema.reading old database).runOn engine state start).outcome = .error raised := by
  rw [reading, runOn_bind, runOn_time]
  simp only [Run.follow, runOn_bind]
  cases ended : ((schema.explicitIndexNames database).runOn engine state
      (engine.answer .time start).2).outcome with
  | error failure => exact ⟨failure, rfl⟩
  | ok indices =>
      simp only [migration, unwritten]
      exact ⟨failure, rfl⟩

/-! ## Attempts -/

/-- This action creates the table or, unless it is strict, also migrates it. -/
def settle (schema : Schema) (strict : Bool) (database : Database) : Action σ SyncResult :=
  if strict then schema.createIfAbsent database else schema.createOrUpdate database

/-- This action surveys the table, where it may be migrated. -/
def examine (schema : Schema) (strict : Bool) (database : Database) :
    Action σ (Option (Schema × Bool)) := do
  if !strict then
    if ← database.foreignKeysEnabled then throw .foreignKeysEnabled
  schema.survey database

/-- What is done with a table that is different. -/
def change (schema : Schema) (strict : Bool) (database : Database) (old : Schema) :
    Action σ SyncResult :=
  if strict then schema.refuse old else schema.replace database old

/-- Settling a table is examining it and acting on what was found. -/
theorem settle_eq (schema : Schema) (strict : Bool) (database : Database) :
    (schema.settle strict database : Action σ SyncResult) =
      schema.examine strict database >>=
        schema.proceed database (schema.change strict database) := by
  cases strict with
  | true => exact schema.createIfAbsent_eq database
  | false =>
      refine (schema.createOrUpdate_eq database).trans ?_
      simp only [examine, bind_assoc, Bool.not_false, if_true]
      refine congrArg _ (funext fun enabled => ?_)
      cases enabled <;> rfl

/-- Examining a table only reads. -/
theorem examine_inspects (schema : Schema) (strict : Bool) (database : Database) :
    Inspects (schema.examine strict database : Action σ (Option (Schema × Bool))) := by
  have surveys := (schema.survey_looks database : Looks database (σ := σ) _).inspects
  cases strict with
  | true => exact surveys
  | false =>
      apply Inspects.bind database.foreignKeysEnabled_looks.inspects
      intro enabled
      cases enabled with
      | true => exact .throw _
      | false => exact surveys

variable (schema : Schema) (strict : Bool) (database : Database) (engine : Engine τ) (state : σ)
  (start : τ)

/-- What is found about a table before it is changed. -/
def examined : Run σ τ (Option (Schema × Bool)) :=
  (schema.examine strict database).runOn engine state start

/-- A table is found as it is declared. -/
def FoundSame : Prop :=
  ∃ old, (schema.examined strict database engine state start).outcome = .ok (some (old, true))

/-- A table is refused before anything is changed: it cannot be read or compared, it is absent and
cannot be written, it is different and must not be migrated, or its migration cannot be planned. -/
inductive Rejected : Prop where
  | unread {failure : Failure}
      (fails : (schema.examined strict database engine state start).outcome = .error failure)
  | unwritten {failure : Failure}
      (absent : (schema.examined strict database engine state start).outcome = .ok none)
      (unwritten : schema.definitions = .error failure)
  | different {old : Schema} (strictly : strict = true)
      (differs :
        (schema.examined strict database engine state start).outcome = .ok (some (old, false)))
  | unplanned {old : Schema} {failure : Failure} (migrates : strict = false)
      (differs :
        (schema.examined strict database engine state start).outcome = .ok (some (old, false)))
      (fails : ((schema.reading old database).runOn engine
        (schema.examined strict database engine state start).state
        (schema.examined strict database engine state start).final).outcome = .error failure)

variable {schema strict database engine state start}

/-- A table that is found as declared is not refused. -/
theorem FoundSame.accepted (same : schema.FoundSame strict database engine state start) :
    ¬ schema.Rejected strict database engine state start := by
  obtain ⟨old, found⟩ := same
  rintro (⟨fails⟩ | ⟨absent, -⟩ | ⟨-, differs⟩ | ⟨-, differs, -⟩)
  all_goals simp_all

/-- A table that cannot be written is refused unless it is found as it is declared. -/
theorem refused_of_unwritten {failure : Failure} (unwritten : schema.definitions = .error failure) :
    schema.Rejected strict database engine state start ∨
      schema.FoundSame strict database engine state start := by
  cases found : (schema.examined strict database engine state start).outcome with
  | error failure => exact .inl (.unread found)
  | ok finding =>
      rcases finding with _ | ⟨old, _ | _⟩
      · exact .inl (.unwritten found unwritten)
      · cases strict with
        | true => exact .inl (.different rfl found)
        | false =>
            obtain ⟨raised, fails⟩ := reading_unwritten old unwritten engine
              (schema.examined false database engine state start).state
              (schema.examined false database engine state start).final
            exact .inl (.unplanned rfl found fails)
      · exact .inr ⟨old, found⟩

/-- A settled table is first examined, and then what was found is acted on. -/
theorem settle_run : (schema.settle strict database).runOn engine state start =
    (schema.examined strict database engine state start).follow fun found =>
      (schema.proceed database (schema.change strict database) found).runOn engine := by
  rw [settle_eq, runOn_bind, examined]

/-- What is found about a table is found by reads only. -/
theorem examined_reads : OnlyReads (schema.examined strict database engine state start).exchanges :=
  schema.examine_inspects strict database engine state start

/-- A table that is found as it is declared is kept. -/
theorem FoundSame.kept (same : schema.FoundSame strict database engine state start) :
    (schema.settle strict database).runOn engine state start =
      { schema.examined strict database engine state start with
        outcome := .ok { wasCreated := false } } := by
  obtain ⟨old, found⟩ := same
  rw [settle_run, Run.follow, found]
  dsimp only
  rw [proceed, runOn_pure, List.append_nil]

/-- A different table is migrated after its reads: the pragma is set, and then the table is replaced. -/
theorem migration_run {old : Schema} (migrates : strict = false) :
    (schema.change strict database old : Action σ SyncResult) =
      schema.reading old database >>= fun read => (do
        let _ ← database.run (legacyText true)
        schema.replacing database read.1 read.2
        pure { wasCreated := false, wasUpdated := true }) := by
  rw [change, migrates, if_neg (by decide), replace, migrate_eq, opening]
  simp only [bind_assoc, pure_bind]

/-- A refused table fails after reads only. -/
theorem Rejected.fails (refused : schema.Rejected strict database engine state start) :
    (∃ failure,
        ((schema.settle strict database).runOn engine state start).outcome = .error failure) ∧
      OnlyReads ((schema.settle strict database).runOn engine state start).exchanges := by
  have reads : OnlyReads (schema.examined strict database engine state start).exchanges :=
    examined_reads
  rw [settle_run, Run.follow]
  cases refused with
  | unread fails =>
      rw [fails]
      exact ⟨⟨_, rfl⟩, reads⟩
  | unwritten absent unwritten =>
      rw [absent]
      dsimp only
      rw [proceed, runOn_wrap, create_refused unwritten, List.append_nil]
      exact ⟨⟨_, rfl⟩, reads⟩
  | different strictly differs =>
      rw [differs]
      dsimp only
      rw [proceed, change, if_pos strictly]
      exact ⟨⟨_, rfl⟩, reads.append (List.forall_mem_nil _)⟩
  | unplanned migrates differs fails =>
      rw [differs]
      dsimp only
      rw [proceed, migration_run migrates, runOn_bind, Run.follow, fails]
      exact ⟨⟨_, rfl⟩, reads.append (schema.reading_inspects _ database engine _ _)⟩

/-- A table that is neither found as it is declared nor refused is written. -/
theorem settle_writes (opened : database.connection = some connection)
    (accepted : ¬ schema.Rejected strict database engine state start)
    (differs : ¬ schema.FoundSame strict database engine state start) :
    ¬ Preliminary ((schema.settle strict database).runOn engine state start).exchanges := by
  rw [settle_run, Run.follow]
  cases found : (schema.examined strict database engine state start).outcome with
  | error failure => exact absurd (.unread found) accepted
  | ok finding =>
      dsimp only
      rw [preliminary_append, not_and]
      intro _
      rcases finding with _ | ⟨old, _ | _⟩
      case none =>
          cases renders : schema.definitions with
          | error failure => exact absurd (.unwritten found renders) accepted
          | ok definitions => exact ((create_writes opened renders).bind _) _ _ _
      case some.false =>
          have migrates : strict = false := by
            by_contra strictly
            exact accepted (.different (by simpa using strictly) found)
          rw [proceed, migration_run migrates, runOn_bind, Run.follow]
          split
          · next read reads =>
              rw [preliminary_append, not_and]
              exact fun _ => (Database.run_writes opened (by decide) .null).bind _ _ _ _
          · next failure fails => exact absurd (.unplanned migrates found fails) accepted
      case some.true => exact absurd ⟨old, found⟩ differs

end Schema

end Tabular
