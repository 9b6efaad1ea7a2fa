import Tabular.Proofs.Engine.Opening
import Tabular.Proofs.Table.Attempting

/-!
This module tells when a schema file is refused before anything is changed. The tables of a file are
brought in line one after the other, and each one is refused only when its turn comes.
-/

namespace Tabular

open Tabular.Action Exchange

variable {σ τ α β : Type}

namespace Action

/-- An action with a state of its own leaves the outer state as it is. -/
@[simp] theorem runOn_locally (action : Action σ α) (inner : σ) (engine : Engine τ) (outer : β)
    (start : τ) :
    (locally action inner : Action β α).runOn engine outer start =
      ⟨(action.runOn engine inner start).outcome, outer, (action.runOn engine inner start).final,
        (action.runOn engine inner start).exchanges⟩ := by
  have begins : (locally action inner : Action β α).start outer =
      (action.start inner).bind fun ended => .done (ended.1, outer) := rfl
  simp only [runOn, begins, Program.runBind]
  rfl

end Action

/-! ## Openings -/

/-- A statement that starts as a pragma of the configuration does is preliminary. -/
theorem isPreliminary_append {start : String}
    (known : ∃ first ∈ configurationStarts, first.toList <+: start.toList) (rest : String) :
    isPreliminary (start ++ rest) = true := by
  rw [isPreliminary, begins_append known rest, Bool.or_true]

/-- The statements that configure a connection are preliminary. -/
theorem Settings.statements_preliminary {settings : Settings} {planned : List String}
    (plan : settings.statements = .ok planned) : ∀ sql ∈ planned, isPreliminary sql = true := by
  obtain ⟨timeout, -, plan⟩ := Outcome.bind_eq_ok.mp plan
  obtain rfl := Except.ok.inj plan
  rw [List.forall_mem_cons, List.forall_mem_append]
  refine ⟨isPreliminary_append (by decide) _, ?_, ?_⟩
  · split
    · exact List.forall_mem_singleton.mpr (isPreliminary_append (by decide) _)
    · exact List.forall_mem_nil _
  · split
    · exact List.forall_mem_singleton.mpr (by decide)
    · exact List.forall_mem_nil _

/-- Configuring a connection exchanges nothing but preliminary requests. -/
theorem Exchange.Configures.preliminary {connection : Connection} {planned : List String}
    {exchanges : List Exchange} {outcome : Except Failure Unit}
    (configures : Configures connection planned exchanges outcome)
    (known : ∀ sql ∈ planned, isPreliminary sql = true) : Preliminary exchanges := by
  induction configures with
  | done entry => exact List.forall_mem_singleton.mpr rfl
  | accepted cursor result rest inductionHypothesis =>
      obtain ⟨first, others⟩ := List.forall_mem_cons.mp known
      exact List.forall_mem_cons.mpr
        ⟨rfl, List.forall_mem_cons.mpr ⟨first, inductionHypothesis others⟩⟩
  | refused others cursor cause =>
      obtain ⟨first, -⟩ := List.forall_mem_cons.mp known
      exact List.forall_mem_cons.mpr ⟨rfl, List.forall_mem_singleton.mpr first⟩

namespace Database

variable {database : Database} {engine : Engine τ} {start : τ} {run : Run Database τ Unit}

/-- Opening a database does not either, however it ends. -/
theorem Opened.preliminary (opens : Opened engine database start run) :
    Preliminary run.exchanges := by
  cases opens with
  | already opened => exact List.forall_mem_nil _
  | refused closed refuses => exact List.forall_mem_singleton.mpr rfl
  | unreadable unreadable connection final => exact List.forall_mem_singleton.mpr rfl
  | connected plan configures final =>
      exact List.forall_mem_cons.mpr
        ⟨rfl, configures.preliminary (Settings.statements_preliminary plan)⟩

/-- A database that was opened has a connection. -/
theorem Opened.connection (opens : Opened engine database start run)
    (returns : run.outcome = .ok ()) : ∃ connection, run.state.connection = some connection := by
  cases opens with
  | already opened => exact ⟨_, opened⟩
  | refused closed refuses => exact nomatch returns
  | unreadable unreadable connection final => exact nomatch returns
  | connected plan configures final => exact ⟨_, rfl⟩

end Database

namespace Command

/-! ## Failed commands -/

/-- A command fails: it reports a failure, or it ends with one that it does not expect. -/
def Failed (outcome : Except Failure Nat) : Prop := outcome ≠ .ok 0

instance (outcome : Except Failure Nat) : Decidable (Failed outcome) := instDecidableNot

theorem failed_error (failure : Failure) : Failed (.error failure) := by
  intro same
  cases same

theorem failed_one : Failed (.ok 1) := fun same => Nat.one_ne_zero (Except.ok.inj same)

/-- Reporting a message writes it to the errors and ends with code 1. -/
theorem runOn_report (message : String) (engine : Engine τ) (console : Console) (start : τ) :
    (report message).runOn engine console start =
      ⟨.ok 1, { console with errors := console.errors ++ "Error: " ++ message ++ "\n" }, start,
        []⟩ := rfl

section

variable {action : Action Console α} {expected : Failure → Bool} {message : Failure → String}
  {next : α → Run} {engine : Engine τ} {console : Console} {start : τ}

/-- A step of a command starts with the exchanges of its action. -/
theorem expecting_begins : (action.runOn engine console start).exchanges <+:
    ((expecting action expected message next).runOn engine console start).exchanges := by
  have begins : ((attempt action).runOn engine console start).exchanges <+:
      ((expecting action expected message next).runOn engine console start).exchanges :=
    runOn_begins (attempt action) _ engine console start
  rwa [runOn_attempt] at begins

/-- Where the action returns, the command goes on with its value. -/
theorem expecting_ok {value : α}
    (returns : (action.runOn engine console start).outcome = .ok value) :
    (expecting action expected message next).runOn engine console start =
      (action.runOn engine console start).follow fun value => (next value).runOn engine := by
  rw [expecting, runOn_bind, runOn_attempt, Run.follow, Run.follow, returns]

/-- Where the action fails, the command fails and asks for nothing more. -/
theorem expecting_error {failure : Failure}
    (fails : (action.runOn engine console start).outcome = .error failure) :
    Failed ((expecting action expected message next).runOn engine console start).outcome ∧
      ((expecting action expected message next).runOn engine console start).exchanges =
        (action.runOn engine console start).exchanges := by
  rw [expecting, runOn_bind, runOn_attempt, Run.follow, fails]
  dsimp only
  split
  · rw [runOn_report, List.append_nil]
    exact ⟨failed_one, rfl⟩
  · rw [runOn_throw, List.append_nil]
    exact ⟨failed_error failure, rfl⟩

end

/-! ## Tables in order -/

/-- The tables are found as they are declared up to the first one that is refused, or all of them
are and their report fails. -/
def Halts (strict : Bool) (database : Database) (engine : Engine τ) (unreported : Prop) :
    List Schema → σ → τ → Prop
  | [], _, _ => unreported
  | schema :: rest, state, start =>
      schema.Rejected strict database engine state start ∨
      schema.FoundSame strict database engine state start ∧
        Halts strict database engine unreported rest
          (schema.examined strict database engine state start).state
          (schema.examined strict database engine state start).final

/-- What is reported of a table that is found as it is declared. -/
def unchangedEntry (schema : Schema) : Value × String := (schema.name, "unchanged")

/-- The tables of a file are settled one by one, and the first one comes first. -/
theorem applyAll_cons (database : Database) (strict : Bool) (schema : Schema) (rest : List Schema)
    (finish : List (Value × String) → Run) :
    applyAll database strict (schema :: rest) finish =
      expecting (schema.settle strict database) Failure.isLibrary
        (fun failure => schema.name.toText ++ ": " ++ failure.message)
        fun result => applyAll database strict rest fun results =>
          finish ((schema.name, actionName result) :: results) := by
  rw [applyAll, Schema.settle]

/-- Applying fails before any change exactly when some table halts it while all earlier ones are
unchanged, or when the report fails. -/
theorem applyAll_halts_iff {database : Database} {connection : Connection}
    (opened : database.connection = some connection) (strict : Bool) (engine : Engine τ)
    {finish : List (Value × String) → Run} {unreported : List (Value × String) → Prop}
    (reports : ∀ results console start,
      ((finish results).runOn engine console start).exchanges = [] ∧
        (Failed ((finish results).runOn engine console start).outcome ↔ unreported results))
    (schemas : List Schema) (console : Console) (start : τ) :
    (Failed ((applyAll database strict schemas finish).runOn engine console start).outcome ∧
        Preliminary
          ((applyAll database strict schemas finish).runOn engine console start).exchanges) ↔
      Halts strict database engine (unreported (schemas.map unchangedEntry)) schemas console
        start := by
  induction schemas generalizing finish unreported console start with
  | nil =>
      obtain ⟨none, fails⟩ := reports [] console start
      rw [applyAll, none]
      exact (and_iff_left (List.forall_mem_nil _)).trans fails
  | cons schema rest inductionHypothesis =>
      rw [applyAll_cons, Halts]
      by_cases refused : schema.Rejected strict database engine console start
      · obtain ⟨⟨failure, fails⟩, reads⟩ := refused.fails
        obtain ⟨failed, asks⟩ := expecting_error fails
        rw [asks]
        exact iff_of_true ⟨failed, reads.preliminary⟩ (.inl refused)
      rw [or_iff_right refused]
      by_cases same : schema.FoundSame strict database engine console start
      · have returns : ((schema.settle strict database).runOn engine console start).outcome =
            .ok { wasCreated := false } := by rw [same.kept]
        have rests := inductionHypothesis
          (fun results => reports (unchangedEntry schema :: results))
          (schema.examined strict database engine console start).state
          (schema.examined strict database engine console start).final
        rw [expecting_ok returns, same.kept, Run.follow]
        dsimp only
        rw [preliminary_append, and_iff_right Schema.examined_reads.preliminary, and_iff_right same]
        exact rests
      · have writes := Schema.settle_writes opened refused same
        exact iff_of_false (fun halted => writes (halted.2.of_begins expecting_begins))
          fun halted => same halted.1

/-! ## Reports -/

/-- What was done to the tables cannot be written. -/
def Unreported (shared : Shared) (results : List (Value × String)) : Prop :=
  if shared.json then
    ∃ failure, Json.report (.list (results.map (tableEntry "action"))) = .error failure
  else ∃ result ∈ results, ∃ failure, nameColumn result.1 = .error failure

/-- Printing a line only adds to the output. -/
theorem printLine_run (line : String) (engine : Engine τ) (console : Console) (start : τ) :
    (printLine line).runOn engine console start =
      ⟨.ok (), { console with output := console.output ++ line ++ "\n" }, start, []⟩ := rfl

/-- Printing a value asks for nothing and fails exactly when it has no JSON text. -/
theorem printJson_run (value : Value) (engine : Engine τ) (console : Console) (start : τ) :
    ((printJson value).runOn engine console start).exchanges = [] ∧
      ((∃ failure, ((printJson value).runOn engine console start).outcome = .error failure) ↔
        ∃ failure, Json.report value = .error failure) := by
  rw [printJson, runOn_bind, runOn_lift, Run.follow]
  cases Json.report value with
  | error failure => exact ⟨rfl, by simp⟩
  | ok text =>
      dsimp only
      rw [printLine_run]
      exact ⟨rfl, by simp⟩

/-- Printing the actions asks for nothing and fails exactly when a name cannot be laid out. -/
theorem printActions_run (results : List (Value × String)) (engine : Engine τ) (console : Console)
    (start : τ) :
    ((printActions results).runOn engine console start).exchanges = [] ∧
      ((∃ failure, ((printActions results).runOn engine console start).outcome = .error failure) ↔
        ∃ result ∈ results, ∃ failure, nameColumn result.1 = .error failure) := by
  induction results generalizing console start with
  | nil => exact ⟨rfl, by simp [printActions]⟩
  | cons result rest inductionHypothesis =>
      obtain ⟨name, action⟩ := result
      simp only [printActions, runOn_bind, runOn_lift, Run.follow, List.exists_mem_cons_iff]
      cases nameColumn name with
      | error failure => exact ⟨rfl, by simp⟩
      | ok text =>
          simp only [printLine_run, List.nil_append]
          obtain ⟨none, fails⟩ := inductionHypothesis _ start
          exact ⟨none, fails.trans (by simp)⟩

/-- This action reports what was done to the tables. -/
def reportActions (shared : Shared) (results : List (Value × String)) : Run := do
  if shared.json then printJson (.list (results.map (tableEntry "action")))
  else printActions results
  pure 0

/-- The final report asks for nothing and fails exactly when it cannot be written. -/
theorem reportActions_run (shared : Shared) (results : List (Value × String)) (engine : Engine τ)
    (console : Console) (start : τ) :
    ((reportActions shared results).runOn engine console start).exchanges = [] ∧
      (Failed ((reportActions shared results).runOn engine console start).outcome ↔
        Unreported shared results) := by
  have printed (print : Action Console Unit) :
      ((print >>= fun _ => pure 0 : Run).runOn engine console start).exchanges =
        (print.runOn engine console start).exchanges ∧
      (Failed ((print >>= fun _ => pure 0 : Run).runOn engine console start).outcome ↔
        ∃ failure, (print.runOn engine console start).outcome = .error failure) := by
    rw [runOn_bind, Run.follow]
    cases (print.runOn engine console start).outcome <;> simp [Failed]
  rw [reportActions, Unreported]
  cases shared.json with
  | true =>
      obtain ⟨asks, fails⟩ := printed (printJson (.list (results.map (tableEntry "action"))))
      obtain ⟨none, unprinted⟩ :=
        printJson_run (.list (results.map (tableEntry "action"))) engine console start
      exact ⟨asks.trans none, fails.trans unprinted⟩
  | false =>
      obtain ⟨asks, fails⟩ := printed (printActions results)
      obtain ⟨none, unprinted⟩ := printActions_run results engine console start
      exact ⟨asks.trans none, fails.trans unprinted⟩

/-! ## Whole commands -/

/-- This action goes on with the settings of a command, after its level was set. -/
def configured (surroundings : Surroundings) (shared : Shared)
    (next : Settings → Action Console α) : Action Console α := do
  let settings ← (settingsOf surroundings shared : Except Failure Settings)
  ask (.threshold
    (if shared.verbose then Level.debug.number else Settings.levelNumber settings.logLevel))
  next settings

/-- This action reads the settings of a command and opens its database. -/
def opening (surroundings : Surroundings) (shared : Shared) : Action Console Database :=
  configured surroundings shared openWith

section

variable {surroundings : Surroundings} {shared : Shared}

/-- Settings that cannot be found end a command at once. -/
theorem configured_refused {failure : Failure}
    (refused : settingsOf surroundings shared = .error failure)
    (next : Settings → Action Console α) (engine : Engine τ) (console : Console) (start : τ) :
    (configured surroundings shared next).runOn engine console start =
      ⟨.error failure, console, start, []⟩ := by
  rw [configured, refused]
  rfl

/-- With its settings found, a command first sets the level of its log lines. -/
theorem configured_read {settings : Settings} (read : settingsOf surroundings shared = .ok settings)
    (engine : Engine τ) (console : Console) (start : τ) :
    ∃ level middle, ∀ {α : Type} (next : Settings → Action Console α),
      (configured surroundings shared next).runOn engine console start =
        let run := (next settings).runOn engine console middle
        { run with exchanges := ⟨.threshold level, ()⟩ :: run.exchanges } := by
  generalize leveled : (if shared.verbose then Level.debug.number
    else Settings.levelNumber settings.logLevel) = level
  refine ⟨level, (engine.answer (.threshold level) start).2, fun next => ?_⟩
  rw [configured, read, ← leveled]
  exact runOn_bind engine console start (ask _) fun _ => next settings

end

/-- What comes after the settings is not told apart from the level that was set before it. -/
theorem configured_run (surroundings : Surroundings) (shared : Shared) (engine : Engine τ)
    (console : Console) (start : τ) :
    (∃ failure, ∀ {α : Type} (next : Settings → Action Console α),
      (configured surroundings shared next).runOn engine console start =
        ⟨.error failure, console, start, []⟩) ∨
    ∃ settings level middle, ∀ {α : Type} (next : Settings → Action Console α),
      (configured surroundings shared next).runOn engine console start =
        let run := (next settings).runOn engine console middle
        { run with exchanges := ⟨.threshold level, ()⟩ :: run.exchanges } := by
  cases read : settingsOf surroundings shared with
  | error failure =>
      exact .inl ⟨failure, fun next => configured_refused read next engine console start⟩
  | ok settings =>
      obtain ⟨level, middle, runs⟩ := configured_read read engine console start
      exact .inr ⟨settings, level, middle, runs⟩

/-- This run opens a database with settings. -/
def openedWith (settings : Settings) (engine : Engine τ) (console : Console) (start : τ) :
    Tabular.Run Console τ Database := (openWith settings).runOn engine console start

/-- Opening the database of a command is preliminary, and a returned database has a connection. -/
theorem openedWith_run (settings : Settings) (engine : Engine τ) (console : Console) (start : τ) :
    Preliminary (openedWith settings engine console start).exchanges ∧
      ∀ database, (openedWith settings engine console start).outcome = .ok database →
        ∃ connection, database.connection = some connection := by
  have opens := Database.open_opened engine (.make none (some settings)) start
  rw [openedWith, openWith, runOn_locally, runOn_bind, Run.follow]
  cases ended : (Database.open.runOn engine (.make none (some settings)) start).outcome with
  | error failure =>
      refine ⟨opens.preliminary, fun database returns => ?_⟩
      cases returns
  | ok value =>
      refine ⟨by simpa using opens.preliminary, fun database returns => ?_⟩
      rw [← Except.ok.inj returns]
      exact opens.connection ended

/-- This action closes a database at the end. -/
def closing (rest : Run) (database : Database) : Run :=
  ensuring rest (locally Database.close database)

/-- Closing the database afterwards adds one exchange and keeps the outcome. -/
theorem closing_run (rest : Run) {database : Database} {connection : Connection}
    (opened : database.connection = some connection) (engine : Engine τ) (console : Console)
    (start : τ) : ((closing rest database).runOn engine console start).outcome =
        (rest.runOn engine console start).outcome ∧
      ((closing rest database).runOn engine console start).exchanges =
        (rest.runOn engine console start).exchanges ++ [⟨.disconnect connection, ()⟩] := by
  have ends (outer : Console) (middle : τ) : ∃ closed final,
      (locally Database.close database : Action Console Unit).runOn engine outer middle =
        ⟨.ok (), closed, final, [⟨.disconnect connection, ()⟩]⟩ := by
    rw [runOn_locally, Database.close, runOn_bind, runOn_get, Run.follow]
    dsimp only
    rw [opened]
    exact ⟨_, _, rfl⟩
  have whole : (closing rest database).runOn engine console start = _ :=
    runOn_afterwards engine console start rest fun _ => locally Database.close database
  obtain ⟨closed, final, ended⟩ :=
    ends (rest.runOn engine console start).state (rest.runOn engine console start).final
  rw [whole, Run.afterwards]
  dsimp only
  rw [ended]
  exact ⟨rfl, rfl⟩

/-- The rest of a command runs on its open database, which is closed at the end. -/
theorem withDatabase_run (surroundings : Surroundings) (shared : Shared) (rest : Database → Run)
    (engine : Engine τ) (console : Console) (start : τ) {opens : Tabular.Run Console τ Database}
    (begins : (opening surroundings shared).runOn engine console start = opens) :
    Preliminary opens.exchanges ∧
    match opens.outcome with
    | .error _ =>
        Failed ((withDatabase surroundings shared rest).runOn engine console start).outcome ∧
          ((withDatabase surroundings shared rest).runOn engine console start).exchanges =
            opens.exchanges
    | .ok database => ∃ connection, database.connection = some connection ∧
        ((withDatabase surroundings shared rest).runOn engine console start).outcome =
          ((rest database).runOn engine opens.state opens.final).outcome ∧
        ((withDatabase surroundings shared rest).runOn engine console start).exchanges =
          opens.exchanges ++ ((rest database).runOn engine opens.state opens.final).exchanges ++
            [⟨.disconnect connection, ()⟩] := by
  have same : withDatabase surroundings shared rest = configured surroundings shared fun settings =>
      expecting (openWith settings) Failure.isLibrary Failure.message fun database =>
        closing (rest database) database := rfl
  rw [same]
  rw [opening] at begins
  rcases configured_run surroundings shared engine console start with
    ⟨failure, runs⟩ | ⟨settings, level, middle, runs⟩
  · rw [runs] at begins ⊢
    subst begins
    exact ⟨List.forall_mem_nil _, failed_error failure, rfl⟩
  · rw [runs] at begins ⊢
    obtain ⟨preliminary, connects⟩ := openedWith_run settings engine console middle
    subst begins
    dsimp only
    refine ⟨List.forall_mem_cons.mpr ⟨rfl, preliminary⟩, ?_⟩
    rw [← openedWith]
    cases ended : (openedWith settings engine console middle).outcome with
    | error failure =>
        obtain ⟨failed, asks⟩ := expecting_error ended
        exact ⟨failed, congrArg _ asks⟩
    | ok database =>
        obtain ⟨connection, opened⟩ := connects database ended
        obtain ⟨returns, asks⟩ := closing_run (rest database) opened engine
          (openedWith settings engine console middle).state
          (openedWith settings engine console middle).final
        refine ⟨connection, opened, ?_⟩
        rw [expecting_ok ended, ← openedWith, Run.follow, ended]
        dsimp only
        rw [returns, asks]
        exact ⟨rfl, by simp⟩

/-- With a schema file that can be loaded, the command applies its tables in turn. -/
theorem apply_loaded {surroundings : Surroundings} {file : String} {schemas : List Schema}
    (loaded : Schema.load surroundings file = .ok schemas) (shared : Shared) (strict : Bool)
    (engine : Engine τ) (console : Console) (start : τ) :
    (apply surroundings shared file strict).runOn engine console start =
      (withDatabase surroundings shared fun database =>
        applyAll database strict schemas (reportActions shared)).runOn engine console start := by
  rw [apply, withSchemas, loaded, expecting_ok rfl]
  rfl

/-- A schema file is refused before anything is changed exactly where the database cannot be opened,
or the first table that is not found as it is declared is refused, or all of them are and cannot be
reported. A declaration that cannot be written does not count before its turn, and where its table
is found as it is declared, it does not count at all. -/
theorem apply_unchanged_iff {surroundings : Surroundings} {shared : Shared} {file : String}
    {schemas : List Schema} (loaded : Schema.load surroundings file = .ok schemas) (strict : Bool)
    {engine : Engine τ} {console : Console} {start : τ} {opens : Tabular.Run Console τ Database}
    {run : Tabular.Run Console τ Nat}
    (begins : (opening surroundings shared).runOn engine console start = opens)
    (applies : (apply surroundings shared file strict).runOn engine console start = run) :
    (Failed run.outcome ∧ Preliminary run.exchanges ↔
      ∀ database, opens.outcome = .ok database →
        Halts strict database engine (Unreported shared (schemas.map unchangedEntry)) schemas
          opens.state opens.final) ∧
    ∀ schema ∈ schemas, ∀ failure, schema.definitions = .error failure →
      ∀ database (state : Console) start, schema.Rejected strict database engine state start ∨
        schema.FoundSame strict database engine state start := by
  refine ⟨?_, fun schema _ failure unwritten _ _ _ => Schema.refused_of_unwritten unwritten⟩
  obtain ⟨preliminary, runs⟩ := withDatabase_run surroundings shared
    (fun database => applyAll database strict schemas (reportActions shared)) engine console start
    begins
  rw [← applies, apply_loaded loaded]
  cases ended : opens.outcome with
  | error failure =>
      rw [ended] at runs
      obtain ⟨failed, asks⟩ := runs
      exact iff_of_true ⟨failed, asks ▸ preliminary⟩ nofun
  | ok database =>
      rw [ended] at runs
      obtain ⟨connection, opened, returns, asks⟩ := runs
      have halts := applyAll_halts_iff opened strict engine
        (fun results => reportActions_run shared results engine) schemas opens.state opens.final
      have closes : Preliminary [⟨.disconnect connection, ()⟩] := List.forall_mem_singleton.mpr rfl
      rw [returns, asks, preliminary_append, preliminary_append, and_iff_right preliminary,
        and_iff_left closes, halts]
      exact ⟨fun halted other same => Except.ok.inj same ▸ halted,
        fun halted => halted database rfl⟩

/-! A table is counted, it has one column where it is there, and nothing else is in the database. -/

def countedColumn (count : Int) : Answers := fun sql _ =>
  if sql = Schema.countTableText then some [[(.text "count", .int count)]]
  else if sql = "PRAGMA table_info(tags)" then
    some [[(.text "cid", .int 0), (.text "name", .text "id"), (.text "type", .text "INTEGER"),
      (.text "notnull", .int 0), (.text "dflt_value", .null), (.text "pk", .int 0)]]
  else some []

def plainTable (name : String) : Schema where
  name := .text name
  columns := [(.text "id", { storage := .integer })]

/-- The index is on a column that is not declared. -/
def labelledTable : Schema :=
  { plainTable "tags" with indices := [(.text "label", { columns := [.text "label"] })] }

def itemsText : String := "{name: items, columns: {id: INTEGER}}"

def tagsText : String :=
  "{name: tags, columns: {id: INTEGER}, indices: {label: {columns: [label]}}}"

/-- There is one file, and it is a list of tables. -/
def declaring (tables : List String) : Surroundings where
  text? path := if path = .ofText .root "schema.yaml" then
    some ("tables: [" ++ String.intercalate ", " tables ++ "]") else none

def applied (tables : List String) (count : Int) : Tabular.Run Console (List Row) Nat :=
  (apply (declaring tables) {} "schema.yaml" false).runOn (countedColumn count).engine {} []

/-- The schema file with tags loads as the labelled table. -/
theorem load_tags : Schema.load (declaring [tagsText]) "schema.yaml" = .ok [labelledTable] := by
  decide +kernel

/-- The definitions of the labelled table cannot be written. -/
theorem labelledTable_unwritten :
    labelledTable.definitions = .error (.unknownIndexColumn (.text "label") (.text "label")) := by
  decide +kernel

/-- Where the table is absent and comes first, it is refused and nothing is changed. -/
theorem apply_unchanged_iff_tags :
    Schema.load (declaring [tagsText]) "schema.yaml" = .ok [labelledTable] ∧
      Failed (applied [tagsText] 0).outcome ∧ Preliminary (applied [tagsText] 0).exchanges := by
  have opened : ((opening (declaring [tagsText]) {}).runOn (countedColumn 0).engine {} []).outcome =
      .ok { path := "litetable.db", settings := {}, connection := some ⟨0⟩ } := by decide +kernel
  refine ⟨load_tags, (apply_unchanged_iff load_tags false rfl rfl).1.mpr fun database opens => ?_⟩
  obtain rfl := Except.ok.inj (opened.symm.trans opens)
  exact .inl (.unwritten (by decide +kernel) labelledTable_unwritten)

/-- After another table, it is refused when that one has been created. Where it is there without its
index, nobody finds that it cannot be written. -/
theorem apply_changes :
    Schema.load (declaring [itemsText, tagsText]) "schema.yaml" =
        .ok [plainTable "items", labelledTable] ∧
    Schema.load (declaring [tagsText]) "schema.yaml" = .ok [labelledTable] ∧
    labelledTable.definitions = .error (.unknownIndexColumn (.text "label") (.text "label")) ∧
    (applied [itemsText, tagsText] 0).outcome = .ok 1 ∧
    "CREATE TABLE items (\n    id INTEGER\n)" ∈ texts (applied [itemsText, tagsText] 0).exchanges ∧
    ¬ Preliminary (applied [itemsText, tagsText] 0).exchanges ∧
    (applied [tagsText] 1).outcome = .ok 0 := by
  have loaded : Schema.load (declaring [itemsText, tagsText]) "schema.yaml" =
      .ok [plainTable "items", labelledTable] := by decide +kernel
  refine ⟨loaded, load_tags, labelledTable_unwritten, ?_⟩
  rw [applied, applied, apply_loaded loaded, apply_loaded load_tags]
  unfold Preliminary
  decide +kernel

end Command

end Tabular
