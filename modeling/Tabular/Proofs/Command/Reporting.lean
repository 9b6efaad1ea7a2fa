import Tabular.Engine.Script
import Tabular.Proofs.Command.Applying
import Tabular.Proofs.Command.Reading
import Tabular.Proofs.Command.Steady

/-!
This module tells which failures of the library are reported by a command. Every command reports those
that it meets while it reads and while it opens its database. What comes after that is reported too,
unless the command only looks at tables.
-/

namespace Tabular

open Tabular.Action

variable {σ τ α : Type}

/-- A run ends in the same way whether or not its exchanges are kept. -/
theorem Program.run_unrecorded (engine : Engine τ) (program : Program α) (start : τ)
    (before : List Exchange) : program.run engine start =
      ((program.run engine.recorded (start, before)).1,
        (program.run engine.recorded (start, before)).2.1) := by
  induction program generalizing start before with
  | done result => rfl
  | ask request next inductionHypothesis =>
      simp only [Program.run, Engine.recorded_answer]
      exact inductionHypothesis _ _ _

namespace Command

/-! ## Parts of a command -/

/-- A command reads what it is given, opens its database, and works on it. -/
inductive Stage where
  | reading
  | opening
  | working
  deriving DecidableEq, Repr

/-- This action drops what another one returns. -/
def dropping (action : Action σ α) : Action σ Unit := do
  let _ ← action
  pure ()

/-- This action brings tables in line one after the other. -/
def settleAll (strict : Bool) (database : Database) : List Schema → Action Console Unit
  | [] => pure ()
  | schema :: rest => do
      let _ ← schema.settle strict database
      settleAll strict database rest

/-- This action rebuilds the declaration of a table that is there. -/
def lookAt (table : String) (database : Database) : Action Console Unit := do
  let schema : Schema := { name := .text table, columns := [] }
  if ← schema.exists? database then
    let found ← schema.introspect database
    dropping (found.toValue : Except Failure Value)

/-- What a task asks of the library on its open database, when it has read what it is given. -/
def work (surroundings : Surroundings) : Task → Except Failure (Database → Action Console Unit)
  | .apply file strict => do
      let schemas ← Schema.load surroundings file
      pure fun database => settleAll strict database schemas
  | .check file => do
      let schemas ← Schema.load surroundings file
      pure fun database => dropping (tableStates database schemas)
  | .count table filter => do
      let filter ← readFilter filter
      pure fun database => do
        let query ← (rowsOf table filter : Except Failure Query)
        dropping (query.count database)
  | .find table filter ordering limit offset columns => do
      let filter ← readFilter filter
      pure fun database => do
        let query ← (do
          refine (← rowsOf table filter) ordering limit offset columns : Except Failure Query)
        dropping (printRows query database)
  | .inspect table => pure (lookAt table)

/-- These tasks look at tables and change nothing. -/
def Task.isSurvey : Task → Bool
  | .check _ | .inspect _ => true
  | _ => false

/-- What a task writes before the message of a failure. -/
def Task.leads (surroundings : Surroundings) : Task → Stage → List String
  | .apply file _, .reading | .check file, .reading => ["cannot read " ++ file ++ ": "]
  | .count _ _, .reading | .find _ _ _ _ _ _, .reading => ["invalid --where: "]
  | .apply file _, .working =>
      ((Schema.load surroundings file).toOption.getD []).map fun schema => schema.name.toText ++ ": "
  | _, _ => [""]

/-- The library fails at a stage of a command. -/
inductive Raises (surroundings : Surroundings) (shared : Shared) (task : Task) (engine : Engine τ)
    (start : τ) : Stage → Failure → Prop where
  | reading {failure : Failure} (fails : work surroundings task = .error failure) :
      Raises surroundings shared task engine start .reading failure
  | opening {asks : Database → Action Console Unit} {failure : Failure}
      (reads : work surroundings task = .ok asks)
      (fails : ((opening surroundings shared).runOn engine {} start).outcome = .error failure) :
      Raises surroundings shared task engine start .opening failure
  | working {asks : Database → Action Console Unit} {database : Database} {failure : Failure}
      {opens : Tabular.Run Console τ Database}
      (reads : work surroundings task = .ok asks)
      (begins : (opening surroundings shared).runOn engine {} start = opens)
      (opened : opens.outcome = .ok database)
      (fails : ((asks database).runOn engine opens.state opens.final).outcome = .error failure) :
      Raises surroundings shared task engine start .working failure

/-- A command ends with one error, the message of a failure behind one of some texts. -/
structure Ending.Reports (ending : Ending) (leads : List String) (failure : Failure) : Prop where
  status : ending.status = 1
  expected : ending.failure = none
  errors : ∃ lead ∈ leads, ending.console.errors = "Error: " ++ (lead ++ failure.message) ++ "\n"

/-! ## Failures that a command expects -/

/-- A run adds one error, the message of a failure behind one of some texts. -/
structure ReportsAfter (before : Console) (leads : List String) (failure : Failure)
    (run : Tabular.Run Console τ Nat) : Prop where
  outcome : run.outcome = .ok 1
  errors : ∃ lead ∈ leads,
    run.state.errors = before.errors ++ "Error: " ++ (lead ++ failure.message) ++ "\n"

section

variable {action : Action Console α} {expected : Failure → Bool} {message : Failure → String}
  {next : α → Run} {engine : Engine τ} {console : Console} {start : τ} {failure : Failure}
  (fails : (action.runOn engine console start).outcome = .error failure)

include fails

/-- An expected failure of the action is reported behind its text. -/
theorem expecting_expected (known : expected failure = true) {lead : String}
    (written : message failure = lead ++ failure.message)
    (keeps : (action.runOn engine console start).state.errors = console.errors) {leads : List String}
    (member : lead ∈ leads) : ReportsAfter console leads failure
      ((expecting action expected message next).runOn engine console start) := by
  rw [expecting, runOn_bind, runOn_attempt, Run.follow, fails]
  dsimp only
  rw [if_pos known, runOn_report]
  exact ⟨rfl, lead, member, by rw [written, keeps]⟩

/-- A failure that is not expected is passed on, and nothing more is printed. -/
theorem expecting_other (unknown : expected failure = false) :
    ((expecting action expected message next).runOn engine console start).outcome = .error failure ∧
      ((expecting action expected message next).runOn engine console start).state =
        (action.runOn engine console start).state := by
  rw [expecting, runOn_bind, runOn_attempt, Run.follow, fails]
  dsimp only
  rw [if_neg (Bool.eq_false_iff.mp unknown), runOn_throw]
  exact ⟨rfl, rfl⟩

end

/-- The rest of a command handles what it asks of the library. Either it reports the failures of the
library or it passes them on, and it adds none where what is asked does not fail. -/
structure Handles (reports : Bool) (leads : List String) (asks : Action Console Unit) (rest : Run) :
    Prop where
  failed : ∀ ⦃τ : Type⦄ (engine : Engine τ) console start failure,
    (asks.runOn engine console start).outcome = .error failure →
    if reports && failure.isLibrary then
      ReportsAfter console leads failure (rest.runOn engine console start)
    else (rest.runOn engine console start).outcome = .error failure ∧
      (rest.runOn engine console start).state = (asks.runOn engine console start).state
  done : ∀ ⦃τ : Type⦄ (engine : Engine τ) console start,
    (asks.runOn engine console start).outcome = .ok () →
    Outcome.Avoids Failure.isLibrary (rest.runOn engine console start).outcome

namespace Handles

variable {reports : Bool} {leads : List String}

/-- A rest of a command that does not fail with a failure of the library has nothing to handle. -/
theorem ends {rest : Run} (avoids : Avoids Failure.isLibrary rest) :
    Handles reports leads (pure ()) rest where
  failed _ _ _ _ _ failed := nomatch failed
  done _ engine console start _ := avoids engine console start

/-- What is asked first may fail, and what follows is handled. -/
theorem follows {first : Action Console α} {asks : α → Action Console Unit} {rest : α → Run}
    (handles : ∀ value, Handles false leads (asks value) (rest value)) :
    Handles false leads (first >>= asks) (first >>= rest) where
  failed τ engine console start failure failed := by
    rw [runOn_bind, Run.follow] at failed
    rw [runOn_bind, runOn_bind, Run.follow, Run.follow]
    cases ended : (first.runOn engine console start).outcome with
    | error other =>
        rw [ended] at failed
        obtain rfl := Except.error.inj failed
        exact ⟨rfl, rfl⟩
    | ok value =>
        rw [ended] at failed
        exact (handles value).failed engine _ _ failure failed
  done τ engine console start returns := by
    rw [runOn_bind, Run.follow] at returns ⊢
    cases ended : (first.runOn engine console start).outcome with
    | error other =>
        rw [ended] at returns
        cases returns
    | ok value =>
        rw [ended] at returns
        exact (handles value).done engine _ _ returns

/-- What is asked first is expected to fail, and what follows is handled. -/
theorem expects {action : Action Console α} {asks : α → Action Console Unit} {next : α → Run}
    {message : Failure → String} {lead : String}
    (written : ∀ failure, message failure = lead ++ failure.message) (member : lead ∈ leads)
    (keeps : Keeps Console.errors action)
    (handles : ∀ value, Handles true leads (asks value) (next value)) :
    Handles true leads (action >>= asks) (expecting action Failure.isLibrary message next) where
  failed τ engine console start failure failed := by
    have kept := keeps engine console start
    rw [runOn_bind, Run.follow] at failed
    rw [runOn_bind, Run.follow]
    cases ended : (action.runOn engine console start).outcome with
    | error other =>
        rw [ended] at failed
        obtain rfl := Except.error.inj failed
        cases library : other.isLibrary with
        | true => exact expecting_expected ended library (written other) kept member
        | false => exact expecting_other ended library
    | ok value =>
        rw [ended] at failed
        rw [expecting_ok ended, Run.follow, ended]
        have handled := (handles value).failed engine _ _ failure failed
        cases library : failure.isLibrary with
        | true =>
            rw [library] at handled
            obtain ⟨lead, member, errors⟩ := handled.errors
            exact ⟨handled.outcome, lead, member, errors.trans (by rw [kept])⟩
        | false =>
            rw [library] at handled
            exact handled
  done τ engine console start returns := by
    rw [runOn_bind, Run.follow] at returns
    cases ended : (action.runOn engine console start).outcome with
    | error other =>
        rw [ended] at returns
        cases returns
    | ok value =>
        rw [ended] at returns
        rw [expecting_ok ended, Run.follow, ended]
        exact (handles value).done engine _ _ returns

end Handles

/-! ## Printing -/

/-- Printing a line ends with none of the library's failures. -/
theorem printLine_avoids (line : String) : Avoids Failure.isLibrary (printLine line) :=
  fun _ _ _ _ _ failed => nomatch failed

theorem printText_avoids (text : String) : Avoids Failure.isLibrary (printText text) :=
  fun _ _ _ _ _ failed => nomatch failed

/-- Nor does reporting a message. -/
theorem report_avoids (message : String) : Avoids Failure.isLibrary (report message) :=
  fun _ _ _ _ _ failed => nomatch failed

/-- Printing a value as JSON ends with none of the library's failures. -/
theorem printJson_avoids (value : Value) : Avoids Failure.isLibrary (printJson value) :=
  (Avoids.lift (Json.report_avoids value)).bind fun _ => printLine_avoids _

/-- Printing the actions ends with none of the library's failures. -/
theorem printActions_avoids (results : List (Value × String)) :
    Avoids Failure.isLibrary (printActions results) := by
  induction results with
  | nil => exact .pure _
  | cons result rest inductionHypothesis =>
      exact (Avoids.lift (nameColumn_avoids _)).bind fun _ => (printLine_avoids _).bind fun _ =>
        inductionHypothesis

/-- Nor does printing the states. -/
theorem printStates_avoids (states : List (Value × TableState)) :
    Avoids Failure.isLibrary (printStates states) := by
  induction states with
  | nil => exact .pure _
  | cons state rest inductionHypothesis =>
      exact (Avoids.lift (nameColumn_avoids _)).bind fun _ => (printLine_avoids _).bind fun _ =>
        inductionHypothesis

/-- The final report ends with none of the library's failures. -/
theorem reportActions_avoids (shared : Shared) (results : List (Value × String)) :
    Avoids Failure.isLibrary (reportActions shared results) := by
  unfold reportActions
  dsimp only
  split
  · exact (printJson_avoids _).bind fun _ => .pure _
  · exact (printActions_avoids _).bind fun _ => .pure _

/-! ## Tasks -/

/-- Each table is brought in line behind its own name. -/
theorem handles_applyAll (strict : Bool) (database : Database) (schemas : List Schema)
    {finish : List (Value × String) → Run}
    (avoids : ∀ results, Avoids Failure.isLibrary (finish results)) {leads : List String}
    (named : ∀ schema ∈ schemas, schema.name.toText ++ ": " ∈ leads) :
    Handles true leads (settleAll strict database schemas)
      (applyAll database strict schemas finish) := by
  induction schemas generalizing finish with
  | nil => exact .ends (avoids [])
  | cons schema rest inductionHypothesis =>
      obtain ⟨first, others⟩ := List.forall_mem_cons.mp named
      rw [applyAll_cons]
      exact .expects (fun _ => rfl) first (.ofSteady (schema.settle_steady database strict)) fun _ =>
        inductionHypothesis (fun _ => avoids _) others

/-- What is done with the states of tables. -/
def reportStates (shared : Shared) (states : List (Value × TableState)) : Run := do
  if shared.json then
    printJson (.list (states.map fun entry => tableEntry "state" (entry.1, entry.2.name)))
  else printStates states
  pure (if states.all fun entry => entry.2 = .same then 0 else 1)

/-- A check passes the failures of the library on. -/
theorem handles_check (shared : Shared) (database : Database) (schemas : List Schema)
    (leads : List String) : Handles false leads (dropping (tableStates database schemas))
      (tableStates database schemas >>= reportStates shared) := by
  apply Handles.follows
  intro states
  apply Handles.ends
  unfold reportStates
  dsimp only
  split
  · exact (printJson_avoids _).bind fun _ => .pure _
  · exact (printStates_avoids _).bind fun _ => .pure _

/-- This action counts the rows of a query and prints the number. -/
def countRows (shared : Shared) (table : String) (query : Query) (database : Database) : Run :=
  expecting (query.count database) Failure.isLibrary Failure.message fun number => do
    if shared.json then
      printJson (.map [(.text "table", .text table), (.text "count", number)])
    else printLine (if number.isNull then "" else number.toText)
    pure 0

/-- Counting rows reports the failures of the library without a text before them. -/
theorem handles_countRows (shared : Shared) (table : String) (query : Query) (database : Database) :
    Handles true [""] (dropping (query.count database)) (countRows shared table query database) := by
  refine .expects (fun _ => (String.empty_append).symm) List.mem_cons_self
    (.ofSteady (query.count_steady database)) fun number => .ends ?_
  dsimp only
  split
  · exact (printJson_avoids _).bind fun _ => .pure _
  · exact (printLine_avoids _).bind fun _ => .pure _

/-- This action prints the rows of a query. -/
def findRows (query : Query) (database : Database) : Run :=
  expecting (printRows query database) Failure.isLibrary Failure.message fun _ => pure 0

/-- Printing rows reports the failures of the library without a text before them. -/
theorem handles_findRows (query : Query) (database : Database) :
    Handles true [""] (dropping (printRows query database)) (findRows query database) :=
  .expects (fun _ => (String.empty_append).symm) List.mem_cons_self
    (printRows_keeps query database) fun _ => .ends (.pure _)

/-- A computation that returns can stand before what is handled. -/
theorem Handles.lifted {reports : Bool} {leads : List String} {outcome : Except Failure α}
    {asks : α → Action Console Unit} {next : α → Run}
    (returns : ∃ value, outcome = .ok value)
    (handles : ∀ value, Handles reports leads (asks value) (next value)) :
    Handles reports leads ((liftM outcome : Action Console α) >>= asks)
      ((liftM outcome : Action Console α) >>= next) := by
  obtain ⟨value, rfl⟩ := returns
  exact handles value

/-- This action prints the declaration of a table that is there. -/
def inspectTable (documents : DocumentFormat) (shared : Shared) (table : String)
    (database : Database) : Run := do
  let schema : Schema := { name := .text table, columns := [] }
  if ← schema.exists? database then
    let found ← schema.introspect database
    let declaration ← (found.toValue : Except Failure Value)
    if shared.json then printJson declaration else printText (documents.write declaration)
    pure 0
  else report ("table not found: " ++ table)

/-- An inspection passes the failures of the library on. -/
theorem handles_inspectTable (documents : DocumentFormat) (shared : Shared) (table : String)
    (database : Database) (leads : List String) :
    Handles false leads (lookAt table database) (inspectTable documents shared table database) := by
  apply Handles.follows
  intro present
  cases present with
  | false => exact .ends (report_avoids _)
  | true =>
      apply Handles.follows
      intro found
      apply Handles.follows
      intro declaration
      apply Handles.ends
      dsimp only
      split
      · exact (printJson_avoids _).bind fun _ => .pure _
      · exact (printText_avoids _).bind fun _ => .pure _

/-- What a command asks of its open database is handled. -/
theorem perform_read {surroundings : Surroundings} {task : Task}
    {asks : Database → Action Console Unit} (reads : work surroundings task = .ok asks)
    (shared : Shared) :
    ∃ rest : Database → Run,
      (∀ ⦃τ : Type⦄ (engine : Engine τ) console start,
        (perform surroundings shared task).runOn engine console start =
          (withDatabase surroundings shared rest).runOn engine console start) ∧
      ∀ database, Handles (!task.isSurvey) (task.leads surroundings .working) (asks database)
        (rest database) := by
  cases task with
  | apply file strict =>
      obtain ⟨schemas, loaded, given⟩ := Outcome.bind_eq_ok.mp reads
      obtain rfl := Except.ok.inj given
      refine ⟨fun database => applyAll database strict schemas (reportActions shared), ?_, ?_⟩
      · intro τ engine console start
        exact apply_loaded loaded shared strict engine console start
      · intro database
        apply handles_applyAll strict database schemas (reportActions_avoids shared)
        intro schema member
        rw [Task.leads, loaded]
        exact List.mem_map_of_mem member
  | check file =>
      obtain ⟨schemas, loaded, given⟩ := Outcome.bind_eq_ok.mp reads
      obtain rfl := Except.ok.inj given
      refine ⟨fun database => tableStates database schemas >>= reportStates shared, ?_, ?_⟩
      · intro τ engine console start
        rw [perform, check, withSchemas, loaded, expecting_ok rfl]
        rfl
      · exact fun database => handles_check shared database schemas _
  | count table filter =>
      obtain ⟨found, filtered, given⟩ := Outcome.bind_eq_ok.mp reads
      obtain rfl := Except.ok.inj given
      refine ⟨_, ?_, fun database => Handles.lifted (rowsOf_readFilter filtered table) fun query =>
        handles_countRows shared table query database⟩
      intro τ engine console start
      rw [perform, count, withFilter, filtered, expecting_ok rfl]
      rfl
  | find table filter ordering limit offset columns =>
      obtain ⟨found, filtered, given⟩ := Outcome.bind_eq_ok.mp reads
      obtain rfl := Except.ok.inj given
      have builds : ∃ query, (do
          refine (← rowsOf table found) ordering limit offset columns : Except Failure Query) =
            .ok query := by
        obtain ⟨query, rows⟩ := rowsOf_readFilter filtered table
        rw [rows]
        exact refine_ok query ordering limit offset columns
      refine ⟨_, ?_, fun database => Handles.lifted builds fun query => handles_findRows query database⟩
      intro τ engine console start
      rw [perform, find, withFilter, filtered, expecting_ok rfl]
      rfl
  | inspect table =>
      obtain rfl := Except.ok.inj reads
      exact ⟨inspectTable surroundings.documents shared table, fun _ _ _ _ => rfl, fun database =>
        handles_inspectTable surroundings.documents shared table database _⟩

/-- A failure of the library is reported where it is one of those that are expected. -/
theorem expecting_unread {outcome : Except Failure α} {failure : Failure}
    (refused : outcome = .error failure) {expected : Failure → Bool} {message : Failure → String}
    (known : failure.isLibrary = true → expected failure = true) {lead : String}
    (written : message failure = lead ++ failure.message) (next : α → Run) (engine : Engine τ)
    (console : Console) (start : τ) :
    if failure.isLibrary then ReportsAfter console [lead] failure
      ((expecting (liftM outcome) expected message next).runOn engine console start)
    else Outcome.Avoids Failure.isLibrary
      ((expecting (liftM outcome) expected message next).runOn engine console start).outcome := by
  have fails : ((liftM outcome : Action Console α).runOn engine console start).outcome =
      .error failure := refused
  have reported (expects : expected failure = true) : ReportsAfter console [lead] failure
      ((expecting (liftM outcome) expected message next).runOn engine console start) :=
    expecting_expected fails expects written rfl (List.mem_singleton_self lead)
  cases library : failure.isLibrary with
  | true => exact reported (known library)
  | false =>
      intro other failed
      cases expects : expected failure with
      | true => exact nomatch failed.symm.trans (reported expects).outcome
      | false =>
          obtain rfl := Except.error.inj ((expecting_other fails expects).1.symm.trans failed)
          exact library

/-- A failure of the library is reported where a command reads what it is given, and the command does
not end with another one of the library. -/
theorem perform_unread {surroundings : Surroundings} {task : Task} {failure : Failure}
    (refused : work surroundings task = .error failure) (shared : Shared) (engine : Engine τ)
    (console : Console) (start : τ) :
    if failure.isLibrary then ReportsAfter console (task.leads surroundings .reading) failure
      ((perform surroundings shared task).runOn engine console start)
    else Outcome.Avoids Failure.isLibrary
      ((perform surroundings shared task).runOn engine console start).outcome := by
  have unread {α β : Type} {outcome : Except Failure α} {give : α → β}
      (refused : (outcome >>= fun value => pure (give value)) = .error failure) :
      outcome = .error failure := Outcome.bind_pure_eq_error.mp refused
  have schemas {file : String} (refused : Schema.load surroundings file = .error failure)
      (library : failure.isLibrary = true) :
      (failure.isBadValue || failure.isMissingKey || failure.isFile) = true := by
    rw [Failure.isBadValue_of_isLibrary library (Schema.load_avoids surroundings file failure refused),
      Bool.true_or, Bool.true_or]
  have filters {filter : Option String} (refused : readFilter filter = .error failure)
      (library : failure.isLibrary = true) : failure.isBadValue = true :=
    nomatch (readFilter_avoids filter failure refused).symm.trans library
  cases task with
  | apply file strict =>
      exact expecting_unread (unread refused) (schemas (unread refused)) rfl _ engine console start
  | check file =>
      exact expecting_unread (unread refused) (schemas (unread refused)) rfl _ engine console start
  | count table filter =>
      exact expecting_unread (unread refused) (filters (unread refused)) rfl _ engine console start
  | find table filter ordering limit offset columns =>
      exact expecting_unread (unread refused) (filters (unread refused)) rfl _ engine console start
  | inspect table => exact nomatch refused

/-! ## Whole commands -/

/-- Opening the database of a command prints nothing. -/
theorem opening_state (surroundings : Surroundings) (shared : Shared) (engine : Engine τ)
    (console : Console) (start : τ) :
    ((opening surroundings shared).runOn engine console start).state = console := by
  cases read : settingsOf surroundings shared with
  | error failure => rw [opening, configured_refused read]
  | ok settings =>
      obtain ⟨level, middle, runs⟩ := configured_read read engine console start
      rw [opening, runs, openWith, runOn_locally]

/-- A command finds its settings, opens its database, and closes it after its work. -/
theorem withDatabase_eq (surroundings : Surroundings) (shared : Shared) (rest : Database → Run) :
    withDatabase surroundings shared rest = configured surroundings shared fun settings =>
      expecting (openWith settings) Failure.isLibrary Failure.message fun database =>
        closing (rest database) database := rfl

/-- A database that cannot be opened is reported where that is a failure of the library. -/
theorem withDatabase_unopened {surroundings : Surroundings} {shared : Shared} {engine : Engine τ}
    {console : Console} {start : τ} {failure : Failure}
    (fails : ((opening surroundings shared).runOn engine console start).outcome = .error failure)
    (rest : Database → Run) :
    if failure.isLibrary then ReportsAfter console [""] failure
      ((withDatabase surroundings shared rest).runOn engine console start)
    else ((withDatabase surroundings shared rest).runOn engine console start).outcome =
      .error failure := by
  rw [withDatabase_eq]
  cases read : settingsOf surroundings shared with
  | error other =>
      rw [opening, configured_refused read] at fails
      obtain rfl := Except.error.inj fails
      rw [settingsOf_avoids surroundings shared other read, configured_refused read]
      rfl
  | ok settings =>
      obtain ⟨level, middle, runs⟩ := configured_read read engine console start
      rw [opening, runs] at fails
      rw [runs]
      cases library : failure.isLibrary with
      | true =>
          have kept : ((openWith settings).runOn engine console middle).state.errors =
              console.errors := by
            rw [openWith, runOn_locally]
          have reported : ReportsAfter console [""] failure
              ((expecting (openWith settings) Failure.isLibrary Failure.message fun database =>
                closing (rest database) database).runOn engine console middle) :=
            expecting_expected fails library String.empty_append.symm kept List.mem_cons_self
          exact ⟨reported.outcome, reported.errors⟩
      | false => exact (expecting_other fails library).1

/-- The closing of a database leaves the console as it is. -/
theorem closing_state (rest : Run) (database : Database) (engine : Engine τ) (console : Console)
    (start : τ) : ((closing rest database).runOn engine console start).state =
      (rest.runOn engine console start).state := by
  have whole : (closing rest database).runOn engine console start = _ :=
    runOn_afterwards engine console start rest fun _ => locally Database.close database
  rw [whole, Run.afterwards]
  dsimp only
  rw [runOn_locally]

/-- A command ends on its open database as what it does there. -/
theorem withDatabase_opened {surroundings : Surroundings} {shared : Shared} {engine : Engine τ}
    {console : Console} {start : τ} {opens : Tabular.Run Console τ Database}
    (begins : (opening surroundings shared).runOn engine console start = opens)
    {database : Database} (opened : opens.outcome = .ok database) (rest : Database → Run) :
    ((withDatabase surroundings shared rest).runOn engine console start).outcome =
        ((rest database).runOn engine opens.state opens.final).outcome ∧
      ((withDatabase surroundings shared rest).runOn engine console start).state =
        ((rest database).runOn engine opens.state opens.final).state := by
  obtain ⟨-, runs⟩ := withDatabase_run surroundings shared rest engine console start begins
  rw [opened] at runs
  obtain ⟨connection, -, returns, -⟩ := runs
  refine ⟨returns, ?_⟩
  rw [withDatabase_eq]
  cases read : settingsOf surroundings shared with
  | error failure =>
      rw [opening, configured_refused read] at begins
      subst begins
      cases opened
  | ok settings =>
      obtain ⟨level, middle, settled⟩ := configured_read read engine console start
      rw [opening, settled] at begins
      subst begins
      rw [settled]
      dsimp only at opened ⊢
      rw [expecting_ok opened, Run.follow, opened]
      exact closing_state _ _ _ _ _

/-- A command ends with the status that its action returns, or with one and the failure. -/
def endingOf (run : Tabular.Run Console τ Nat) : Ending :=
  match run.outcome with
  | .ok status => { status, console := run.state }
  | .error failure => { status := 1, console := run.state, failure := some failure }

/-- A line that is read as a task ends as its command does. -/
theorem run_perform {surroundings : Surroundings} {words : List String} {reader : LineReader}
    {shared : Shared} {task : Task} (reads : reader surroundings words = .ok (shared, task))
    (engine : Engine τ) (start : τ) : ((run surroundings words reader).run engine start).1 =
      endingOf ((perform surroundings shared task).runOn engine {} start) := by
  rw [run, reads]
  have follows (finish : Except Failure Nat × Console → Program Ending) :=
    Program.runBind engine ((perform surroundings shared task).start {}) finish start
  refine (congrArg Prod.fst (follows _)).trans ?_
  rw [Program.run_unrecorded engine _ start [], endingOf, runOn]
  cases ((perform surroundings shared task).start {}).run engine.recorded (start, []) with
  | mk ended final =>
      obtain ⟨outcome, console⟩ := ended
      cases outcome <;> rfl

/-- A run that reports a failure from an empty console ends a command with this report. -/
theorem ReportsAfter.reports {leads : List String} {failure : Failure}
    {run : Tabular.Run Console τ Nat} (reports : ReportsAfter {} leads failure run) :
    (endingOf run).Reports leads failure := by
  obtain ⟨lead, member, errors⟩ := reports.errors
  rw [endingOf, reports.outcome]
  exact ⟨rfl, rfl, lead, member, by rw [errors, String.empty_append]⟩

/-- A command ends with a failure exactly when its action does. -/
theorem endingOf_failure {run : Tabular.Run Console τ Nat} {failure : Failure} :
    (endingOf run).failure = some failure ↔ run.outcome = .error failure := by
  rw [endingOf]
  cases run.outcome <;> simp

/-- Finding the states of tables prints nothing. -/
theorem tableStates_steady (database : Database) (schemas : List Schema) :
    Steady (tableStates database schemas) := by
  induction schemas with
  | nil => exact .pure _
  | cons schema rest inductionHypothesis =>
      unfold tableStates
      rw [schema.tableState_eq database]
      exact ((schema.survey_looks database).steady.bind fun _ => .pure _).bind fun _ =>
        inductionHypothesis.bind fun _ => .pure _

/-- Looking at a table prints nothing. -/
theorem lookAt_steady (table : String) (database : Database) : Steady (lookAt table database) := by
  apply (Schema.exists?_looks _ database).steady.bind
  intro present
  split
  · exact (Schema.introspect_looks _ database).steady.bind fun _ => (Keeps.lift _).bind fun _ => .pure _
  · exact .pure _

/-- What a survey asks of the library leaves the console as it is. -/
theorem work_steady {surroundings : Surroundings} {task : Task} (survey : task.isSurvey = true)
    {asks : Database → Action Console Unit} (reads : work surroundings task = .ok asks)
    (database : Database) : Steady (asks database) := by
  cases task with
  | check file =>
      obtain ⟨schemas, -, given⟩ := Outcome.bind_eq_ok.mp reads
      obtain rfl := Except.ok.inj given
      exact (tableStates_steady database schemas).bind fun _ => .pure _
  | inspect table =>
      obtain rfl := Except.ok.inj reads
      exact lookAt_steady table database
  | apply | count | find => exact nomatch survey

section

variable {surroundings : Surroundings} {shared : Shared} {task : Task} {engine : Engine τ} {start : τ}
  {failure : Failure}

/-- A failure of the library is reported where a command works on its open database, unless the command
is a survey, which passes it on. -/
theorem perform_worked {asks : Database → Action Console Unit} {database : Database}
    {opens : Tabular.Run Console τ Database} (given : work surroundings task = .ok asks)
    (begins : (opening surroundings shared).runOn engine {} start = opens)
    (opened : opens.outcome = .ok database)
    (fails : ((asks database).runOn engine opens.state opens.final).outcome = .error failure)
    (library : failure.isLibrary = true) :
    if task.isSurvey then
      endingOf ((perform surroundings shared task).runOn engine {} start) =
        { status := 1, failure := some failure }
    else ReportsAfter {} (task.leads surroundings .working) failure
      ((perform surroundings shared task).runOn engine {} start) := by
  obtain ⟨rest, performs, handles⟩ := perform_read given shared
  obtain ⟨returns, stays⟩ := withDatabase_opened begins opened rest
  have kept : opens.state = {} := by rw [← begins, opening_state]
  have handled := (handles database).failed engine opens.state opens.final failure fails
  rw [performs]
  rw [library, Bool.and_true] at handled
  cases survey : task.isSurvey with
  | true =>
      rw [survey] at handled
      obtain ⟨escapes, same⟩ := handled
      have steady : ((asks database).runOn engine opens.state opens.final).state = opens.state :=
        work_steady survey given database engine _ _
      rw [if_pos rfl, endingOf, returns, escapes, stays, same, steady, kept]
  | false =>
      rw [survey] at handled
      obtain ⟨outcome, lead, member, errors⟩ := handled
      exact ⟨returns.trans outcome, lead, member, by rw [stays, errors, kept]⟩

/-- Only a survey ends with a failure of the library, and it has met it on its open database. -/
theorem perform_escapes
    (escapes : ((perform surroundings shared task).runOn engine {} start).outcome = .error failure)
    (library : failure.isLibrary = true) :
    task.isSurvey = true ∧ Raises surroundings shared task engine start .working failure := by
  cases given : work surroundings task with
  | error other =>
      have unread := perform_unread given shared engine {} start
      split at unread
      · exact nomatch escapes.symm.trans unread.outcome
      · exact nomatch (unread failure escapes).symm.trans library
  | ok asks =>
      obtain ⟨rest, performs, handles⟩ := perform_read given shared
      rw [performs] at escapes
      cases opened : ((opening surroundings shared).runOn engine {} start).outcome with
      | error other =>
          have unopened := withDatabase_unopened opened rest
          split at unopened
          · exact nomatch escapes.symm.trans unopened.outcome
          · next unowned =>
              obtain rfl := Except.error.inj (escapes.symm.trans unopened)
              exact absurd library unowned
      | ok database =>
          obtain ⟨returns, -⟩ := withDatabase_opened rfl opened rest
          rw [returns] at escapes
          generalize begins : (opening surroundings shared).runOn engine {} start = opens at *
          cases asked : ((asks database).runOn engine opens.state opens.final).outcome with
          | ok value =>
              have avoids := (handles database).done engine _ _ asked failure escapes
              exact nomatch avoids.symm.trans library
          | error other =>
              have handled := (handles database).failed engine _ _ other asked
              split at handled
              · exact nomatch escapes.symm.trans handled.outcome
              · next passed =>
                  obtain rfl := Except.error.inj (escapes.symm.trans handled.1)
                  exact ⟨by simpa [library] using passed, .working given begins opened asked⟩

end

/-- Every failure of the library is reported as the only error, unless the command only looks at tables
and fails while it does so. Then the failure ends the command as it is, and nothing is printed. No other
failure of the library ends a command. This holds of every form of documents and of every reader of
command lines. -/
theorem failure_reported {surroundings : Surroundings} {words : List String} {reader : LineReader}
    {shared : Shared} {task : Task} (reads : reader surroundings words = .ok (shared, task))
    (engine : Engine τ) (start : τ) :
    let ending := ((run surroundings words reader).run engine start).1
    (∀ stage failure, Raises surroundings shared task engine start stage failure →
      failure.isLibrary = true →
      if task.isSurvey && stage = .working then ending = { status := 1, failure := some failure }
      else ending.Reports (task.leads surroundings stage) failure) ∧
    ∀ failure, ending.failure = some failure → failure.isLibrary = true →
      task.isSurvey = true ∧ Raises surroundings shared task engine start .working failure := by
  intro ending
  have ends : ending = endingOf ((perform surroundings shared task).runOn engine {} start) :=
    run_perform reads engine start
  rw [ends]
  constructor
  · intro stage failure raises library
    cases raises with
    | reading fails =>
        have reported := perform_unread fails shared engine {} start
        rw [if_pos library] at reported
        simpa using reported.reports
    | @opening asks _ given fails =>
        obtain ⟨rest, performs, -⟩ := perform_read given shared
        have reported := withDatabase_unopened fails rest
        have leads : task.leads surroundings .opening = [""] := by cases task <;> rfl
        rw [if_pos library, ← performs] at reported
        rw [leads]
        simpa using reported.reports
    | working given begins opened fails =>
        have worked := perform_worked given begins opened fails library
        cases survey : task.isSurvey with
        | true =>
            rw [survey] at worked
            exact worked
        | false =>
            rw [survey] at worked
            exact ReportsAfter.reports worked
  · intro failure escapes library
    exact perform_escapes (endingOf_failure.mp escapes) library

/-! A database is opened, and then it is locked. -/

def lockedScript : Script where
  replies := [{}, { failure := some ⟨.operational, "database is locked"⟩ }]

def lockedShared : Shared := { database := some "test.db" }

def lockedDatabase : Database where
  path := "test.db"
  settings := { database := "test.db" }
  connection := some ⟨0⟩

/-- A count of rows reports that the database is locked. -/
theorem failure_reported_locked :
    let failure := Failure.engine "database is locked" "SELECT COUNT(*) AS count FROM items" (.map [])
    Raises (declaring []) lockedShared (.count "items" none) Script.engine lockedScript .working
        failure ∧
      ((run (declaring []) ["--db", "test.db", "count", "items"]).run Script.engine
        lockedScript).1.Reports [""] failure := by
  intro failure
  have reads : lineReader (declaring []) ["--db", "test.db", "count", "items"] =
      .ok (lockedShared, .count "items" none) := by decide +kernel
  have opened : ((opening (declaring []) lockedShared).runOn Script.engine {} lockedScript).outcome =
      .ok lockedDatabase := by decide +kernel
  have raises : Raises (declaring []) lockedShared (.count "items" none) Script.engine lockedScript
      .working failure := .working rfl rfl opened (by decide +kernel)
  exact ⟨raises, (failure_reported reads Script.engine lockedScript).1 _ _ raises rfl⟩

/-- A check of a table ends with the failure as it is. -/
theorem check_escapes :
    let failure := Failure.engine "database is locked" Schema.countTableText (.tuple [.text "items"])
    let ending := ((run (declaring [itemsText]) ["--db", "test.db", "check", "schema.yaml"]).run
      Script.engine lockedScript).1
    Raises (declaring [itemsText]) lockedShared (.check "schema.yaml") Script.engine lockedScript
        .working failure ∧ failure.isLibrary = true ∧
      ending = { status := 1, failure := some failure } ∧ ∀ leads, ¬ ending.Reports leads failure := by
  intro failure ending
  have loaded : Schema.load (declaring [itemsText]) "schema.yaml" = .ok [plainTable "items"] := by
    decide +kernel
  have given : work (declaring [itemsText]) (.check "schema.yaml") =
      .ok fun database => dropping (tableStates database [plainTable "items"]) := by
    rw [work, loaded]
    rfl
  have opened : ((opening (declaring [itemsText]) lockedShared).runOn Script.engine {}
      lockedScript).outcome = .ok lockedDatabase := by decide +kernel
  have ends : ending = { status := 1, failure := some failure } := by decide +kernel
  refine ⟨.working given rfl opened (by decide +kernel), rfl, ends, fun leads reports => ?_⟩
  rw [ends] at reports
  exact nomatch reports.expected

end Command

end Tabular
