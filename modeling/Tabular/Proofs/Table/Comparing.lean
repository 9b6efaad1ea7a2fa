import Tabular.Proofs.Table.Surveying

/-!
This module compares what is told about a declared table with what is done to it. Where the engine
replies the same rows, a check, a creation and an update agree.
-/

namespace Tabular

open Tabular.Action Exchange

variable {σ τ : Type}

namespace Schema

variable {schema : Schema} {database : Database} {engine : Engine τ}

/-! ## What a run has done, by what its survey found -/

/-- A run that goes on with a table that is different reports an update if it returns. -/
theorem goesOn_updated {different : Schema → Action σ SyncResult}
    (updates : ∀ old state start result,
      ((different old).runOn engine state start).outcome = .ok result → result.wasUpdated = true)
    {run : Run σ τ SyncResult} {old : Schema} (goes : run.GoesOn engine (different old) id)
    {result : SyncResult} (returns : run.outcome = .ok result) : result.wasUpdated = true := by
  obtain ⟨earlier, state, middle, -, -, ends⟩ := goes
  rw [ends, Except.map_id] at returns
  exact updates _ state middle _ returns

/-- Such a run reports nothing that is no update. -/
theorem goesOn_ne {different : Schema → Action σ SyncResult}
    (updates : ∀ old state start result,
      ((different old).runOn engine state start).outcome = .ok result → result.wasUpdated = true)
    {run : Run σ τ SyncResult} {old : Schema} (goes : run.GoesOn engine (different old) id)
    {result : SyncResult} (kept : result.wasUpdated = false) : run.outcome ≠ .ok result := by
  intro returns
  have updated := goesOn_updated updates goes returns
  cases kept.symm.trans updated

section

variable {different : Schema → Action σ SyncResult} {run : Run σ τ SyncResult}
  {found : Except Failure (Option (Schema × Bool))}
  (proceeded : Proceeded schema database engine different run found)

include proceeded

/-- A look at the table that failed ends the run, after reads only. -/
theorem Proceeded.raises {failure : Failure} (raised : found = .error failure) :
    run.outcome = .error failure ∧ OnlyReads run.exchanges := by
  subst raised
  cases proceeded with
  | failed _ raises reads => exact ⟨raises, reads⟩

/-- Where the table is absent, it is created. -/
theorem Proceeded.gone (absent : found = .ok none) :
    (run.GoesOn engine (schema.create database) fun _ => { wasCreated := true }) ∧
    ∀ failure, schema.definitions = .error failure →
      run.outcome = .error failure ∧ OnlyReads run.exchanges := by
  subst absent
  cases proceeded with
  | absent creates ends refuses =>
      refine ⟨creates, fun failure refused => ⟨?_, (refuses failure refused).1⟩⟩
      rw [ends, refused]
      rfl

/-- A table that is found as declared is only read. -/
theorem Proceeded.keptReads {old : Schema} (same : found = .ok (some (old, true))) :
    OnlyReads run.exchanges := by
  subst same
  cases proceeded with
  | same _ reads => exact reads

variable (updates : ∀ old state start result,
  ((different old).runOn engine state start).outcome = .ok result → result.wasUpdated = true)

include updates

/-- A table is reported as created exactly when it was absent and its definitions can be written. -/
theorem Proceeded.created_iff : run.outcome = .ok { wasCreated := true } ↔
    found = .ok none ∧ ∃ definitions, schema.definitions = .ok definitions := by
  cases proceeded with
  | failed _ raises => simp [raises]
  | same returns => simp [returns]
  | absent _ ends =>
      rw [ends]
      cases schema.definitions <;> simp [Except.map]
  | different _ goes => simp [goesOn_ne updates goes]

/-- A table is reported as unchanged exactly when it was found as declared. -/
theorem Proceeded.kept_iff : run.outcome = .ok { wasCreated := false } ↔
    ∃ old, found = .ok (some (old, true)) := by
  cases proceeded with
  | failed _ raises => simp [raises]
  | same returns => simp [returns]
  | absent _ ends =>
      rw [ends]
      cases schema.definitions <;> simp [Except.map]
  | different _ goes => simp [goesOn_ne updates goes]

end

/-- A refusal never returns. -/
theorem refuse_updates (old : Schema) (state : σ) (start : τ) (result : SyncResult)
    (returns : ((schema.refuse old).runOn engine state start).outcome = .ok result) :
    result.wasUpdated = true := nomatch returns

/-- A migration that returns reports an update. -/
theorem replace_updates (old : Schema) (state : σ) (start : τ) (result : SyncResult)
    (returns : ((schema.replace database old).runOn engine state start).outcome = .ok result) :
    result.wasUpdated = true := by
  rw [replace, runOn_wrap] at returns
  cases ended : ((schema.migrate old database).runOn engine state start).outcome with
  | error failure => simp [ended, Except.map] at returns
  | ok value =>
      simp only [ended, Except.map, Except.ok.injEq] at returns
      rw [← returns]

/-- A creation refuses a table exactly where its survey finds it different. -/
theorem Proceeded.refused_iff {run : Run σ τ SyncResult}
    {found : Except Failure (Option (Schema × Bool))}
    (proceeded : Proceeded schema database engine schema.refuse run found) :
    run.outcome = .error (.schemaMismatch schema.name) ↔ ∃ old, found = .ok (some (old, false)) := by
  cases proceeded with
  | @failed failure accepted raises =>
      have own : failure ≠ .schemaMismatch schema.name := by
        rintro rfl
        exact nomatch accepted
      simp [raises, own]
  | same returns => simp [returns]
  | absent _ ends =>
      rw [ends]
      cases rendered : schema.definitions with
      | ok definitions => simp [Except.map]
      | error failure =>
          have own : failure ≠ .schemaMismatch schema.name := by
            rintro rfl
            exact nomatch schema.definitions_computed _ rendered
          simp [Except.map, own]
  | different _ goes =>
      obtain ⟨earlier, state, middle, -, -, ends⟩ := goes
      simp [ends, refuse, Except.map]

/-- A different table that is refused is only read. -/
theorem Proceeded.refusedReads {run : Run σ τ SyncResult} {old : Schema}
    (proceeded : Proceeded schema database engine schema.refuse run (.ok (some (old, false)))) :
    OnlyReads run.exchanges := by
  cases proceeded with
  | different _ goes =>
      obtain ⟨earlier, state, middle, reads, split, -⟩ := goes
      rw [split, refuse, runOn_throw, List.append_nil]
      exact reads

/-! ## Migrations -/

/-- A run goes on to a migration of a table that differs from its declaration. -/
def Migrates (schema : Schema) (database : Database) (engine : Engine τ)
    (run : Run σ τ SyncResult) : Prop :=
  ∃ old, schema.agrees old = .ok false ∧ run.GoesOn engine (schema.migrate old database)
    fun _ => { wasCreated := false, wasUpdated := true }

/-- A migration begins with the time, after which the backup is named. -/
theorem Migrates.timed {run : Run σ τ SyncResult} (migrates : Migrates schema database engine run) :
    ¬ Untimed run.exchanges := by
  obtain ⟨old, -, earlier, state, middle, -, split, -⟩ := migrates
  intro untimed
  have asked : ∃ exchange ∈ run.exchanges, exchange.request = .time := by
    rw [split, migrate, runOn_bind, runOn_time, Run.follow]
    exact ⟨_, List.mem_append_right _ List.mem_cons_self, rfl⟩
  obtain ⟨exchange, member, time⟩ := asked
  exact untimed exchange member time

/-- A migration never reports a creation. -/
theorem Migrates.not_created {run : Run σ τ SyncResult}
    (migrates : Migrates schema database engine run) : run.outcome ≠ .ok { wasCreated := true } := by
  obtain ⟨old, -, earlier, state, middle, -, -, ends⟩ := migrates
  rw [ends]
  cases ((schema.migrate old database).runOn engine state middle).outcome <;> simp [Except.map]

/-- An update migrates a table exactly where its survey finds it different. -/
theorem Proceeded.migrates_iff {run : Run σ τ SyncResult}
    {found : Except Failure (Option (Schema × Bool))}
    (proceeded : Proceeded schema database engine (schema.replace database) run found) :
    Migrates schema database engine run ↔ ∃ old, found = .ok (some (old, false)) := by
  -- Apart from a migration, no run that proceeds asks for the time.
  cases proceeded with
  | failed _ _ _ untimed =>
      exact iff_of_false (fun migrates => migrates.timed untimed) (by simp)
  | same _ _ untimed => exact iff_of_false (fun migrates => migrates.timed untimed) (by simp)
  | absent _ ends refuses =>
      refine iff_of_false (fun migrates => ?_) (by simp)
      cases rendered : schema.definitions with
      | error failure => exact migrates.timed (refuses failure rendered).2
      | ok definitions =>
          rw [rendered] at ends
          exact migrates.not_created ends
  | @different old differs goes =>
      refine iff_of_true ?_ ⟨old, rfl⟩
      obtain ⟨earlier, state, middle, reads, split, ends⟩ := goes
      rw [replace, runOn_wrap] at split ends
      exact ⟨old, differs, earlier, state, middle, reads, split,
        ends.trans (congrFun Except.map_id _)⟩

/-! ## The agreement -/

/-- What a check tells about a table is what a creation and an update do to it. A table that is absent
is created if its definitions can be written. -/
structure Agreed (schema : Schema) (database : Database) (engine : Engine τ)
    (present : Except Failure Bool) (checked : Run σ τ Command.TableState)
    (strict update : Run σ τ SyncResult) : Prop where
  reads : OnlyReads checked.exchanges
  absent : present = .ok false ↔ checked.outcome = .ok .absent
  created : strict.outcome = .ok { wasCreated := true } ↔
    checked.outcome = .ok .absent ∧ ∃ definitions, schema.definitions = .ok definitions
  updateCreated : update.outcome = .ok { wasCreated := true } ↔
    checked.outcome = .ok .absent ∧ ∃ definitions, schema.definitions = .ok definitions
  creates : checked.outcome = .ok .absent →
    (strict.GoesOn engine (schema.create database) fun _ => { wasCreated := true }) ∧
    (update.GoesOn engine (schema.create database) fun _ => { wasCreated := true })
  unwritten : checked.outcome = .ok .absent → ∀ failure, schema.definitions = .error failure →
    (strict.outcome = .error failure ∧ OnlyReads strict.exchanges) ∧
    (update.outcome = .error failure ∧ OnlyReads update.exchanges)
  kept : checked.outcome = .ok .same ↔ strict.outcome = .ok { wasCreated := false }
  updateKept : checked.outcome = .ok .same ↔
    update.outcome = .ok { wasCreated := false, wasUpdated := false }
  keptReads : checked.outcome = .ok .same →
    OnlyReads strict.exchanges ∧ OnlyReads update.exchanges
  refused : checked.outcome = .ok .different ↔
    strict.outcome = .error (.schemaMismatch schema.name)
  refusedReads : checked.outcome = .ok .different → OnlyReads strict.exchanges
  migrated : checked.outcome = .ok .different ↔ Migrates schema database engine update
  failed : ∀ failure, checked.outcome = .error failure →
    (strict.outcome = .error failure ∧ OnlyReads strict.exchanges) ∧
    (update.outcome = .error failure ∧ OnlyReads update.exchanges)

/-- A survey finds no table exactly when it is not there. -/
theorem survey_absent_iff (state : σ) (start : τ) :
    ((schema.survey database).runOn engine state start).outcome = .ok none ↔
      ((schema.exists? database).runOn engine state start).outcome = .ok false := by
  rw [survey, runOn_bind, Run.follow]
  cases ((schema.exists? database).runOn engine state start).outcome with
  | error failure => simp
  | ok present =>
      cases present with
      | false => exact iff_of_true rfl rfl
      | true =>
          simp only [if_true, runOn_bind, runOn_lift, runOn_pure, Run.follow, Except.ok.injEq,
            Bool.true_eq_false, iff_false]
          split
          · split <;> simp
          · simp

section

variable (found : Except Failure (Option (Schema × Bool)))

theorem stateOf_absent_iff : found.map stateOf = .ok .absent ↔ found = .ok none := by
  rcases found with failure | _ | ⟨old, _ | _⟩ <;> simp [Except.map, stateOf]

/-- A table is told to be the same exactly when it was found as declared. -/
theorem stateOf_same_iff : found.map stateOf = .ok .same ↔ ∃ old, found = .ok (some (old, true)) := by
  rcases found with failure | _ | ⟨old, _ | _⟩ <;> simp [Except.map, stateOf]

/-- A table is told to be different exactly when it was found to differ. -/
theorem stateOf_different_iff :
    found.map stateOf = .ok .different ↔ ∃ old, found = .ok (some (old, false)) := by
  rcases found with failure | _ | ⟨old, _ | _⟩ <;> simp [Except.map, stateOf]

/-- The state of a table cannot be told exactly when the survey failed. -/
theorem stateOf_failed_iff (failure : Failure) :
    found.map stateOf = .error failure ↔ found = .error failure := by
  rcases found with failure | _ | ⟨old, _ | _⟩ <;> simp [Except.map]

end

/-- What was found about a table settles the check, the creation and the update together. -/
theorem Proceeded.agreed {found : Except Failure (Option (Schema × Bool))}
    {present : Except Failure Bool} {checked : Run σ τ Command.TableState}
    {strict update : Run σ τ SyncResult} (tells : found = .ok none ↔ present = .ok false)
    (reads : OnlyReads checked.exchanges) (checks : checked.outcome = found.map stateOf)
    (refuses : Proceeded schema database engine schema.refuse strict found)
    (replaces : Proceeded schema database engine (schema.replace database) update found) :
    Agreed schema database engine present checked strict update where
  reads := reads
  absent := by rw [checks, stateOf_absent_iff, tells]
  created := by rw [checks, stateOf_absent_iff, refuses.created_iff schema.refuse_updates]
  updateCreated := by rw [checks, stateOf_absent_iff, replaces.created_iff replace_updates]
  creates := by
    rw [checks, stateOf_absent_iff]
    exact fun absent => ⟨(refuses.gone absent).1, (replaces.gone absent).1⟩
  unwritten := by
    rw [checks, stateOf_absent_iff]
    exact fun absent failure refused =>
      ⟨(refuses.gone absent).2 failure refused, (replaces.gone absent).2 failure refused⟩
  kept := by rw [checks, stateOf_same_iff, refuses.kept_iff schema.refuse_updates]
  updateKept := by rw [checks, stateOf_same_iff, replaces.kept_iff replace_updates]
  keptReads := by
    rw [checks, stateOf_same_iff]
    rintro ⟨old, same⟩
    exact ⟨refuses.keptReads same, replaces.keptReads same⟩
  refused := by rw [checks, stateOf_different_iff, refuses.refused_iff]
  refusedReads := by
    rw [checks, stateOf_different_iff]
    rintro ⟨old, rfl⟩
    exact refuses.refusedReads
  migrated := by rw [checks, stateOf_different_iff, replaces.migrates_iff]
  failed := by
    intro failure
    rw [checks, stateOf_failed_iff]
    exact fun raised => ⟨refuses.raises raised, replaces.raises raised⟩

end Schema

/-- Only an open database tells whether foreign keys are enforced. -/
theorem Database.opened_of_asked {database : Database} {engine : Engine τ} {state : σ} {start : τ}
    {enabled : Bool} (told : (database.foreignKeysEnabled.runOn engine state start).outcome = .ok enabled) :
    ∃ connection, database.connection = some connection := by
  cases opened : database.connection with
  | some connection => exact ⟨connection, rfl⟩
  | none =>
      simp [foreignKeysEnabled, pragma, first, execute, connected, opened, runOn_bind, Run.follow] at told

namespace Schema

variable {schema : Schema} {database : Database} {engine : Engine τ} {state : σ}

/-- A check is the survey, with its findings told. -/
theorem checked_run {start : τ} {checked : Run σ τ Command.TableState}
    (checks : (Command.tableState schema database).runOn engine state start = checked) :
    checked.outcome = ((schema.survey database).runOn engine state start).outcome.map stateOf ∧
      checked.exchanges = ((schema.survey database).runOn engine state start).exchanges := by
  rw [← checks, tableState_eq, runOn_wrap]
  exact ⟨rfl, rfl⟩

/-- An update first asks whether foreign keys are on, then goes on from the survey. -/
theorem update_run {start : τ} {asked : Run σ τ Bool} {rest update : Run σ τ SyncResult}
    (asks : database.foreignKeysEnabled.runOn engine state start = asked)
    (off : asked.outcome = .ok false)
    (proceeds : (schema.survey database >>= schema.proceed database (schema.replace database)).runOn
      engine asked.state asked.final = rest)
    (updates : (schema.createOrUpdate database).runOn engine state start = update) :
    update.outcome = rest.outcome ∧ update.exchanges = asked.exchanges ++ rest.exchanges := by
  rw [← updates, ← proceeds, createOrUpdate_eq, runOn_bind, asks, Run.follow, off]
  exact ⟨rfl, rfl⟩

/-- A run that proceeds from a survey finds what another survey finds, if it gets the same replies. -/
theorem proceed_found {connection : Connection} (opened : database.connection = some connection)
    {different : Schema → Action σ SyncResult} {other : σ} {start begin : τ} {answers : List (List Row)}
    (calm : Faultless ((schema.survey database).runOn engine state start).exchanges)
    (told : replies ((schema.survey database).runOn engine state start).exchanges <+: answers)
    {run : Run σ τ SyncResult}
    (runs : (schema.survey database >>= schema.proceed database different).runOn engine other begin = run)
    (runCalm : Faultless run.exchanges) (runTold : replies run.exchanges <+: answers) :
    ((schema.survey database).runOn engine other begin).outcome =
      ((schema.survey database).runOn engine state start).outcome := by
  have begins : ((schema.survey database).runOn engine other begin).exchanges <+: run.exchanges := by
    rw [← runs, runOn_bind]
    exact Run.follow_exchanges _ _
  have settles := (schema.survey_looks database).settles opened engine other state begin start
  have surveyTold := (replies_extend begins).trans runTold
  obtain ⟨later, split⟩ := begins
  rw [← split] at runCalm
  exact settles.equal runCalm.left calm surveyTold told

/-- Telling the states of tables only reads. -/
theorem tableStates_inspects (database : Database) (schemas : List Schema) :
    Inspects (Command.tableStates database schemas) := by
  induction schemas with
  | nil => exact .pure _
  | cons schema rest inductionHypothesis =>
      apply Inspects.bind
      · rw [tableState_eq]
        exact (schema.survey_looks database).inspects.bind fun _ => .pure _
      · exact fun _ => inductionHypothesis.bind fun _ => .pure _

/-- A check, a creation and an update agree about a declared table where the engine replies the same rows
to all of them, nothing fails and foreign keys are not enforced. -/
theorem surveys_agree {checkStart strictStart updateStart : τ} {answers : List (List Row)}
    {asked : Run σ τ Bool} {checked : Run σ τ Command.TableState} {strict update : Run σ τ SyncResult}
    (asks : database.foreignKeysEnabled.runOn engine state updateStart = asked)
    (off : asked.outcome = .ok false)
    (checks : (Command.tableState schema database).runOn engine state checkStart = checked)
    (creates : (schema.createIfAbsent database).runOn engine state strictStart = strict)
    (updates : (schema.createOrUpdate database).runOn engine state updateStart = update)
    (checkCalm : Faultless checked.exchanges) (strictCalm : Faultless strict.exchanges)
    (updateCalm : Faultless update.exchanges)
    (checkTold : replies checked.exchanges <+: answers)
    (strictTold : replies strict.exchanges <+: answers)
    (updateTold : replies update.exchanges <+: replies asked.exchanges ++ answers) :
    Agreed schema database engine ((schema.exists? database).runOn engine state checkStart).outcome
        checked strict update ∧
      ∀ schemas console start,
        OnlyReads ((Command.tableStates database schemas).runOn engine console start).exchanges := by
  obtain ⟨connection, opened⟩ := Database.opened_of_asked (asks ▸ off)
  obtain ⟨checkEnds, checkAsks⟩ := checked_run checks
  obtain ⟨updateEnds, updateAsks⟩ := update_run asks off rfl updates
  rw [createIfAbsent_eq] at creates
  have asksReads : OnlyReads asked.exchanges := by
    rw [← asks]
    exact database.foreignKeysEnabled_looks.inspects engine state updateStart
  have asksUntimed : Untimed asked.exchanges := by
    rw [← asks]
    exact database.foreignKeysEnabled_looks.untimed opened engine state updateStart
  have checkReads : OnlyReads checked.exchanges := by
    rw [checkAsks]
    exact (schema.survey_looks database).inspects engine state checkStart
  rw [checkAsks] at checkCalm checkTold
  have strictFound := proceed_found opened checkCalm checkTold creates strictCalm strictTold
  -- An update gets one more reply before its survey, and that is the one about foreign keys.
  have updateFound : ((schema.survey database).runOn engine asked.state asked.final).outcome =
      ((schema.survey database).runOn engine state checkStart).outcome := by
    have begun := updateCalm
    rw [updateAsks] at begun updateTold
    rw [replies_append, List.prefix_append_right_inj] at updateTold
    exact proceed_found opened checkCalm checkTold rfl begun.right updateTold
  have refuses : Proceeded schema database engine schema.refuse strict _ :=
    proceed_proceeded opened (List.forall_mem_nil _) (List.forall_mem_nil _) creates rfl rfl strictCalm
  have replaces : Proceeded schema database engine (schema.replace database) update _ :=
    proceed_proceeded opened asksReads asksUntimed rfl updateEnds updateAsks updateCalm
  rw [strictFound] at refuses
  rw [updateFound] at replaces
  exact ⟨refuses.agreed (survey_absent_iff state checkStart) checkReads checkEnds replaces,
    fun schemas console start => tableStates_inspects database schemas engine console start⟩

/-! A table is counted, and nothing else is found in the database. -/

def countedAnswers (count : Int) : Answers := fun sql _ =>
  if sql = countTableText then some [[(.text "count", .int count)]] else some []

def plainDatabase : Database := { path := "items.db", settings := {}, connection := some ⟨0⟩ }

def plainItems : Schema where
  name := .text "items"
  columns := [(.text "id", { storage := .integer })]

/-- The index is on a column that is not declared. -/
def taggedItems : Schema :=
  { plainItems with indices := [(.text "tag", { columns := [.text "tag"] })] }

section

variable (schema : Schema) (count : Int)

def askedRun : Run Unit (List Row) Bool :=
  plainDatabase.foreignKeysEnabled.runOn (countedAnswers count).engine () []

def checkRun : Run Unit (List Row) Command.TableState :=
  (Command.tableState schema plainDatabase).runOn (countedAnswers count).engine () []

def strictRun : Run Unit (List Row) SyncResult :=
  (schema.createIfAbsent plainDatabase).runOn (countedAnswers count).engine () []

def updateRun : Run Unit (List Row) SyncResult :=
  (schema.createOrUpdate plainDatabase).runOn (countedAnswers count).engine () []

end

/-- What the database tells about a table without columns. -/
def bareReplies : List (List Row) := [[(.text "count", .int 1)]] :: List.replicate 6 []

/-- Items that are stored without their columns are told to be different. -/
theorem surveys_agree_items :
    (checkRun plainItems 1).outcome = .ok .different ∧
    Agreed plainItems plainDatabase (countedAnswers 1).engine
      ((plainItems.exists? plainDatabase).runOn (countedAnswers 1).engine () []).outcome
      (checkRun plainItems 1) (strictRun plainItems 1) (updateRun plainItems 1) := by
  have off : (askedRun 1).outcome = .ok false := by decide +kernel
  have calm : Faultless (checkRun plainItems 1).exchanges ∧ Faultless (strictRun plainItems 1).exchanges ∧
      Faultless (updateRun plainItems 1).exchanges := by decide +kernel
  have told : replies (checkRun plainItems 1).exchanges <+: bareReplies ∧
      replies (strictRun plainItems 1).exchanges <+: bareReplies ∧
      replies (updateRun plainItems 1).exchanges <+: replies (askedRun 1).exchanges ++ bareReplies := by
    decide +kernel
  exact ⟨by decide +kernel,
    (surveys_agree rfl off rfl rfl rfl calm.1 calm.2.1 calm.2.2 told.1 told.2.1 told.2.2).1⟩

/-- An index on an unknown column cannot be written. A check tells that the table is absent, and neither
a creation nor an update creates it. -/
theorem absent_uncreated :
    ((askedRun 0).outcome = .ok false ∧ Faultless (checkRun taggedItems 0).exchanges ∧
      Faultless (strictRun taggedItems 0).exchanges ∧ Faultless (updateRun taggedItems 0).exchanges) ∧
    (replies (checkRun taggedItems 0).exchanges = [[[(.text "count", .int 0)]]] ∧
      replies (strictRun taggedItems 0).exchanges = [[[(.text "count", .int 0)]]] ∧
      replies (updateRun taggedItems 0).exchanges =
        replies (askedRun 0).exchanges ++ [[[(.text "count", .int 0)]]]) ∧
    (checkRun taggedItems 0).outcome = .ok .absent ∧
    (strictRun taggedItems 0).outcome = .error (.unknownIndexColumn (.text "tag") (.text "tag")) ∧
    (updateRun taggedItems 0).outcome = .error (.unknownIndexColumn (.text "tag") (.text "tag")) ∧
    ¬ ((checkRun taggedItems 0).outcome = .ok .absent ↔
      (strictRun taggedItems 0).outcome = .ok { wasCreated := true }) ∧
    ¬ ((checkRun taggedItems 0).outcome = .ok .absent ↔
      (updateRun taggedItems 0).outcome = .ok { wasCreated := true }) := by
  decide +kernel

end Schema

end Tabular
