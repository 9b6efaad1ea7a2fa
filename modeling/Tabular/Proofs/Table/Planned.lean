import Tabular.Proofs.Engine.Transaction
import Tabular.Proofs.Schema.Movement

/-!
This module follows the statements that create and migrate a table. What a migration reads before its
transaction is found again in its exchanges.
-/

namespace Tabular

open Tabular.Action Exchange

variable {σ τ α β Content : Type}

/-! ## Statements of a plan -/

/-- A statement that starts with the word of a change is a change. -/
theorem isChange_of_append {sql : String} (word rest : String) (same : sql = word ++ rest)
    (begins : word ∈ ["ALTER ", "CREATE ", "DROP ", "INSERT "]) : isChange sql = true := by
  rw [isChange, List.any_eq_true]
  refine ⟨word, begins, ?_⟩
  rw [same, String.toList_append, List.isPrefixOf_iff_prefix]
  exact List.prefix_append _ _

/-- Every definition is a change. -/
theorem Definition.sql_isChange (definition : Definition) : isChange definition.sql = true := by
  cases definition with
  | table name lines =>
      refine isChange_of_append "CREATE " ("TABLE " ++ name ++ " " ++ (table name lines).body) ?_
        (by simp)
      rw [sql, head, show "CREATE TABLE " = "CREATE " ++ "TABLE " from rfl]
      simp only [String.append_assoc]
  | index unique name owner expressions =>
      let word := if unique then "UNIQUE " else ""
      refine isChange_of_append "CREATE " (word ++ "INDEX IF NOT EXISTS " ++ name ++ " ON " ++
        owner ++ " " ++ (index unique name owner expressions).body) ?_ (by simp)
      simp only [sql, head, word, String.append_assoc]

/-- Every step of a migration is a change. -/
theorem MigrationStep.sql_isChange (step : MigrationStep) : isChange step.sql = true := by
  cases step with
  | rename table backup =>
      refine isChange_of_append "ALTER " ("TABLE " ++ table ++ " RENAME TO " ++ backup) ?_ (by simp)
      change "ALTER TABLE " ++ table ++ " RENAME TO " ++ backup = _
      rw [show "ALTER TABLE " = "ALTER " ++ "TABLE " from rfl]
      simp only [String.append_assoc]
  | dropIndex index =>
      refine isChange_of_append "DROP " ("INDEX " ++ index) ?_ (by simp)
      change "DROP INDEX " ++ index = _
      rw [show "DROP INDEX " = "DROP " ++ "INDEX " from rfl, String.append_assoc]
  | create definition => exact definition.sql_isChange
  | copy table backup columns =>
      let list := String.intercalate ", " columns
      refine isChange_of_append "INSERT " ("INTO " ++ table ++ " (" ++ list ++ ") SELECT " ++ list ++
        " FROM " ++ backup) ?_ (by simp)
      change "INSERT INTO " ++ table ++ " (" ++ list ++ ") SELECT " ++ list ++ " FROM " ++ backup = _
      rw [show "INSERT INTO " = "INSERT " ++ "INTO " from rfl]
      simp only [String.append_assoc]
  | dropTable table =>
      refine isChange_of_append "DROP " ("TABLE " ++ table) ?_ (by simp)
      change "DROP TABLE " ++ table = _
      rw [show "DROP TABLE " = "DROP " ++ "TABLE " from rfl, String.append_assoc]

/-! ## Planned statements one after another -/

namespace Schema

variable (engine : Engine τ) (state : σ) (start : τ) {connection : Connection} {database : Database}

/-- Running definitions plans their texts in order. -/
theorem straight_definitions (opened : database.connection = some connection)
    (definitions : List Definition) :
    Straight connection (definitions.map Definition.sql)
      ((runDefinitions database definitions).runOn engine state start) := by
  induction definitions generalizing state start with
  | nil => exact straight_pure engine state start ()
  | cons definition rest inductionHypothesis =>
      exact straight_bind engine state start
        (Database.straight_run engine state start opened definition.sql .null)
        fun _ _ state start => inductionHypothesis state start

/-- Running the steps of a migration plans their texts in order. -/
theorem straight_steps (opened : database.connection = some connection)
    (steps : List MigrationStep) :
    Straight connection (steps.map MigrationStep.sql)
      ((runSteps database steps).runOn engine state start) := by
  induction steps generalizing state start with
  | nil => exact straight_pure engine state start ()
  | cons step rest inductionHypothesis =>
      apply straight_bind engine state start (straight_log engine state start _ _ _)
      intro _ _ state start
      exact straight_bind engine state start
        (Database.straight_run engine state start opened step.sql .null)
        fun _ _ state start => inductionHypothesis state start

end Schema

/-! ## What a migration reads -/

namespace Exchange

def clock? : Exchange → Option Binary64
  | ⟨.time, now⟩ => some now
  | _ => none

def rows? : Exchange → Option (List Row)
  | ⟨.fetchAll _, .ok rows⟩ => some rows
  | _ => none

def row? : Exchange → Option (Option Row)
  | ⟨.fetchOne _, .ok row⟩ => some row
  | _ => none

/-- The first time, the first rows and the first single row that were answered. -/
structure Reads (exchanges : List Exchange) (now : Option Binary64) (rows : Option (List Row))
    (row : Option (Option Row)) : Prop where
  now : exchanges.findSome? clock? = now
  rows : exchanges.findSome? rows? = rows
  row : exchanges.findSome? row? = row

/-- What two parts read is what the first one read, or else the second. -/
theorem Reads.append {first second : List Exchange} {now otherNow : Option Binary64}
    {rows otherRows : Option (List Row)} {row otherRow : Option (Option Row)}
    (reads : Reads first now rows row) (others : Reads second otherNow otherRows otherRow) :
    Reads (first ++ second) (now.or otherNow) (rows.or otherRows) (row.or otherRow) := by
  constructor
  · rw [List.findSome?_append, reads.now, others.now]
  · rw [List.findSome?_append, reads.rows, others.rows]
  · rw [List.findSome?_append, reads.row, others.row]

/-- What was read stays read, whatever follows. -/
theorem Reads.grow {exchanges : List Exchange} {now : Binary64} {rows : List Row}
    {row : Option Row} (reads : Reads exchanges (some now) (some rows) (some row))
    (rest : List Exchange) : Reads (exchanges ++ rest) (some now) (some rows) (some row) :=
  reads.append ⟨rfl, rfl, rfl⟩

/-- The time that was answered first. -/
def clock (exchanges : List Exchange) : Binary64 := (exchanges.findSome? clock?).getD default

/-- The names in the rows that were answered first. -/
def namesRead (exchanges : List Exchange) : List Value :=
  let rows := (exchanges.findSome? rows?).getD []
  (rows.mapM fun row => Keyed.column row "name").toOption.getD []

/-- The first value of a row, or null without one. -/
def firstValue : Option Row → Value
  | some ((_, value) :: _) => value
  | _ => .null

/-- The first value of the single row that was answered first. -/
def valueRead (exchanges : List Exchange) : Value :=
  firstValue ((exchanges.findSome? row?).getD none)

end Exchange

namespace Database

variable (engine : Engine τ) (state : σ) (start : τ) {connection : Connection} {database : Database}

/-- Fetching all rows plans one text. -/
theorem straight_all (opened : database.connection = some connection) (sql : String)
    (parameters : Value) :
    Straight connection [sql] ((database.all sql parameters).runOn engine state start) :=
  (straight_fetch engine state start (fetches_all engine) opened sql parameters rfl).1

/-- Fetching the first row plans one text. -/
theorem straight_first (opened : database.connection = some connection) (sql : String)
    (parameters : Value) :
    Straight connection [sql] ((database.first sql parameters).runOn engine state start) :=
  (straight_fetch engine state start (fetches_first engine) opened sql parameters rfl).1

/-- Fetching all rows returns the rows that were read. -/
theorem all_reads (opened : database.connection = some connection) (sql : String)
    (parameters : Value) :
    ((database.all sql parameters).runOn engine state start).Ends fun exchanges rows =>
      Reads exchanges none (some rows) none := by
  constructor
  intro rows outcome
  obtain ⟨cursor, fetched⟩ := (straight_fetch engine state start (fetches_all engine) opened sql
    parameters rfl).2 rows outcome
  obtain ⟨result, complete⟩ := fetched.complete
  have reads : Reads (executed connection sql parameters cursor (.ok result) ++
    [⟨.fetchAll cursor, .ok rows⟩]) none (some rows) none := ⟨rfl, rfl, rfl⟩
  exact complete ▸ reads

/-- Fetching the first row returns the row that was read. -/
theorem first_reads (opened : database.connection = some connection) (sql : String)
    (parameters : Value) :
    ((database.first sql parameters).runOn engine state start).Ends fun exchanges row =>
      Reads exchanges none none (some row) := by
  constructor
  intro row outcome
  obtain ⟨cursor, fetched⟩ := (straight_fetch engine state start (fetches_first engine) opened sql
    parameters rfl).2 row outcome
  obtain ⟨result, complete⟩ := fetched.complete
  have reads : Reads (executed connection sql parameters cursor (.ok result) ++
    [⟨.fetchOne cursor, .ok row⟩]) none none (some row) := ⟨rfl, rfl, rfl⟩
  exact complete ▸ reads

end Database

namespace Schema

/-- This action is what a migration does before it changes the pragma. -/
def reading (schema old : Schema) (database : Database) : Action σ (List MigrationStep × Value) := do
  let backup := Schema.backupName schema.name (← ask .time)
  let indices ← explicitIndexNames schema database
  let steps ← (schema.migration old backup indices : Except Failure (List MigrationStep))
  let shared ← ((sharedColumns schema old).mapM Value.asText : Except Failure (List String))
  log .info logger ("Migrating table " ++ schema.name.toText ++ " via " ++ backup ++ ", copying " ++
    sharedText shared)
  pure (steps, ← database.pragma "legacy_alter_table")

def legacyText (enable : Bool) : String :=
  if enable then "PRAGMA legacy_alter_table = ON" else "PRAGMA legacy_alter_table = OFF"

/-- Setting the pragma of old renames runs one statement. -/
theorem setPragma_legacy (database : Database) (enable : Bool) :
    (database.setPragma "legacy_alter_table" (Database.onOff enable) : Action σ Unit) =
      (database.run (legacyText enable) >>= fun _ => pure ()) := by
  cases enable <;> rfl

/-- This action is what a migration does before its transaction. -/
def opening (schema old : Schema) (database : Database) : Action σ (List MigrationStep × Value) := do
  let read ← schema.reading old database
  let _ ← database.run (legacyText true)
  pure read

/-- This action is the transaction of a migration, after which the pragma is set back. -/
def replacing (schema : Schema) (database : Database) (steps : List MigrationStep)
    (legacy : Value) : Action σ Unit := do
  ensuring (database.transaction (runSteps database steps)) do
    let _ ← database.run (legacyText legacy.isTrue)
  log .info logger ("Migrated table " ++ schema.name.toText)

/-- A migration first reads what it needs, then replaces the table. -/
theorem migrate_eq (schema old : Schema) (database : Database) :
    (schema.migrate old database : Action σ Unit) =
      schema.opening old database >>= fun read => schema.replacing database read.1 read.2 := by
  simp only [migrate, reading, opening, replacing, setPragma_legacy, bind_assoc, pure_bind]

/-! ## A migration of a schema that is rendered -/

/-- The shared columns of a table that can be written are texts. -/
theorem sharedColumns_asText {schema : Schema} {definitions : List Definition}
    (rendered : schema.definitions = .ok definitions) (old : Schema) :
    (sharedColumns schema old).mapM Value.asText =
      .ok ((sharedColumns schema old).map Value.toText) :=
  Value.mapM_asText_eq_ok.mpr (sharedColumns_text (columns_text rendered) old)

/-- A table that can be written can be migrated to. -/
theorem migration_total {schema : Schema} {definitions : List Definition}
    (rendered : schema.definitions = .ok definitions) (old : Schema) (backup : String)
    (indices : List Value) : ∃ steps, schema.migration old backup indices = .ok steps :=
  ⟨_, migration_lists rendered old backup indices⟩

/-! ## The run of what a migration reads -/

section Reading

variable {engine : Engine τ} {connection : Connection} {database : Database}
  {view : EngineView τ Content} (laws : Transactional engine connection view)
  (opened : database.connection = some connection) (state : σ) (start : τ)

/-- What is fetched comes from a cursor of the connection. -/
theorem fetched_on (laws : Transactional engine connection view) {action : Action σ α} {sql : String}
    {parameters : Value} {answer : Cursor → τ → Except Outside α × τ}
    {exchange : Cursor → Except Outside α → Exchange} {cursor : Cursor} {value : α}
    (fetched : Database.Fetched engine connection sql parameters answer exchange
      (action.runOn engine state start).exchanges cursor value) : cursor.connection = connection := by
  obtain ⟨result, complete⟩ := fetched.complete
  have chain := runOn_chain engine action state start
  have given : ⟨.cursor connection, cursor⟩ ∈ (action.runOn engine state start).exchanges := by
    simp [complete, Database.executed]
  obtain ⟨middle, answered⟩ := chain.answered given
  rw [show cursor = (engine.answer (.cursor connection) middle).1 from answered]
  exact laws.cursors middle

include laws opened in
/-- Reading the names of the indices plans one text. -/
theorem straight_names (schema : Schema) :
    Straight connection [indexNamesText]
      ((explicitIndexNames schema database).runOn engine state start) := by
  obtain ⟨straight, fetches⟩ := Database.straight_fetch engine state start
    (Database.fetches_all engine) opened indexNamesText (.tuple [schema.name]) rfl
  apply straight_bind engine state start straight
  intro rows outcome state' start'
  obtain ⟨cursor, fetched⟩ := fetches rows outcome
  obtain ⟨middle, result, final, executes, found⟩ := fetched.answered
  have named := laws.namesIndices cursor _ middle result final rows (fetched_on state start laws fetched)
    executes found
  obtain ⟨names, done⟩ := Outcome.mapM_total named
  rw [done]
  exact straight_pure engine state' start' names

include laws opened in
/-- Reading the pragma of old renames plans one text. -/
theorem straight_pragma :
    Straight connection ["PRAGMA legacy_alter_table"]
      ((database.pragma "legacy_alter_table").runOn engine state start) := by
  obtain ⟨straight, fetches⟩ := Database.straight_fetch engine state start
    (Database.fetches_first engine) opened "PRAGMA legacy_alter_table" .null rfl
  apply straight_bind engine state start straight
  intro row outcome state' start'
  obtain ⟨cursor, fetched⟩ := fetches row outcome
  obtain ⟨middle, result, final, executes, found⟩ := fetched.answered
  have filled := laws.reportsPragma cursor _ middle result final (fetched_on state start laws fetched)
    executes
  cases row with
  | none => exact straight_pure engine state' start' _
  | some row =>
      cases row with
      | nil => exact absurd found filled
      | cons entry rest => exact straight_pure engine state' start' _

include laws opened in
/-- The reads before a migration are planned in order. -/
theorem straight_reading {schema : Schema} {definitions : List Definition}
    (rendered : schema.definitions = .ok definitions) (old : Schema) :
    Straight connection [indexNamesText, "PRAGMA legacy_alter_table"]
      ((schema.reading old database).runOn engine state start) := by
  have asked : Straight connection [] (runOn engine (α := Binary64) (ask .time) state start) :=
    ⟨by simp [Owned, Request.isQuiet], .inl ⟨_, rfl, by simp [Smooth, failure?], rfl⟩⟩
  apply straight_bind engine state start asked
  intro now _ state start
  apply straight_bind engine state start (straight_names laws opened state start schema)
  intro indices _ state start
  obtain ⟨steps, planned⟩ := migration_total rendered old (backupName schema.name now) indices
  rw [planned, sharedColumns_asText rendered]
  apply straight_bind engine state start (straight_log engine state start _ _ _)
  intro _ _ state start
  exact straight_bind engine state start (straight_pragma laws opened state start)
    fun legacy _ state start => straight_pure engine state start (steps, legacy)

variable (engine) in
/-- A computation reads nothing. -/
theorem reads_lift (outcome : Except Failure α) :
    ((liftM outcome : Action σ α).runOn engine state start).Ends fun exchanges value =>
      Reads exchanges none none none ∧ outcome = .ok value :=
  ⟨fun _ done => ⟨⟨rfl, rfl, rfl⟩, done⟩⟩

include opened in
/-- The names of the indices are the ones in the rows that were read. -/
theorem reads_names (schema : Schema) :
    ((explicitIndexNames schema database).runOn engine state start).Ends fun exchanges names =>
      ∃ rows, Reads exchanges none (some rows) none ∧
        rows.mapM (fun row => Keyed.column row "name") = .ok names := by
  apply ends_bind engine state start (Database.all_reads engine state start opened _ _)
  intro rows exchanges reads state start
  constructor
  intro names outcome
  obtain ⟨others, named⟩ := (reads_lift engine state start _).holds names outcome
  exact ⟨rows, reads.append others, named⟩

include opened in
/-- The value of a pragma is the first one in the row that was read. -/
theorem reads_pragma (name : String) :
    ((database.pragma name).runOn engine state start).Ends fun exchanges value =>
      ∃ row, Reads exchanges none none (some row) ∧ value = firstValue row := by
  apply ends_bind engine state start (Database.first_reads engine state start opened _ _)
  intro row exchanges reads state start
  constructor
  intro value outcome
  refine ⟨row, ?_⟩
  cases row with
  | none => exact ⟨reads.append ⟨rfl, rfl, rfl⟩, (Except.ok.inj outcome).symm⟩
  | some row =>
      cases row with
      | nil => exact nomatch outcome
      | cons entry rest => exact ⟨reads.append ⟨rfl, rfl, rfl⟩, (Except.ok.inj outcome).symm⟩

include opened in
/-- The steps and the setting of the pragma come from what was read. -/
theorem reads_reading {schema old : Schema} :
    ((schema.reading old database).runOn engine state start).Ends fun exchanges read =>
      ∃ now rows row names, Reads exchanges (some now) (some rows) (some row) ∧
        rows.mapM (fun row => Keyed.column row "name") = .ok names ∧
        schema.migration old (backupName schema.name now) names = .ok read.1 ∧
        read.2 = firstValue row := by
  have asked : (runOn engine (α := Binary64) (ask .time) state start).Ends fun exchanges now =>
      Reads exchanges (some now) none none := ⟨fun _ done => Except.ok.inj done ▸ ⟨rfl, rfl, rfl⟩⟩
  apply ends_bind engine state start asked
  intro now first readTime state start
  apply ends_bind engine state start (reads_names opened state start schema)
  rintro names second ⟨rows, readRows, named⟩ state start
  apply ends_bind engine state start (reads_lift engine state start _)
  rintro steps third ⟨silent, planned⟩ state start
  apply ends_bind engine state start (reads_lift engine state start _)
  rintro shared fourth ⟨others, -⟩ state start
  have logged (message : String) : ((log .info logger message : Action σ Unit).runOn engine
      state start).Ends fun exchanges _ => Reads exchanges none none none :=
    ⟨fun _ _ => ⟨rfl, rfl, rfl⟩⟩
  apply ends_bind engine state start (logged _)
  intro _ fifth record state start
  apply ends_bind engine state start (reads_pragma opened state start _)
  rintro legacy sixth ⟨row, readRow, same⟩ state start
  constructor
  intro read outcome
  obtain rfl := Except.ok.inj outcome
  refine ⟨now, rows, row, names, ?_, named, planned, same⟩
  exact readTime.append (readRows.append (silent.append (others.append (record.append
    (readRow.append ⟨rfl, rfl, rfl⟩)))))

include opened in
/-- The reads before a migration execute at most these two texts, however they end. -/
theorem reading_texts (schema old : Schema) :
    texts ((schema.reading old database).runOn engine state start).exchanges ⊆
      [indexNamesText, "PRAGMA legacy_alter_table"] := by
  refine texts_bind_subset engine state start (List.nil_subset _) fun now state start => ?_
  refine texts_bind_subset engine state start ?_ fun indices state start => ?_
  · refine texts_bind_subset engine state start ?_ fun rows state start => List.nil_subset _
    rw [(Database.straight_all engine state start opened _ _).single]
    exact List.subset_append_left [_] _
  refine texts_bind_subset engine state start (List.nil_subset _) fun steps state start => ?_
  refine texts_bind_subset engine state start (List.nil_subset _) fun shared state start => ?_
  refine texts_bind_subset engine state start (List.nil_subset _) fun _ state start => ?_
  refine texts_bind_subset engine state start ?_ fun legacy state start => List.nil_subset _
  refine texts_bind_subset engine state start ?_ fun row state start => ?_
  · rw [(Database.straight_first engine state start opened _ _).single]
    exact List.subset_append_right [_] _
  · cases row with
    | none => exact List.nil_subset _
    | some row => cases row <;> exact List.nil_subset _

include laws opened in
/-- Opening a migration plans the reads and then the pragma. -/
theorem straight_opening {schema : Schema} {definitions : List Definition}
    (rendered : schema.definitions = .ok definitions) (old : Schema) :
    Straight connection [indexNamesText, "PRAGMA legacy_alter_table", legacyText true]
      ((schema.opening old database).runOn engine state start) :=
  straight_bind engine state start (straight_reading laws opened state start rendered old)
    fun read _ state start =>
      straight_bind engine state start (Database.straight_run engine state start opened _ _)
        fun _ _ state start => straight_pure engine state start read

include opened in
/-- The steps and the setting of the pragma are found again, whatever follows. -/
theorem opening_found {schema old : Schema} {steps : List MigrationStep} {legacy : Value}
    (outcome : ((schema.opening old database).runOn engine state start).outcome =
      .ok (steps, legacy)) (rest : List Exchange) :
    let exchanges := ((schema.opening old database).runOn engine state start).exchanges ++ rest
    schema.migration old (backupName schema.name (clock exchanges)) (namesRead exchanges) =
      .ok steps ∧ valueRead exchanges = legacy := by
  have ends : ((schema.opening old database).runOn engine state start).Ends fun exchanges read =>
      ∃ now rows row names, Reads exchanges (some now) (some rows) (some row) ∧
        rows.mapM (fun row => Keyed.column row "name") = .ok names ∧
        schema.migration old (backupName schema.name now) names = .ok read.1 ∧
        read.2 = firstValue row := by
    apply ends_bind engine state start (reads_reading opened state start)
    rintro read exchanges ⟨now, rows, row, names, reads, others⟩ state start
    apply ends_bind engine state start (⟨fun _ _ => trivial⟩ : Run.Ends _ fun _ _ => True)
    intro _ switch _ state start
    constructor
    intro value outcome
    obtain rfl := Except.ok.inj outcome
    exact ⟨now, rows, row, names, reads.grow _, others⟩
  obtain ⟨now, rows, row, names, reads, named, planned, same⟩ := ends.holds _ outcome
  have grown := reads.grow rest
  simp only [clock, namesRead, valueRead, grown.now, grown.rows, grown.row, Option.getD_some, named]
  exact ⟨planned, same.symm⟩

end Reading

end Schema

end Tabular
