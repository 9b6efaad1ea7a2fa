import Tabular.Command.Argument
import Tabular.Command.Line
import Tabular.Json.Writer
import Tabular.Query.Terminal
import Tabular.Schema.File
import Tabular.Settings.File
import Tabular.Table.Reconciler

/-!
This module runs commands. A command prints its output, reports the failures that it expects as one line,
and ends with a status; any other failure ends it as it is.
-/

namespace Tabular

namespace Command

open Tabular.Action

/-- A command ends with its status: zero for success and one for a failure. -/
abbrev Run := Action Console Nat

/-- This action prints a line. -/
def printLine (line : String) : Action Console Unit :=
  modify fun console => { console with output := console.output ++ line ++ "\n" }

def printText (text : String) : Action Console Unit :=
  modify fun console => { console with output := console.output ++ text }

/-- This action reports a failure and ends the command. -/
def report (message : String) : Run := do
  modify fun console => { console with errors := console.errors ++ "Error: " ++ message ++ "\n" }
  pure 1

/-- This action prints a report as JSON. -/
def printJson (value : Value) : Action Console Unit := do
  printLine (← (Json.report value : Except Failure String))

/-- This action goes on with a result, or reports a failure that the command expects. -/
def expecting {α : Type} (action : Action Console α) (expected : Failure → Bool)
    (start : Failure → String) (next : α → Run) : Run := do
  match ← attempt action with
  | .ok result => next result
  | .error failure => if expected failure then report (start failure) else throw failure

/-! ## The database of a command -/

/-- This action opens a database with settings. -/
def openWith {σ : Type} (settings : Settings) : Action σ Database :=
  locally (do
    Database.open
    get) (Database.make none (some settings))

/-- This function gives the settings of a command. Its options count most. -/
def settingsOf (surroundings : Surroundings) (shared : Shared) : Except Failure Settings := do
  let file := (shared.settingsFile.filter (· ≠ "")).orElse fun _ =>
    (Settings.find surroundings none).map Path.toText
  let settings ← Settings.load surroundings file
  match shared.database.filter (· ≠ "") with
  | some database => pure { settings with database }
  | none => pure settings

/-- This action runs the rest of a command on its open database and closes it at the end. -/
def withDatabase (surroundings : Surroundings) (shared : Shared) (rest : Database → Run) : Run := do
  let settings ← (settingsOf surroundings shared : Except Failure Settings)
  ask (.threshold (if shared.verbose then Level.debug.number
    else Settings.levelNumber settings.logLevel))
  expecting (openWith settings) Failure.isLibrary Failure.message fun database =>
    ensuring (rest database) (locally Database.close database)

/-! ## Schema files -/

/-- This action reads the declarations of a schema file. -/
def withSchemas (surroundings : Surroundings) (file : String) (next : List Schema → Run) : Run :=
  expecting (Schema.load surroundings file : Except Failure (List Schema))
    (fun failure => failure.isBadValue || failure.isMissingKey || failure.isFile)
    (fun failure => "cannot read " ++ file ++ ": " ++ failure.message) next

/-- This function writes a name in a column of 24 characters. A date takes the text that asks for the
column as its own format, which has no field of a date, and so this text stands for it. -/
def nameColumn (name : Value) : Except Failure String :=
  match name with
  | .text text => pure (column text)
  | .int whole => pure (column (toString whole))
  | .bool flag => pure (column (if flag then "1" else "0"))
  | .float number => pure (column number.toText)
  | .date _ | .moment _ => pure "<24"
  | _ => throw .wrongType
where
  column (text : String) : String := text.pushn ' ' (24 - text.length)

/-- This function names what was done to a table. -/
def actionName (result : SyncResult) : String :=
  if result.wasCreated then "created"
  else if result.wasUpdated then "migrated"
  else "unchanged"

/-- This function writes what is told about a table as JSON. -/
def tableEntry (key : String) (entry : Value × String) : Value :=
  .map [(.text "table", entry.1), (.text key, .text entry.2)]

/-- This action creates or migrates tables in order, up to the first failure that it expects. -/
def applyAll (database : Database) (strict : Bool) :
    List Schema → (List (Value × String) → Run) → Run
  | [], finish => finish []
  | schema :: rest, finish =>
      expecting
        (if strict then schema.createIfAbsent database else schema.createOrUpdate database)
        Failure.isLibrary (fun failure => schema.name.toText ++ ": " ++ failure.message)
        fun result => applyAll database strict rest fun results =>
          finish ((schema.name, actionName result) :: results)

def printActions : List (Value × String) → Action Console Unit
  | [] => pure ()
  | (name, action) :: rest => do
      printLine ("  " ++ (← (nameColumn name : Except Failure String)) ++ " " ++ action)
      printActions rest

/-- This action brings the tables of a schema file in line with their declarations. -/
def apply (surroundings : Surroundings) (shared : Shared) (file : String) (strict : Bool) : Run :=
  withSchemas surroundings file fun schemas =>
    withDatabase surroundings shared fun database =>
      applyAll database strict schemas fun results => do
        if shared.json then printJson (.list (results.map (tableEntry "action")))
        else printActions results
        pure 0

/-- The state of a table beside its declaration. -/
inductive TableState where
  | absent
  | same
  | different
  deriving DecidableEq, Repr

def TableState.name : TableState → String
  | .absent => "absent"
  | .same => "match"
  | .different => "mismatch"

/-- This action compares a table with its declaration and changes nothing. -/
def tableState {σ : Type} (schema : Schema) (database : Database) : Action σ TableState := do
  if ← schema.exists? database then
    if ← schema.matchesDatabase database then pure .same else pure .different
  else pure .absent

def tableStates (database : Database) : List Schema → Action Console (List (Value × TableState))
  | [] => pure []
  | schema :: rest => do
      let state ← tableState schema database
      pure ((schema.name, state) :: (← tableStates database rest))

def printStates : List (Value × TableState) → Action Console Unit
  | [] => pure ()
  | (name, state) :: rest => do
      let mark := if state = .same then "[OK]    " else "[DRIFT] "
      printLine ("  " ++ mark ++ " " ++ (← (nameColumn name : Except Failure String)) ++ " " ++
        state.name)
      printStates rest

/-- This action tells which tables differ from their declarations, and fails if any does. -/
def check (surroundings : Surroundings) (shared : Shared) (file : String) : Run :=
  withSchemas surroundings file fun schemas =>
    withDatabase surroundings shared fun database => do
      let states ← tableStates database schemas
      if shared.json then
        printJson (.list (states.map fun entry => tableEntry "state" (entry.1, entry.2.name)))
      else printStates states
      pure (if states.all fun entry => entry.2 = .same then 0 else 1)

/-! ## Rows -/

/-- This action reads a filter and goes on with it. -/
def withFilter (text : Option String) (next : Value → Run) : Run :=
  expecting (readFilter text : Except Failure Value) Failure.isBadValue
    (fun failure => "invalid --where: " ++ failure.message) next

/-- This function starts a query over the rows of a table that match a filter. -/
def rowsOf (table : String) (filter : Value) : Except Failure Query :=
  let query := Query.empty.withTable (.text table)
  if filter.isTrue then query.find filter else pure query

/-- This action counts rows. -/
def count (surroundings : Surroundings) (shared : Shared) (table : String)
    (filter : Option String) : Run :=
  withFilter filter fun filter =>
    withDatabase surroundings shared fun database => do
      let query ← (rowsOf table filter : Except Failure Query)
      expecting (query.count database) Failure.isLibrary Failure.message fun number => do
        if shared.json then
          printJson (.map [(.text "table", .text table), (.text "count", number)])
        else printLine (if number.isNull then "" else number.toText)
        pure 0

/-- This function adds the columns, the ordering and the limits of a command to a query. -/
def refine (query : Query) (ordering : List String) (limit offset : Option Int)
    (columns : Option String) : Except Failure Query := do
  let query ← match readColumns columns with
    | some (first :: rest) => query.select (.list ((first :: rest).map Value.text))
    | _ => pure query
  let query ← match ordering with
    | [] => pure query
    | terms => query.orderBy (.list (terms.map readOrdering))
  let query := (limit.map fun count => query.withLimit (.int count)).getD query
  pure ((offset.map fun count => query.withOffset (.int count)).getD query)

/-- This action prints the rows of a query as they come. -/
def printRows (query : Query) (database : Database) : Action Console Unit := do
  let reading ← (query.stream database none : Except Failure Reading)
  let printRow (row : Row) : Action Console Unit := do
    printLine (← (Json.rowLine (.map row) : Except Failure String))
  onPart (fun console => (reading, console)) (fun _ state => state.2)
    (ensuring (Reading.visitAll database printRow) (Reading.besides Reading.close))

/-- This action finds rows and prints each one as a line. -/
def find (surroundings : Surroundings) (shared : Shared) (table : String) (filter : Option String)
    (ordering : List String) (limit offset : Option Int) (columns : Option String) : Run :=
  withFilter filter fun filter =>
    withDatabase surroundings shared fun database => do
      let query ← (do
        refine (← rowsOf table filter) ordering limit offset columns : Except Failure Query)
      expecting (printRows query database) Failure.isLibrary Failure.message fun _ => pure 0

/-- This action prints the declaration of a table as it is in the database. -/
def inspect (surroundings : Surroundings) (shared : Shared) (table : String) : Run :=
  withDatabase surroundings shared fun database => do
    let schema : Schema := { name := .text table, columns := [] }
    if ← schema.exists? database then
      let found ← schema.introspect database
      let declaration ← (found.toValue : Except Failure Value)
      if shared.json then printJson declaration else printText (surroundings.documents.write declaration)
      pure 0
    else report ("table not found: " ++ table)

/-- This action runs a task. -/
def perform (surroundings : Surroundings) (shared : Shared) : Task → Run
  | .apply file strict => apply surroundings shared file strict
  | .check file => check surroundings shared file
  | .count table filter => count surroundings shared table filter
  | .find table filter ordering limit offset columns =>
      find surroundings shared table filter ordering limit offset columns
  | .inspect table => inspect surroundings shared table

/-- This function gives the program of a command line. -/
def run (surroundings : Surroundings) (words : List String) (reader : LineReader := lineReader) :
    Program Ending :=
  match reader surroundings words with
  | .error ending => .done ending
  | .ok (shared, task) => do
      match ← (perform surroundings shared task).start {} with
      | (.ok status, console) => pure { status, console }
      | (.error failure, console) => pure { status := 1, console, failure := some failure }

end Command

end Tabular
