import Tabular.Program
import Tabular.Settings

/-!
This module holds a database and the statements that run on it. A driver failure of a statement
becomes an engine failure with the statement and its parameters.
-/

namespace Tabular

/-- A database with its settings, and its connection while it is open. -/
structure Database where
  path : String
  settings : Settings
  connection : Option Connection := none
  deriving DecidableEq

namespace Failure

/-- This function attaches a statement to a failure of the driver and keeps every other one. The text of
such a failure shows the parameters, whose integers are taken to have at most `digitLimit` digits. A longer
one could not be shown, and this would be a failure of its own. -/
def attach (sql : String) (parameters : Value) (failure : Failure) : Failure :=
  match failure with
  | .outside cause =>
      if cause.kind.isEngine then .engine cause.message sql parameters else failure
  | _ => failure

end Failure

namespace Action

variable {σ α : Type}

/-- This action takes the answer of a driver and attaches the statement to its failure. -/
def attached (sql : String) (parameters : Value) (answer : Except Outside α) : Action σ α :=
  match answer with
  | .ok result => pure result
  | .error cause => throw ((Failure.outside cause).attach sql parameters)

/-- This action takes the answer of a driver as it is. -/
def bare (answer : Except Outside α) : Action σ α :=
  match answer with
  | .ok result => pure result
  | .error cause => throw (.outside cause)

/-- A callback sees one row and may change a state of its own. It uses neither the database nor the
statement that it is called from. What a program does with them in between is a call of its own, and such
calls are made one after another, never inside each other. -/
abbrev Callback (σ : Type) := Row → σ → Except Failure Unit × σ

/-- This function gives rows to a callback until it fails, and counts them. -/
def feed (callback : Callback σ) : List Row → σ → (Nat × Option Failure) × σ
  | [], state => ((0, none), state)
  | row :: rest, state =>
      match callback row state with
      | (.error failure, state) => ((1, some failure), state)
      | (.ok _, state) =>
          let ((count, failure), state) := feed callback rest state
          ((count + 1, failure), state)

/-- This action gives the rows of a cursor to a callback one by one and counts them. -/
def eachRow (cursor : Cursor) (callback : Callback σ) : Action σ Nat := do
  let (rows, ending) ← ask (.rows cursor)
  let (count, failure) ← modifyGet (feed callback rows)
  ask (.advance cursor count)
  match failure, ending with
  | some failure, _ => throw failure
  | none, some cause => throw (.outside cause)
  | none, none => pure count

/-- This action attaches a statement to a driver failure of another action. -/
def attaching (sql : String) (parameters : Value) (action : Action σ α) : Action σ α := do
  match ← attempt action with
  | .ok result => pure result
  | .error failure => throw (failure.attach sql parameters)

end Action

open Tabular.Action

namespace Database

variable {σ α : Type}

def logger : String := "litetable.db"

/-- This function makes a database that is not open. Without a path the one of the settings counts,
and without settings the database is in memory. -/
def make (path : Option String) (settings : Option Settings) : Database :=
  let path := path.getD ""
  let settings := settings.getD { database := if path = "" then ":memory:" else path }
  { path := if path = "" then settings.database else path, settings }

def openText (database : Database) : String := "open " ++ database.path

/-- This action gives the connection of an open database. -/
def connected (database : Database) : Action σ Connection :=
  match database.connection with
  | some connection => pure connection
  | none => throw (.engine "Database is not open" database.openText .null)

/-- This action runs a statement of the opening. Its failure is passed on as it is. -/
def prepareConnection (connection : Connection) (sql : String) : Action σ Unit := do
  let cursor ← ask (.cursor connection)
  let _ ← bare (← ask (.execute cursor sql (.tuple [])))

/-- This action connects and runs the configured statements. The connection is kept even when one of
them fails. -/
def «open» : Action Database Unit := do
  let database ← get
  if database.connection.isSome then return
  let connection ← attached database.openText .null (← ask (.connect database.path))
  set { database with connection := some connection }
  let timeout ← (database.settings.busyTimeout.toInteger : Except Failure Int)
  prepareConnection connection ("PRAGMA busy_timeout=" ++ toString timeout)
  if database.settings.journalMode.isTrue then
    prepareConnection connection ("PRAGMA journal_mode=" ++ database.settings.journalMode.toText)
  if database.settings.foreignKeys.isTrue then
    prepareConnection connection "PRAGMA foreign_keys=ON"
  log .debug logger ("Opened database " ++ database.path)

/-- This action closes the connection if there is one. -/
def close : Action Database Unit := do
  let database ← get
  match database.connection with
  | none => pure ()
  | some connection =>
      ask (.disconnect connection)
      set { database with connection := none }

/-- This function gives the parameters that the driver gets. -/
def driverParameters (parameters : Value) : Value :=
  if parameters.isNull then .tuple [] else parameters

/-- This action runs a statement on a new cursor. -/
def execute (database : Database) (sql : String) (parameters : Value) :
    Action σ (Cursor × RunResult) := do
  log .debug logger (sql ++ " " ++ parameters.literal)
  let connection ← database.connected
  let cursor ← ask (.cursor connection)
  let result ← attached sql parameters (← ask (.execute cursor sql (driverParameters parameters)))
  pure (cursor, result)

/-- This action runs a statement that gives no rows. -/
def run (database : Database) (sql : String) (parameters : Value := .null) : Action σ RunResult := do
  pure (← database.execute sql parameters).2

/-- This action gives the first row, if there is one. -/
def first (database : Database) (sql : String) (parameters : Value := .null) :
    Action σ (Option Row) := do
  let (cursor, _) ← database.execute sql parameters
  attached sql parameters (← ask (.fetchOne cursor))

/-- This action gives all rows. -/
def all (database : Database) (sql : String) (parameters : Value := .null) :
    Action σ (List Row) := do
  let (cursor, _) ← database.execute sql parameters
  attached sql parameters (← ask (.fetchAll cursor))

/-- This action gives every row to a callback and counts the rows. -/
def each (database : Database) (sql : String) (parameters : Value) (callback : Callback σ) :
    Action σ Nat := do
  let (cursor, _) ← database.execute sql parameters
  attaching sql parameters (eachRow cursor callback)

/-- This action runs several statements. -/
def script (database : Database) (text : String) : Action σ Unit := do
  log .debug logger text
  let connection ← database.connected
  attached text .null (← ask (.script connection text))

/-! ## Transactions -/

/-- This action tells whether a transaction is open. -/
def inTransaction (database : Database) : Action σ Bool := do
  ask (.inTransaction (← database.connected))

/-- This action enters a block. It begins a transaction, unless one is open already, and tells
whether it did. -/
def enter (database : Database) : Action σ Bool := do
  if ← database.inTransaction then pure false
  else do
    let _ ← database.run "BEGIN TRANSACTION"
    pure true

/-- This action leaves a block that began a transaction. After a failure the transaction is rolled
back if it is still open, and otherwise it is committed. -/
def leave (database : Database) (outcome : Except Failure α) : Action σ Unit := do
  match outcome with
  | .ok _ =>
      let _ ← database.run "COMMIT"
  | .error failure =>
      if ← database.inTransaction then
        let _ ← database.run "ROLLBACK"
      throw failure

/-- This action runs another one inside a transaction. An inner block joins the outer one. -/
def transaction (database : Database) (body : Action σ α) : Action σ α := do
  if ← database.enter then
    let outcome ← attempt body
    database.leave outcome
    resume outcome
  else body

/-! ## Pragmas -/

/-- This action gives the first value of a pragma, or null. -/
def pragma (database : Database) (name : String) : Action σ Value := do
  match ← database.first ("PRAGMA " ++ name) with
  | none => pure .null
  | some ((_, value) :: _) => pure value
  | some [] => throw .endOfRows

def setPragma (database : Database) (name : String) (value : Value) : Action σ Unit := do
  let _ ← database.run ("PRAGMA " ++ name ++ " = " ++ value.toText)

def onOff (enable : Bool) : Value := .text (if enable then "ON" else "OFF")

def enableForeignKeys (database : Database) (enable : Bool) : Action σ Unit :=
  database.setPragma "foreign_keys" (onOff enable)

def foreignKeysEnabled (database : Database) : Action σ Bool := do
  pure (← database.pragma "foreign_keys").isTrue

end Database

end Tabular
