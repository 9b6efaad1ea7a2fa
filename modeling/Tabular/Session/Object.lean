import Tabular.Engine.Script
import Tabular.Query.Terminal
import Tabular.Stream.Write
import Tabular.Table.Map

/-!
This module holds sessions. A session keeps the objects that its steps have made, and it plays its
steps against prepared replies.
-/

namespace Tabular

/-- An object of a session. An object that changes is named by its number in the session, and an
object of a database also names that database. -/
inductive Object where
  | value (value : Value)
  | rows (rows : List Row)
  | run (result : RunResult)
  | sync (result : SyncResult)
  | schema (schema : Schema)
  | foreignKeys (keys : List ForeignKey)
  | indices (indices : Keyed Index)
  | columnSet (columns : List Value)
  | settings (settings : Settings)
  | connection (connection : Connection)
  | block (database : Nat)
  | database (number : Nat)
  | table (database : Nat) (schema : Schema)
  | reconciler (database : Nat) (schema : Schema)
  | mapTable (database : Nat) (table : MapTable)
  | query (database : Nat) (query : Query)
  | rawQuery (database : Nat) (statement : BoundText)
  | statement (database number : Nat)
  | reader (database number : Nat)
  | writer (database number : Nat)
  | extender (database : Nat) (schema : Schema)

namespace Object

def nothing : Object := .value .null

/-- This function gives an object that is plain data as a value. -/
def value? : Object → Option Value
  | .value content => some content
  | .rows found => some (.list (found.map Value.map))
  | _ => none

def ofRow (row : Option Row) : Object := .value ((row.map Value.map).getD .null)

def ofValues (values : List Value) : Object := .value (.list values)

def ofNat (number : Nat) : Object := .value (.int number)

def ofFlag (flag : Bool) : Object := .value (.bool flag)

end Object

/-- An argument of a call: a value, the object of a register, or a callback. A callback keeps the
rows that it sees, and it may be set to fail at the row with a given number. -/
inductive Argument where
  | value (value : Value)
  | register (name : String)
  | callback (failure : Option (Nat × Outside))

/-- The state of a session. A statement is kept with the number of its database, and a reader with
the number of its statement. -/
structure Session where
  script : Script := {}
  exchanges : List Exchange := []
  seen : List Row := []
  databases : List Database := []
  statements : List Statement := []
  readers : List (Nat × ReadStream) := []
  writers : List WriteStream := []
  registers : List (String × Object) := []

namespace Session

/-- A play changes a session. The changes stay also when it fails. -/
abbrev Play := ExceptT Failure (StateM Session)

/-- This function gives the outcome of a play together with the session after it. -/
def play {α : Type} (play : Play α) (session : Session) : Except Failure α × Session :=
  (ExceptT.run play).run session

/-- This play runs an action on a part of the session and keeps the exchanges with the engine. -/
def perform {σ α : Type} (part : Session → σ) (replace : Session → σ → Session)
    (action : Action σ α) : Play α := ExceptT.mk do
  let session ← get
  let ((outcome, state), (script, exchanges)) :=
    (action.start (part session)).run Script.engine.recorded (session.script, session.exchanges)
  set (replace { session with script, exchanges } state)
  pure outcome

/-- This play runs an action that has no state. -/
def stateless {α : Type} (action : Action Unit α) : Play α :=
  perform (fun _ => ()) (fun session _ => session) action

/-- This play takes a result that was computed without the engine. -/
def taken {α : Type} (result : Except Failure α) : Play α := ExceptT.mk (pure result)

/-! ## Registers -/

def register (name : String) : Play Object := do
  match (← get).registers.find? fun entry => entry.1 == name with
  | some entry => pure entry.2
  | none => throw (.key (.text name))

def setRegister (name : String) (object : Object) : Play Unit :=
  modify fun session => { session with
    registers := (name, object) :: session.registers.filter fun entry => entry.1 != name }

/-- This play gives the number of the database that new objects belong to. -/
def currentDatabase : Play Nat := do
  match ← register "db" with
  | .database number => pure number
  | _ => throw .wrongType

/-! ## Objects that change -/

def databaseAt (session : Session) (number : Nat) : Database :=
  session.databases[number]?.getD (Database.make none none)

def setDatabase (session : Session) (number : Nat) (database : Database) : Session :=
  { session with databases := session.databases.set number database }

def onDatabase {α : Type} (number : Nat) (action : Action Database α) : Play α :=
  perform (fun session => session.databaseAt number)
    (fun session database => session.setDatabase number database) action

def statementAt (session : Session) (number : Nat) : Statement :=
  session.statements[number]?.getD { sql := "" }

def setStatement (session : Session) (number : Nat) (statement : Statement) : Session :=
  { session with statements := session.statements.set number statement }

def onStatement {α : Type} (number : Nat) (action : Action Statement α) : Play α :=
  perform (fun session => session.statementAt number)
    (fun session statement => session.setStatement number statement) action

def readerAt (session : Session) (number : Nat) : Nat × ReadStream :=
  session.readers[number]?.getD (0, { prefetch := 1 })

/-- This play runs an action on a reader together with the statement that it reads. -/
def onReader {α : Type} (number : Nat) (action : Action Reading α) : Play α :=
  perform
    (fun session =>
      let (statement, stream) := session.readerAt number
      { statement := session.statementAt statement, stream })
    (fun session reading =>
      let statement := (session.readerAt number).1
      let session := session.setStatement statement reading.statement
      { session with readers := session.readers.set number (statement, reading.stream) })
    action

def writerAt (session : Session) (number : Nat) : WriteStream :=
  session.writers[number]?.getD { table := .null }

def onWriter {α : Type} (number : Nat) (action : Action WriteStream α) : Play α :=
  perform (fun session => session.writerAt number)
    (fun session stream => { session with writers := session.writers.set number stream }) action

/-- This play runs an action on the rows that callbacks have seen. -/
def onSeen {α : Type} (action : Action (List Row) α) : Play α :=
  perform Session.seen (fun session seen => { session with seen }) action

/-- This callback keeps the rows that it sees, up to the one at which it fails. -/
def collector (failure : Option (Nat × Outside)) : Action.Callback (List Row) := fun row seen =>
  match failure with
  | some (count, cause) =>
      if seen.length = count then (.error (.outside cause), seen) else (.ok (), seen ++ [row])
  | none => (.ok (), seen ++ [row])

/-! ## New objects -/

def addDatabase (database : Database) : Play Nat :=
  modifyGet fun session =>
    (session.databases.length, { session with databases := session.databases ++ [database] })

def addStatement (database : Nat) (statement : Statement) : Play Object :=
  modifyGet fun session =>
    (.statement database session.statements.length,
      { session with statements := session.statements ++ [statement] })

/-- This play makes a reader. Without a size it is the one that the settings of the database have. -/
def addReader (database statement : Nat) (prefetch : Option Int) (finalizes : Bool) :
    Play Object := do
  let usual := ((← get).databaseAt database).settings.streamPrefetch
  let stream ← taken (ReadStream.make (prefetch.getD usual) finalizes)
  modifyGet fun session =>
    (.reader database session.readers.length,
      { session with readers := session.readers ++ [(statement, stream)] })

/-- This play makes a statement and a reader that owns it. -/
def addReaderOf (database : Nat) (statement : Statement) (prefetch : Option Int) : Play Object := do
  let number := (← get).statements.length
  let _ ← addStatement database statement
  addReader database number prefetch true

def addWriter (database : Nat) (table : Value) (replaces : Bool) (batchSize : Int) :
    Play Object := do
  let stream ← taken (WriteStream.make table replaces batchSize)
  modifyGet fun session =>
    (.writer database session.writers.length,
      { session with writers := session.writers ++ [stream] })

/-! ## Arguments -/

/-- This play gives the argument at a place as a value, or null if there is none. -/
def optional (arguments : List Argument) (index : Nat) : Play Value :=
  match arguments[index]? with
  | none => pure .null
  | some (.value value) => pure value
  | some (.register name) => do
      match (← register name).value? with
      | some value => pure value
      | none => throw .wrongType
  | some (.callback _) => throw .wrongType

def needed (arguments : List Argument) (index : Nat) : Play Value :=
  if index < arguments.length then optional arguments index else throw .wrongType

def neededText (arguments : List Argument) (index : Nat) : Play String := do
  match ← needed arguments index with
  | .text text => pure text
  | _ => throw .wrongType

def neededWhole (arguments : List Argument) (index : Nat) : Play Int := do
  match (← needed arguments index).integer? with
  | some whole => pure whole
  | none => throw .wrongType

/-- This play gives the argument at a place as a flag, or the usual one if there is none. -/
def flag (arguments : List Argument) (index : Nat) (usual : Bool) : Play Bool :=
  if index < arguments.length then do pure (← optional arguments index).isTrue else pure usual

/-- This play gives the argument at a place as a size, where null stands for the usual one. -/
def optionalSize (arguments : List Argument) (index : Nat) : Play (Option Int) := do
  let value ← optional arguments index
  if value.isNull then pure none else pure (some (← neededWhole arguments index))

def neededObject (arguments : List Argument) (index : Nat) : Play Object :=
  match arguments[index]? with
  | some (.register name) => register name
  | _ => throw .wrongType

def neededCallback (arguments : List Argument) (index : Nat) : Play (Option (Nat × Outside)) :=
  match arguments[index]? with
  | some (.callback failure) => pure failure
  | _ => throw .wrongType

/-- This play checks that the registers of all arguments are set. -/
def checkArguments : List Argument → Play Unit
  | [] => pure ()
  | .register name :: rest => do
      let _ ← register name
      checkArguments rest
  | _ :: rest => checkArguments rest

end Session

end Tabular
