import Tabular.Engine
import Tabular.Text.Letter
import Tabular.Text.Blank

/-!
This module holds an engine that plays a script: each statement gets the next prepared reply.
-/

namespace Tabular

/-- A prepared reply. A fetch fails when it needs the row whose number `fetchFailure` names. -/
structure Reply where
  columns : List String := []
  rows : List (List Value) := []
  lastInsertId : Option Int := none
  changes : Int := -1
  fetchFailure : Option (Nat × Outside) := none
  failure : Option Outside := none
  connectFailure : Option Outside := none
  inTransaction : Option Bool := none
  deriving DecidableEq

/-- The rows that a cursor has yet to give, and the failure at which they end. -/
structure CursorRows where
  ahead : List Row := []
  ending : Option Outside := none
  deriving DecidableEq

/-- The state of a scripted engine. -/
structure Script where
  replies : List Reply := []
  transactions : List Bool := []
  cursors : List CursorRows := []
  clock : Binary64 := .zero false
  deriving DecidableEq

namespace Reply

/-- This function gives a row by column. A repeated column keeps its place and its last value. -/
def row (reply : Reply) (values : List Value) : Row :=
  Keyed.ofEntries ((reply.columns.map Value.text).zip values)

/-- This function gives the rows up to the failure, if there is one. -/
def cursorRows (reply : Reply) : CursorRows :=
  let rows := reply.rows.map reply.row
  match reply.fetchFailure with
  | some (index, cause) =>
      if index ≤ rows.length then ⟨rows.take index, some cause⟩ else ⟨rows, none⟩
  | none => ⟨rows, none⟩

end Reply

namespace CursorRows

/-- This function takes rows. A fetch that is not satisfied at the end meets the failure there, and
the rows that it took are lost. -/
def take (rows : CursorRows) (count : Nat) : Except Outside (List Row) × CursorRows :=
  if count ≤ rows.ahead.length then
    (.ok (rows.ahead.take count), { rows with ahead := rows.ahead.drop count })
  else
    match rows.ending with
    | some cause => (.error cause, { rows with ahead := [] })
    | none => (.ok rows.ahead, { rows with ahead := [] })

def takeAll (rows : CursorRows) : Except Outside (List Row) × CursorRows :=
  match rows.ending with
  | some cause => (.error cause, { rows with ahead := [] })
  | none => (.ok rows.ahead, { rows with ahead := [] })

end CursorRows

namespace Script

/-- This function takes the next reply. After the last one, replies are empty. -/
def next (script : Script) : Reply × Script :=
  match script.replies with
  | reply :: rest => (reply, { script with replies := rest })
  | [] => ({}, script)

def rowsOf (script : Script) (cursor : Cursor) : CursorRows :=
  script.cursors[cursor.number]?.getD {}

def setRows (script : Script) (cursor : Cursor) (rows : CursorRows) : Script :=
  { script with cursors := script.cursors.set cursor.number rows }

def inTransaction (script : Script) (connection : Connection) : Bool :=
  script.transactions[connection.number]?.getD false

def setTransaction (script : Script) (connection : Connection) (value : Option Bool) : Script :=
  match value with
  | some state => { script with transactions := script.transactions.set connection.number state }
  | none => script

/-- This function gives the first word of a statement in capitals. -/
def firstWord (sql : String) : String :=
  Text.upper (String.ofList
    ((sql.toList.dropWhile Text.isBlank).takeWhile fun c => !Text.isBlank c))

/-- This function tells whether a transaction is open after a statement, if the statement says so. -/
def transactionAfter (sql : String) : Option Bool :=
  let word := firstWord sql
  if word = "BEGIN" then some true
  else if word = "COMMIT" || word = "END" || word = "ROLLBACK" then some false
  else none

/-- A connection takes a reply only when the reply is a refusal to connect. -/
def connect (script : Script) : Except Outside Connection × Script :=
  match script.replies with
  | { connectFailure := some cause, .. } :: rest => (.error cause, { script with replies := rest })
  | _ =>
      (.ok ⟨script.transactions.length⟩,
        { script with transactions := script.transactions ++ [false] })

def execute (script : Script) (cursor : Cursor) (sql : String) :
    Except Outside RunResult × Script :=
  let (reply, script) := script.next
  match reply.failure with
  | some cause => (.error cause, script.setTransaction cursor.connection reply.inTransaction)
  | none =>
      let script := script.setTransaction cursor.connection (transactionAfter sql)
      let script := script.setTransaction cursor.connection reply.inTransaction
      (.ok ⟨reply.lastInsertId, reply.changes⟩, script.setRows cursor reply.cursorRows)

def runScript (script : Script) (connection : Connection) : Except Outside Unit × Script :=
  let (reply, script) := script.next
  let script := script.setTransaction connection reply.inTransaction
  match reply.failure with
  | some cause => (.error cause, script)
  | none => (.ok (), script)

def newCursor (script : Script) (connection : Connection) : Cursor × Script :=
  (⟨connection, script.cursors.length⟩, { script with cursors := script.cursors ++ [{}] })

/-- This function changes the rows of a cursor by taking some. -/
def fetch {α : Type} (script : Script) (cursor : Cursor)
    (take : CursorRows → Except Outside α × CursorRows) : Except Outside α × Script :=
  let (result, rows) := take (script.rowsOf cursor)
  (result, script.setRows cursor rows)

/-- This function takes one row, or none at the end. -/
def takeOne (rows : CursorRows) : Except Outside (Option Row) × CursorRows :=
  let (result, rows) := rows.take 1
  (result.map List.head?, rows)

/-- This engine plays a script. -/
def engine : Engine Script where
  answer
    | .connect _, script => script.connect
    | .disconnect _, script => ((), script)
    | .inTransaction connection, script => (script.inTransaction connection, script)
    | .script connection _, script => script.runScript connection
    | .cursor connection, script => script.newCursor connection
    | .execute cursor sql _, script => script.execute cursor sql
    | .fetchOne cursor, script => script.fetch cursor takeOne
    | .fetchMany cursor count, script => script.fetch cursor fun rows => rows.take count.toNat
    | .fetchAll cursor, script => script.fetch cursor CursorRows.takeAll
    | .rows cursor, script =>
        let rows := script.rowsOf cursor
        ((rows.ahead, rows.ending), script)
    | .advance cursor count, script =>
        let rows := script.rowsOf cursor
        ((), script.setRows cursor { rows with ahead := rows.ahead.drop count })
    | .remaining cursor, script => ((script.rowsOf cursor).ahead.length, script)
    | .closeCursor _, script => ((), script)
    | .log _, script => ((), script)
    | .threshold _, script => ((), script)
    | .time, script => (script.clock, script)

end Script

end Tabular
