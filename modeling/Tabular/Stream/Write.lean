import Tabular.Parameter
import Tabular.Statement
import Tabular.Value.Order

/-!
This module writes rows that share one set of columns. Rows are kept until a batch is complete, and
each batch is written in one transaction.
-/

namespace Tabular

/-- A stream of rows to one table. The first row decides on the columns and the statement. -/
structure WriteStream where
  table : Value
  insertOrReplace : Bool := false
  batchSize : Int := 256
  rowsWritten : Nat := 0
  columns : List Value := []
  statement : Option Statement := none
  waiting : List Value := []
  closed : Bool := false
  deriving DecidableEq

open Tabular.Action

namespace WriteStream

def logger : String := "litetable.streams"

/-- This function makes a stream. A batch needs one row at least. -/
def make (table : Value) (insertOrReplace : Bool) (batchSize : Int) : Except Failure WriteStream :=
  if batchSize ≤ 0 then throw (.batchSize batchSize)
  else pure { table, insertOrReplace, batchSize }

/-- This function writes the statement that inserts a row with the given columns. -/
def insertText (stream : WriteStream) (columns : List Value) : Except Failure String := do
  let verb := if stream.insertOrReplace then "INSERT OR REPLACE" else "INSERT"
  let places := columns.map fun column => "$" ++ column.toText
  pure (verb ++ " INTO " ++ stream.table.toText ++ " (" ++ (← Value.commaList columns) ++ ") VALUES (" ++
    String.intercalate ", " places ++ ")")

/-- This action decides on the columns and the statement, unless that is already done. -/
def prepare (row : Value) : Action WriteStream Unit := do
  let stream ← get
  if stream.statement.isSome then return
  let columns ← (row.items : Except Failure (List Value))
  if columns.isEmpty then throw .emptyRow
  modify fun stream => { stream with columns }
  let sql ← (stream.insertText columns : Except Failure String)
  modify fun stream => { stream with statement := some { sql } }

/-- This function tells whether two lists have the same members. -/
def sameMembers (first second : List Value) : Bool :=
  first.all (fun value => second.any value.same) && second.all (fun value => first.any value.same)

/-- This function gives the stored form of the value of each column. -/
def storedColumns (row : List (Value × Value)) : List Value → Except Failure (List (Value × Value))
  | [] => pure []
  | column :: rest =>
      match Keyed.get? row column with
      | none => throw (.key column)
      | some value => do
          let stored ← value.stored
          pure ((column, stored) :: (← storedColumns row rest))

/-- This function gives the parameters of a row, in the order of the columns. -/
def rowParameters (columns : List Value) (row : Value) : Except Failure Value := do
  let names ← row.items
  if !Value.areKeys names then throw .wrongType
  if !sameMembers names columns then throw (.rowColumns (← Value.sorted names) columns)
  match row with
  | .map entries => do pure (.map (← storedColumns entries columns))
  | _ => throw .wrongType

/-- This action runs the statement of the stream. -/
def runStatement (database : Database) (parameters : Value) : Action WriteStream Unit := do
  match (← get).statement with
  | none => pure ()
  | some statement =>
      let _ ← onPart (fun _ => statement)
        (fun stream statement => { stream with statement := some statement })
        (Statement.bind database parameters)

def runAll (database : Database) : List Value → Action WriteStream Unit
  | [] => pure ()
  | parameters :: rest => do
      runStatement database parameters
      runAll database rest

/-- This action writes the waiting rows in one transaction. They wait no longer even if it fails. -/
def flush (database : Database) : Action WriteStream Unit := do
  let batch := (← get).waiting
  if batch.isEmpty then return
  modify fun stream => { stream with waiting := [] }
  database.transaction (runAll database batch)
  modify fun stream => { stream with rowsWritten := stream.rowsWritten + batch.length }
  log .debug logger ("Wrote " ++ toString batch.length ++ " rows to " ++ (← get).table.toText)

/-- This action adds a row and writes the batch when it is complete. -/
def write (database : Database) (row : Value) : Action WriteStream Unit := do
  if (← get).closed then throw .closedStream
  prepare row
  let parameters ← (rowParameters (← get).columns row : Except Failure Value)
  modify fun stream => { stream with waiting := stream.waiting ++ [parameters] }
  let stream ← get
  if stream.batchSize ≤ stream.waiting.length then flush database

/-- This action adds rows and counts them. -/
def writeAll (database : Database) : List Value → Action WriteStream Nat
  | [] => pure 0
  | row :: rest => do
      write database row
      pure ((← writeAll database rest) + 1)

/-- This action marks the stream as closed and finalizes its statement. -/
def release : Action WriteStream Unit := do
  modify fun stream => { stream with closed := true }
  match (← get).statement with
  | none => pure ()
  | some statement =>
      onPart (fun _ => statement) (fun stream statement => { stream with statement := some statement })
        Statement.finalize

/-- This action writes the waiting rows and releases the statement, also when the writing fails. -/
def close (database : Database) : Action WriteStream Unit := do
  if (← get).closed then return
  ensuring (flush database) release

/-- This action drops the waiting rows and releases the statement. -/
def abort : Action WriteStream Unit := do
  modify fun stream => { stream with waiting := [] }
  release

end WriteStream

end Tabular
