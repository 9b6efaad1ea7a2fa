import Tabular.Statement

/-!
This module reads the rows of a statement in chunks. A stream closes itself at the end of the rows
and when a fetch fails.
-/

namespace Tabular

/-- A stream of rows. It fetches `prefetch` rows at a time and keeps those not yet delivered. -/
structure ReadStream where
  prefetch : Int
  finalizeStatement : Bool := true
  waiting : List Row := []
  endOfData : Bool := false
  closed : Bool := false
  totalRows : Nat := 0
  deriving DecidableEq

/-- A stream together with the statement that it reads. -/
structure Reading where
  statement : Statement
  stream : ReadStream
  deriving DecidableEq

open Tabular.Action

namespace ReadStream

/-- This function makes a stream. A chunk needs one row at least. -/
def make (prefetch : Int) (finalizeStatement : Bool) : Except Failure ReadStream :=
  if prefetch ≤ 0 then throw (.prefetchSize prefetch)
  else pure { prefetch, finalizeStatement }

end ReadStream

namespace Reading

def onStatement {α : Type} (action : Action Statement α) : Action Reading α :=
  onPart Reading.statement (fun reading statement => { reading with statement }) action

def update (change : ReadStream → ReadStream) : Action Reading Unit :=
  modify fun reading => { reading with stream := change reading.stream }

/-- This action drops the waiting rows and finalizes the statement if the stream owns it. -/
def close : Action Reading Unit := do
  let stream := (← get).stream
  if stream.closed then return
  update fun stream => { stream with closed := true, waiting := [] }
  if stream.finalizeStatement then onStatement Statement.finalize

/-- This action fetches one chunk. A short chunk is the last one. -/
def fetchChunk (database : Database) : Action Reading Unit := do
  let prefetch := (← get).stream.prefetch
  match ← attempt (onStatement (Statement.many database prefetch)) with
  | .error failure =>
      close
      throw failure
  | .ok rows =>
      update fun stream => { stream with
        waiting := stream.waiting ++ rows
        endOfData := stream.endOfData || decide ((rows.length : Int) < prefetch) }

/-- This action gives the next row. At the end it closes the stream and gives none. -/
def next (database : Database) : Action Reading (Option Row) := do
  let stream := (← get).stream
  if stream.waiting.isEmpty && !stream.endOfData && !stream.closed then fetchChunk database
  match (← get).stream.waiting with
  | [] =>
      close
      pure none
  | row :: rest =>
      update fun stream => { stream with waiting := rest, totalRows := stream.totalRows + 1 }
      pure (some row)

/-- This action gives up to `count` rows, or none at the end. -/
def read (database : Database) : Nat → Action Reading (List Row)
  | 0 => pure []
  | count + 1 => do
      match ← next database with
      | none => pure []
      | some row => pure (row :: (← read database count))

/-- This action tells how many rows the cursor has yet to give. -/
def remaining : Action Reading Nat := do
  match (← get).statement.cursor with
  | some cursor => ask (.remaining cursor)
  | none => pure 0

/-- This action runs an action on the stream beside another state. -/
def besides {α σ : Type} (action : Action Reading α) : Action (Reading × σ) α :=
  onPart Prod.fst (fun state reading => (reading, state.2)) action

/-- This action gives each of the next rows to a visitor, `room` rows at most. -/
def visitSome {σ : Type} (database : Database) (visit : Row → Action σ Unit) :
    Nat → Action (Reading × σ) Unit
  | 0 => pure ()
  | room + 1 => do
      match ← besides (next database) with
      | none => pure ()
      | some row =>
          onPart Prod.snd (fun state inner => (state.1, inner)) (visit row)
          visitSome database visit room

/-- This action gives every row to a visitor. After the first row it is known how many follow. -/
def visitAll {σ : Type} (database : Database) (visit : Row → Action σ Unit) :
    Action (Reading × σ) Unit := do
  match ← besides (next database) with
  | none => pure ()
  | some row =>
      let waiting := (← get).1.stream.waiting.length
      let left ← besides remaining
      onPart Prod.snd (fun state inner => (state.1, inner)) (visit row)
      visitSome database visit (waiting + left + 1)

/-- This action gives all rows to the end. After the first row it is known how many follow. -/
def collect (database : Database) : Action Reading (List Row) := do
  match ← next database with
  | none => pure []
  | some row =>
      let waiting := (← get).stream.waiting.length
      let left ← remaining
      pure (row :: (← read database (waiting + left + 1)))

end Reading

end Tabular
