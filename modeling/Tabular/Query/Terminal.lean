import Tabular.Query.Statement
import Tabular.Stream.Read

/-!
This module runs queries. The statement is built first, so that a query that cannot be built asks
nothing of the engine.
-/

namespace Tabular.Query

open Tabular.Action

variable {σ : Type}

def all (query : Query) (database : Database) : Action σ (List Row) := do
  let bound ← (query.selectStatement : Except Failure BoundText)
  database.all bound.sql bound.parameters

def first (query : Query) (database : Database) : Action σ (Option Row) := do
  let bound ← (query.selectStatement : Except Failure BoundText)
  database.first bound.sql bound.parameters

def each (query : Query) (database : Database) (callback : Callback σ) : Action σ Nat := do
  let bound ← (query.selectStatement : Except Failure BoundText)
  database.each bound.sql bound.parameters callback

/-- This function prepares the statement of a query without running it. -/
def prepare (query : Query) : Except Failure Statement := do
  let bound ← query.selectStatement
  pure { sql := bound.sql, parameters := bound.parameters }

/-- This function makes a stream over the rows of a query. -/
def stream (query : Query) (database : Database) (prefetch : Option Int) :
    Except Failure Reading := do
  let statement ← query.prepare
  let stream ← ReadStream.make (prefetch.getD database.settings.streamPrefetch) true
  pure { statement, stream }

/-- This action counts the rows. Without a row in the answer there are none. -/
def count (query : Query) (database : Database) : Action σ Value := do
  let bound ← (query.countStatement : Except Failure BoundText)
  match ← database.first bound.sql bound.parameters with
  | none | some [] => pure (.int 0)
  | some row => (Value.map row).member "count"

def remove (query : Query) (database : Database) : Action σ RunResult := do
  let bound ← (query.deleteStatement : Except Failure BoundText)
  database.run bound.sql bound.parameters

def update (query : Query) (database : Database) (newValues : Value) : Action σ RunResult := do
  let bound ← (query.updateStatement newValues : Except Failure BoundText)
  database.run bound.sql bound.parameters

end Tabular.Query
