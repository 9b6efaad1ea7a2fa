import Tabular.Session.Object

/-!
This module reads the properties of the objects of a session.
-/

namespace Tabular

/-- The name of a property. Objects of several kinds share a name where it means the same. -/
inductive Property where
  | path
  | isOpen
  | inTransaction
  | settings
  | connection
  | name
  | schema
  | database
  | table
  | selection
  | filter
  | grouping
  | ordering
  | limit
  | offset
  | sql
  | parameters
  | finalized
  | prefetch
  | finalizeStatement
  | closed
  | totalRows
  | insertOrReplace
  | batchSize
  | rowsWritten
  | wasCreated
  | wasUpdated
  | lastInsertId
  | changes
  deriving DecidableEq, Repr

namespace Session

def databaseProperty (number : Nat) (property : Property) : Play Object := do
  let database := (← get).databaseAt number
  match property with
  | .path => pure (.value (.text database.path))
  | .isOpen => pure (.ofFlag database.connection.isSome)
  | .inTransaction => do pure (.ofFlag (← stateless database.inTransaction))
  | .settings => pure (.settings database.settings)
  | .connection => do pure (.connection (← stateless database.connected))
  | _ => throw .missingAttribute

def queryProperty (number : Nat) (query : Query) (property : Property) : Play Object :=
  match property with
  | .selection => pure (.value query.selection)
  | .table => pure (.value query.table)
  | .filter => pure (.value (if query.filter.isEmpty then .null else .map query.filter))
  | .grouping => pure (.value (.tuple query.grouping))
  | .ordering => pure (.value (.tuple query.ordering))
  | .limit => pure (.value query.limit)
  | .offset => pure (.value query.offset)
  | .database => pure (.database number)
  | _ => throw .missingAttribute

def statementProperty (statement : Statement) (property : Property) : Play Object :=
  match property with
  | .sql => pure (.value (.text statement.sql))
  | .parameters => pure (.value statement.parameters)
  | .finalized => pure (.ofFlag statement.finalized)
  | _ => throw .missingAttribute

def readerProperty (stream : ReadStream) (property : Property) : Play Object :=
  match property with
  | .prefetch => pure (.value (.int stream.prefetch))
  | .finalizeStatement => pure (.ofFlag stream.finalizeStatement)
  | .closed => pure (.ofFlag stream.closed)
  | .totalRows => pure (.ofNat stream.totalRows)
  | _ => throw .missingAttribute

def writerProperty (number : Nat) (stream : WriteStream) (property : Property) : Play Object :=
  match property with
  | .name => pure (.value stream.table)
  | .insertOrReplace => pure (.ofFlag stream.insertOrReplace)
  | .batchSize => pure (.value (.int stream.batchSize))
  | .rowsWritten => pure (.ofNat stream.rowsWritten)
  | .closed => pure (.ofFlag stream.closed)
  | .database => pure (.database number)
  | _ => throw .missingAttribute

/-- This play reads a property of an object. -/
def property (target : Object) (property : Property) : Play Object := do
  let session ← get
  match target, property with
  | .database number, property => databaseProperty number property
  | .query database query, property => queryProperty database query property
  | .statement _ number, property => statementProperty (session.statementAt number) property
  | .reader _ number, property => readerProperty (session.readerAt number).2 property
  | .writer database number, property =>
      writerProperty database (session.writerAt number) property
  | .table _ schema, .name => pure (.value schema.name)
  | .table _ schema, .schema => pure (.schema schema)
  | .table database _, .database => pure (.database database)
  | .reconciler _ schema, .schema => pure (.schema schema)
  | .reconciler database _, .database => pure (.database database)
  | .mapTable _ table, .name => pure (.value table.name)
  | .mapTable database table, .table => pure (.table database table.schema)
  | .mapTable database _, .database => pure (.database database)
  | .rawQuery _ statement, .sql => pure (.value (.text statement.sql))
  | .rawQuery _ statement, .parameters => pure (.value statement.parameters)
  | .rawQuery database _, .database => pure (.database database)
  | .extender database schema, .table => pure (.table database schema)
  | .sync result, .wasCreated => pure (.ofFlag result.wasCreated)
  | .sync result, .wasUpdated => pure (.ofFlag result.wasUpdated)
  | .run result, .lastInsertId => pure (.value ((result.lastInsertId.map Value.int).getD .null))
  | .run result, .changes => pure (.value (.int result.changes))
  | .schema schema, .name => pure (.value schema.name)
  | _, _ => throw .missingAttribute

end Session

end Tabular
