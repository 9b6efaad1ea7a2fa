import Tabular.Session.Object

/-!
This module holds the calls that a session makes on its objects.
-/

namespace Tabular

/-- The name of a call. Objects of several kinds share a name where they do the same, and no object has
the name `unknown`. -/
inductive Verb where
  | «open»
  | close
  | run
  | first
  | all
  | each
  | script
  | prepare
  | transaction
  | pragma
  | setPragma
  | enableForeignKeys
  | foreignKeysEnabled
  | create
  | createIfAbsent
  | createOrUpdate
  | exists
  | introspect
  | matchesDatabase
  | insert
  | find
  | upsert
  | updateUnique
  | lookup
  | keyColumn
  | makeWriter
  | makeExtender
  | foreignKeys
  | indexColumns
  | uniqueColumns
  | indices
  | indexNames
  | migrate
  | set
  | delete
  | items
  | contains
  | select
  | «from»
  | groupBy
  | orderBy
  | limit
  | offset
  | stream
  | count
  | remove
  | update
  | bind
  | many
  | finalize
  | next
  | collect
  | read
  | write
  | writeAll
  | flush
  | abort
  | extend
  | extendAll
  | unknown
  deriving DecidableEq, Repr

/-- These verbs add a clause to a query. -/
def Verb.isClause : Verb → Bool
  | .select | .from | .find | .groupBy | .orderBy | .limit | .offset => true
  | _ => false

/-- A call with its arguments in order. -/
structure Call where
  verb : Verb
  arguments : List Argument := []

namespace Query

/-- This function adds the clause that a verb names, if it names one. -/
def withClause (query : Query) (verb : Verb) (argument : Value) : Except Failure Query :=
  match verb with
  | .select => query.select argument
  | .from => pure (query.withTable argument)
  | .find => query.find argument
  | .groupBy => query.groupBy argument
  | .orderBy => query.orderBy argument
  | .limit => pure (query.withLimit argument)
  | .offset => pure (query.withOffset argument)
  | _ => throw .missingAttribute

end Query

namespace Session

def callDatabase (number : Nat) (call : Call) : Play Object := do
  let database := (← get).databaseAt number
  let arguments := call.arguments
  match call.verb with
  | .open => do
      onDatabase number Database.open
      pure (.database number)
  | .close => do
      onDatabase number Database.close
      pure .nothing
  | .run => do
      let sql ← neededText arguments 0
      pure (.run (← stateless (database.run sql (← optional arguments 1))))
  | .first => do
      let sql ← neededText arguments 0
      pure (.ofRow (← stateless (database.first sql (← optional arguments 1))))
  | .all => do
      let sql ← neededText arguments 0
      pure (.rows (← stateless (database.all sql (← optional arguments 1))))
  | .each => do
      let sql ← neededText arguments 0
      let parameters ← needed arguments 1
      let callback ← neededCallback arguments 2
      pure (.ofNat (← onSeen (database.each sql parameters (collector callback))))
  | .script => do
      stateless (database.script (← neededText arguments 0))
      pure .nothing
  | .prepare => do
      let sql ← neededText arguments 0
      addStatement number { sql, parameters := ← optional arguments 1 }
  | .transaction => pure (.block number)
  | .pragma => do pure (.value (← stateless (database.pragma (← neededText arguments 0))))
  | .setPragma => do
      stateless (database.setPragma (← neededText arguments 0) (← needed arguments 1))
      pure .nothing
  | .enableForeignKeys => do
      stateless (database.enableForeignKeys (← flag arguments 0 true))
      pure .nothing
  | .foreignKeysEnabled => do pure (.ofFlag (← stateless database.foreignKeysEnabled))
  | _ => throw .missingAttribute

/-- This play makes the calls that tables and reconcilers share. -/
def callDeclared (database : Database) (schema : Schema) (verb : Verb) : Play Object := do
  match verb with
  | .create => do
      stateless (schema.create database)
      pure .nothing
  | .createIfAbsent => do pure (.sync (← stateless (schema.createIfAbsent database)))
  | .createOrUpdate => do pure (.sync (← stateless (schema.createOrUpdate database)))
  | .exists => do pure (.ofFlag (← stateless (schema.exists? database)))
  | .introspect => do pure (.schema (← stateless (schema.introspect database)))
  | .matchesDatabase => do pure (.ofFlag (← stateless (schema.matchesDatabase database)))
  | _ => throw .missingAttribute

def callTable (number : Nat) (schema : Schema) (call : Call) : Play Object := do
  let database := (← get).databaseAt number
  let arguments := call.arguments
  match call.verb with
  | .insert => do pure (.run (← stateless (schema.insert database (← needed arguments 0))))
  | .find => do pure (.query number (← taken (schema.find (← optional arguments 0))))
  | .upsert => do pure (.value (← stateless (schema.upsert database (← needed arguments 0))))
  | .updateUnique => do
      pure (.run (← stateless (schema.updateUnique database (← needed arguments 0))))
  | .lookup => do pure (.value (← taken (schema.lookup (← needed arguments 0))))
  | .keyColumn => pure (.value (schema.keyColumn?.getD .null))
  | .makeWriter => do
      let replaces ← flag arguments 0 false
      let size := (← optionalSize arguments 1).getD database.settings.writeBatchSize
      addWriter number schema.name replaces size
  | .makeExtender => pure (.extender number schema)
  | verb => callDeclared database schema verb

def callReconciler (number : Nat) (schema : Schema) (call : Call) : Play Object := do
  let database := (← get).databaseAt number
  match call.verb with
  | .foreignKeys => do pure (.foreignKeys (← stateless (schema.reportedForeignKeys database)))
  | .indexColumns => do
      let index ← needed call.arguments 0
      pure (.value (.tuple (← stateless (Schema.indexColumns database index))))
  | .uniqueColumns => do pure (.columnSet (← stateless (schema.uniqueColumns database)))
  | .indices => do pure (.indices (← stateless (schema.explicitIndices database)))
  | .indexNames => do pure (.ofValues (← stateless (schema.explicitIndexNames database)))
  | .migrate =>
      match ← neededObject call.arguments 0 with
      | .schema old => do
          stateless (schema.migrate old database)
          pure .nothing
      | _ => throw .wrongType
  | verb => callDeclared database schema verb

def callMapTable (number : Nat) (table : MapTable) (call : Call) : Play Object := do
  let database := (← get).databaseAt number
  let arguments := call.arguments
  match call.verb with
  | .create => do pure (.sync (← stateless (table.create database)))
  | .createIfAbsent => do pure (.sync (← stateless (table.createIfAbsent database)))
  | .first => do pure (.value (← stateless (table.get database (← needed arguments 0))))
  | .set => do
      let key ← needed arguments 0
      stateless (table.set database key (← needed arguments 1))
      pure .nothing
  | .delete => do
      pure (.value (.int (← stateless (table.delete database (← needed arguments 0)))))
  | .items => do
      let items ← stateless (table.items database)
      pure (.ofValues (items.map fun item => .tuple [item.1, item.2]))
  | .contains => do pure (.ofFlag (← stateless (table.contains database (← needed arguments 0))))
  | _ => throw .missingAttribute

def callQuery (number : Nat) (query : Query) (call : Call) : Play Object := do
  let database := (← get).databaseAt number
  let arguments := call.arguments
  match call.verb with
  | .all => do pure (.rows (← stateless (query.all database)))
  | .first => do pure (.ofRow (← stateless (query.first database)))
  | .each => do
      let callback ← neededCallback arguments 0
      pure (.ofNat (← onSeen (query.each database (collector callback))))
  | .prepare => do addStatement number (← taken query.prepare)
  | .stream => do
      let statement ← taken query.prepare
      addReaderOf number statement (← optionalSize arguments 0)
  | .count => do pure (.value (← stateless (query.count database)))
  | .remove => do pure (.run (← stateless (query.remove database)))
  | .update => do pure (.run (← stateless (query.update database (← needed arguments 0))))
  | verb =>
      if verb.isClause then do
        pure (.query number (← taken (query.withClause verb (← needed arguments 0))))
      else throw .missingAttribute

def callRawQuery (number : Nat) (statement : BoundText) (call : Call) : Play Object := do
  let database := (← get).databaseAt number
  let arguments := call.arguments
  let sql := statement.sql
  let parametersAt (index : Nat) : Play Value := do
    let given ← optional arguments index
    pure (if given.isNull then statement.parameters else given)
  match call.verb with
  | .all => do pure (.rows (← stateless (database.all sql (← parametersAt 0))))
  | .first => do pure (.ofRow (← stateless (database.first sql (← parametersAt 0))))
  | .each => do
      let callback ← neededCallback arguments 0
      let parameters ← parametersAt 1
      pure (.ofNat (← onSeen (database.each sql parameters (collector callback))))
  | .prepare => do addStatement number { sql, parameters := ← parametersAt 0 }
  | .stream => do
      let parameters ← parametersAt 0
      addReaderOf number { sql, parameters } (← optionalSize arguments 1)
  | _ => throw .missingAttribute

def callStatement (owner number : Nat) (call : Call) : Play Object := do
  let database := (← get).databaseAt owner
  let arguments := call.arguments
  match call.verb with
  | .bind => do
      let parameters ← optional arguments 0
      let _ ← onStatement number (Statement.bind database parameters)
      pure (.statement owner number)
  | .run => do
      let parameters ← optional arguments 0
      pure (.run (← onStatement number (Statement.bind database parameters)))
  | .first => do pure (.ofRow (← onStatement number (Statement.first database)))
  | .many => do
      let count ← neededWhole arguments 0
      pure (.rows (← onStatement number (Statement.many database count)))
  | .all => do pure (.rows (← onStatement number (Statement.all database)))
  | .each => do
      let callback ← neededCallback arguments 0
      pure (.ofNat (← perform (fun session => (session.statementAt number, session.seen))
        (fun session state => { session.setStatement number state.1 with seen := state.2 })
        (Statement.each database (collector callback))))
  | .stream => do
      let prefetch ← optionalSize arguments 0
      addReader owner number prefetch (← flag arguments 1 true)
  | .finalize => do
      onStatement number Statement.finalize
      pure .nothing
  | _ => throw .missingAttribute

def callReader (owner number : Nat) (call : Call) : Play Object := do
  let database := (← get).databaseAt owner
  match call.verb with
  | .next => do
      match ← onReader number (Reading.next database) with
      | some row => pure (.ofRow (some row))
      | none => throw .endOfRows
  | .collect => do pure (.rows (← onReader number (Reading.collect database)))
  | .read => do
      let count ← neededWhole call.arguments 0
      pure (.rows (← onReader number (Reading.read database count.toNat)))
  | .close => do
      onReader number Reading.close
      pure .nothing
  | _ => throw .missingAttribute

def callWriter (owner number : Nat) (call : Call) : Play Object := do
  let database := (← get).databaseAt owner
  match call.verb with
  | .write => do
      onWriter number (WriteStream.write database (← needed call.arguments 0))
      pure .nothing
  | .writeAll => do
      let rows ← taken (← needed call.arguments 0).items
      pure (.ofNat (← onWriter number (WriteStream.writeAll database rows)))
  | .flush => do
      onWriter number (WriteStream.flush database)
      pure .nothing
  | .close => do
      onWriter number (WriteStream.close database)
      pure .nothing
  | .abort => do
      onWriter number WriteStream.abort
      pure .nothing
  | _ => throw .missingAttribute

def callExtender (owner : Nat) (schema : Schema) (call : Call) : Play Object := do
  let database := (← get).databaseAt owner
  let arguments := call.arguments
  match call.verb with
  | .extend => do pure (.value (← stateless (schema.extend database (← needed arguments 0))))
  | .extendAll => do
      let rows ← taken (← needed arguments 0).items
      pure (.ofValues (← stateless (schema.extendAll database rows)))
  | _ => throw .missingAttribute

/-- This play makes a call on an object. -/
def call (target : Object) (call : Call) : Play Object := do
  checkArguments call.arguments
  match target with
  | .database number => callDatabase number call
  | .table database schema => callTable database schema call
  | .reconciler database schema => callReconciler database schema call
  | .mapTable database table => callMapTable database table call
  | .query database query => callQuery database query call
  | .rawQuery database statement => callRawQuery database statement call
  | .statement database number => callStatement database number call
  | .reader database number => callReader database number call
  | .writer database number => callWriter database number call
  | .extender database schema => callExtender database schema call
  | _ => throw .missingAttribute

/-- This play makes calls, each one on the result of the one before. -/
def calls (target : Object) : List Call → Play Object
  | [] => pure target
  | first :: rest => do calls (← call target first) rest

end Session

end Tabular
