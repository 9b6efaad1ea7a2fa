import Tabular.Proofs.Stream.Attribution
import Tabular.Proofs.Table.Attribution
import Tabular.Proofs.Table.Guarded

/-!
This module makes all operations of a database one after another. Whatever fails, the failure of an
operation names the last statement that failed in it.
-/

namespace Tabular

open Tabular.Action Exchange

variable {ι σ τ : Type}

/-! ## Operations on a database -/

/-- An operation on a table of texts. -/
inductive MapOperation where
  | create
  | createIfAbsent
  | get (key : Value)
  | set (key value : Value)
  | delete (key : Value)
  | contains (key : Value)
  | items

/-- An operation on a database, on one of its tables or on a query. What a callback would ask of the database
is an operation of its own. -/
inductive DatabaseOperation (σ : Type) where
  | run (sql : String) (parameters : Value)
  | first (sql : String) (parameters : Value)
  | all (sql : String) (parameters : Value)
  | each (sql : String) (parameters : Value) (callback : Callback σ)
  | script (text : String)
  | inTransaction
  | pragma (name : String)
  | setPragma (name : String) (value : Value)
  | enableForeignKeys (enable : Bool)
  | foreignKeysEnabled
  | onTable (schema : Schema) (operation : TableOperation σ)
  | tableExists (schema : Schema)
  | introspect (schema : Schema)
  | matchesDatabase (schema : Schema)
  | migrate (schema old : Schema)
  | extend (schema : Schema) (rows : List Value)
  | onMap (table : MapTable) (operation : MapOperation)

/-- This action makes an operation and drops what it returns. -/
def MapOperation.perform (table : MapTable) (database : Database) : MapOperation → Action σ Unit
  | .create => do let _ ← table.create database
  | .createIfAbsent => do let _ ← table.createIfAbsent database
  | .get key => do let _ ← table.get database key
  | .set key value => table.set database key value
  | .delete key => do let _ ← table.delete database key
  | .contains key => do let _ ← table.contains database key
  | .items => do let _ ← table.items database

/-- Callbacks do not fail. -/
def TableOperation.Silent : TableOperation σ → Prop
  | .each _ callback => Action.Silent callback
  | _ => True

namespace DatabaseOperation

def perform (database : Database) : DatabaseOperation σ → Action σ Unit
  | .run sql parameters => do let _ ← database.run sql parameters
  | .first sql parameters => do let _ ← database.first sql parameters
  | .all sql parameters => do let _ ← database.all sql parameters
  | .each sql parameters callback => do let _ ← database.each sql parameters callback
  | .script text => database.script text
  | .inTransaction => do let _ ← database.inTransaction
  | .pragma name => do let _ ← database.pragma name
  | .setPragma name value => database.setPragma name value
  | .enableForeignKeys enable => database.enableForeignKeys enable
  | .foreignKeysEnabled => do let _ ← database.foreignKeysEnabled
  | .onTable schema operation => operation.perform schema database
  | .tableExists schema => do let _ ← schema.exists? database
  | .introspect schema => do let _ ← schema.introspect database
  | .matchesDatabase schema => do let _ ← schema.matchesDatabase database
  | .migrate schema old => schema.migrate old database
  | .extend schema rows => do let _ ← schema.extendAll database rows
  | .onMap table operation => operation.perform table database

def Silent : DatabaseOperation σ → Prop
  | .each _ _ callback => Action.Silent callback
  | .onTable _ operation => operation.Silent
  | _ => True

/-- Only an upsert may go on after a failure. -/
def isUpsert : DatabaseOperation σ → Bool
  | .onTable _ (.upsert _) => true
  | _ => false

end DatabaseOperation

section

variable {database : Database} {connection : Connection}
  (opened : database.connection = some connection)

include opened

theorem MapOperation.perform_attributes (table : MapTable) (operation : MapOperation) :
    Attributes (operation.perform table database : Action σ Unit) := by
  cases operation with
  | create => exact (table.schema.createOrUpdate_attributes opened).bind fun _ => .pure _
  | createIfAbsent => exact (table.schema.createIfAbsent_attributes opened).bind fun _ => .pure _
  | get key => exact (table.get_attributes opened key).bind fun _ => .pure _
  | set key value => exact table.set_attributes opened key value
  | delete key => exact (table.delete_attributes opened key).bind fun _ => .pure _
  | contains key => exact (table.contains_attributes opened key).bind fun _ => .pure _
  | items => exact (table.items_attributes opened).bind fun _ => .pure _

theorem TableOperation.perform_attributes (schema : Schema) {operation : TableOperation σ}
    (silent : operation.Silent) (other : ∀ row, operation ≠ .upsert row) :
    Attributes (operation.perform schema database) := by
  cases operation with
  | insert row => exact (schema.insert_attributes opened row).bind fun _ => .pure _
  | upsert row => exact absurd rfl (other row)
  | updateUnique row => exact (schema.updateUnique_attributes opened row).bind fun _ => .pure _
  | create => exact schema.create_attributes opened
  | createIfAbsent => exact (schema.createIfAbsent_attributes opened).bind fun _ => .pure _
  | createOrUpdate => exact (schema.createOrUpdate_attributes opened).bind fun _ => .pure _
  | all query => exact (query.all_attributes opened).bind fun _ => .pure _
  | first query => exact (query.first_attributes opened).bind fun _ => .pure _
  | each query callback => exact (query.each_attributes opened silent).bind fun _ => .pure _
  | count query => exact (query.count_attributes opened).bind fun _ => .pure _
  | remove query => exact (query.remove_attributes opened).bind fun _ => .pure _
  | update query newValues => exact (query.update_attributes opened newValues).bind fun _ => .pure _

namespace DatabaseOperation

theorem perform_attributes {operation : DatabaseOperation σ} (silent : operation.Silent)
    (other : operation.isUpsert = false) : Attributes (operation.perform database) := by
  cases operation with
  | run sql parameters => exact (Database.run_attributes opened sql parameters).bind fun _ => .pure _
  | first sql parameters =>
      exact (Database.first_attributes opened sql parameters).bind fun _ => .pure _
  | all sql parameters => exact (Database.all_attributes opened sql parameters).bind fun _ => .pure _
  | each sql parameters callback =>
      exact (Database.each_attributes opened sql parameters silent).bind fun _ => .pure _
  | script text => exact Database.script_attributes opened text
  | inTransaction => exact (Database.inTransaction_attributes opened).bind fun _ => .pure _
  | pragma name => exact (Database.pragma_attributes opened name).bind fun _ => .pure _
  | setPragma name value => exact Database.setPragma_attributes opened name value
  | enableForeignKeys enable => exact Database.setPragma_attributes opened _ _
  | foreignKeysEnabled => exact (database.foreignKeysEnabled_looks.attributes opened).bind fun _ => .pure _
  | onTable schema operation =>
      apply operation.perform_attributes opened schema silent
      rintro row rfl
      exact nomatch other
  | tableExists schema => exact ((schema.exists?_looks database).attributes opened).bind fun _ => .pure _
  | introspect schema => exact ((schema.introspect_looks database).attributes opened).bind fun _ => .pure _
  | matchesDatabase schema =>
      exact ((schema.matchesDatabase_looks database).attributes opened).bind fun _ => .pure _
  | migrate schema old => exact schema.migrate_attributes opened old
  | extend schema rows => exact (schema.extendAll_attributes opened rows).bind fun _ => .pure _
  | onMap table operation => exact operation.perform_attributes opened table

theorem perform_settled {operation : DatabaseOperation σ} (silent : operation.Silent)
    (engine : Engine τ) (state : σ) (start : τ) :
    ((operation.perform database).runOn engine state start).Attributed [] ∨
      operation.isUpsert = true ∧ ((operation.perform database).runOn engine state start).Recovered := by
  cases upserts : operation.isUpsert with
  | false => exact .inl (perform_attributes opened silent upserts engine state start)
  | true =>
      cases operation with
      | onTable schema operation =>
          cases operation with
          | upsert row =>
              simp only [perform, TableOperation.perform]
              rw [runOn_wrap engine state start (fun _ => ()) (schema.upsert database row)]
              rcases schema.upsert_settled opened row engine state start with attributed | recovered
              · exact .inl (attributed.map _ _ _)
              · exact .inr ⟨trivial, recovered.map _ _ _⟩
          | _ => exact nomatch upserts
      | _ => exact nomatch upserts

end DatabaseOperation

end

/-! ## Operations beside a statement and streams -/

/-- An operation on a database, or one that works on a statement or a stream. -/
inductive Operation (ι σ : Type) where
  | alone (operation : DatabaseOperation σ)
  | shared (call : Sharing.Call ι σ)

namespace Operation

/-- This action makes an operation. Callbacks change a state that is kept beside the streams. -/
def perform [DecidableEq ι] (database : Database) : Operation ι σ → Action (Sharing ι σ) Unit
  | .alone operation =>
      onPart Sharing.inner (fun sharing inner => { sharing with inner }) (operation.perform database)
  | .shared call => do let _ ← call.perform database

def Silent : Operation ι σ → Prop
  | .alone operation => operation.Silent
  | .shared call => call.Silent

/-- These operations work on the statement, some of them through a stream of its rows. -/
def reads : Operation ι σ → Bool
  | .alone _ => false
  | .shared call => !call.writes

def isUpsert : Operation ι σ → Bool
  | .alone operation => operation.isUpsert
  | .shared _ => false

/-- The exchanges of the statement and of the streams that read it. -/
def readings (turns : List (Turn (Operation ι σ) (Sharing ι σ) τ Unit)) : List Exchange :=
  Turn.exchanges (turns.filter fun turn => turn.call.reads)

/-- Operations on the statement go on with what was executed before. -/
def past (operation : Operation ι σ) (turns : List (Turn (Operation ι σ) (Sharing ι σ) τ Unit)) :
    List Exchange :=
  if operation.reads then readings turns else []

variable [DecidableEq ι] (engine : Engine τ) {database : Database} {connection : Connection}
  (opened : database.connection = some connection) {sharing : Sharing ι σ}
  {turns : List (Turn (Operation ι σ) (Sharing ι σ) τ Unit)} (operation : Operation ι σ)
  (start : τ) (kept : sharing.Kept (readings turns))

include opened kept

theorem performed_kept :
    ((operation.perform database).runOn engine sharing start).state.Kept
      (readings (turns ++
        [⟨operation, sharing, start, (operation.perform database).runOn engine sharing start⟩])) := by
  rw [readings, Turn.exchanges_filter_concat]
  cases operation with
  | alone operation =>
      rw [perform, runOn_onPart]
      exact ⟨(List.append_nil (readings turns)).symm ▸ kept.last, kept.sound, kept.usable⟩
  | shared call =>
      have after := kept.performed engine opened call start
      rw [perform, runOn_wrap engine sharing start (fun _ => ()) (call.perform database), reads]
      cases writes : call.writes with
      | true =>
          rw [writes] at after
          exact after
      | false =>
          rw [writes] at after
          exact after

theorem performed_settled (silent : operation.Silent)
    (live : operation.reads = true → sharing.statement.finalized = false) :
    ((operation.perform database).runOn engine sharing start).Attributed (operation.past turns) ∨
      operation.isUpsert = true ∧ ((operation.perform database).runOn engine sharing start).Recovered := by
  cases operation with
  | alone operation =>
      rw [perform, runOn_onPart]
      rcases operation.perform_settled opened silent engine sharing.inner start with
        attributed | ⟨upserts, recovered⟩
      · exact .inl (attributed.elsewhere _ _)
      · exact .inr ⟨upserts, recovered.once, recovered.own⟩
  | shared call =>
      have attributed := kept.attributed engine opened call start silent fun reading =>
        live (by rw [reads, reading, Bool.not_false])
      rw [perform, runOn_wrap engine sharing start (fun _ => ()) (call.perform database), past, reads]
      cases writes : call.writes with
      | true =>
          rw [writes] at attributed
          exact .inl (attributed.map _ _ _)
      | false =>
          rw [writes] at attributed
          exact .inl (attributed.map _ _ _)

omit opened kept in
/-- On a statement that is finalized, nothing fails. -/
theorem performed_faultless (reading : operation.reads = true)
    (ended : sharing.statement.finalized = true) :
    Faultless ((operation.perform database).runOn engine sharing start).exchanges := by
  cases operation with
  | alone operation => cases reading
  | shared call =>
      have refused := Sharing.performed_refused engine database ended call start
      rw [perform, runOn_wrap engine sharing start (fun _ => ()) (call.perform database)]
      cases call with
      | statement call =>
          simp only [Sharing.Refused] at refused
          rw [refused]
          exact .nil
      | reader index call =>
          simp only [Sharing.Refused] at refused
          rw [refused]
          exact .nil
      | writer | leave => cases reading

end Operation

/-! ## What comes of all operations -/

/-- A run raises the failure of the last statement that failed in it, with its text and parameters. -/
structure Run.RaisesLast {α : Type} (before : List Exchange) (run : Run σ τ α) : Prop where
  last : ∃ earlier failing later cause sql parameters,
    run.exchanges = earlier ++ failing :: later ∧ failing.fault? = some cause ∧ Faultless later ∧
    owner? (before ++ earlier) failing.request = some (sql, Database.driverParameters parameters) ∧
    run.outcome = .error (.engine cause.message sql parameters)

/-- The driver only fails with errors of its own. -/
def DriverErrors (exchanges : List Exchange) : Prop :=
  ∀ exchange ∈ exchanges, ∀ cause, exchange.fault? = some cause → cause.kind.isEngine = true

theorem Run.Attributed.raisesLast {α : Type} {before : List Exchange} {run : Run σ τ α}
    (attributed : run.Attributed before) (driver : DriverErrors run.exchanges)
    (fails : ¬ Faultless run.exchanges) : run.RaisesLast before := by
  cases attributed with
  | calm faultless own => exact absurd faultless fails
  | struck raises blamed =>
      obtain ⟨earlier, failing, later, cause, sql, parameters, split, fault, faultless, owned, rfl⟩ :=
        blamed.raised
      have own := driver failing (by simp [split]) cause fault
      refine ⟨earlier, failing, later, cause, sql, parameters, split, fault, faultless, owned, ?_⟩
      rw [raises, Failure.attach, if_pos own]

theorem Run.Attributed.calm_own {α : Type} {before : List Exchange} {run : Run σ τ α}
    (attributed : run.Attributed before) (faultless : Faultless run.exchanges) {failure : Failure}
    (raises : run.outcome = .error failure) : failure.isReported = false := by
  cases attributed with
  | calm _ own => exact own failure raises
  | struck _ blamed => exact absurd faultless blamed.not_faultless

namespace Operation

variable [DecidableEq ι]

/-- After any operations, one in which a statement fails raises the failure of the last such statement,
except that an upsert may go on after one violation of uniqueness. One in which no statement fails
raises no failure of the engine, unless its statement is finalized. Callbacks do not fail and do not use
the database, and the integers of the parameters are short enough to be shown. -/
theorem failure_attributed (engine : Engine τ) {database : Database} {connection : Connection}
    (opened : database.connection = some connection) (sql : String) (parameters : Value)
    (readers : ι → ReadStream) {table : Value} {replaces : Bool} {size : Int} {writer : WriteStream}
    (made : WriteStream.make table replaces size = .ok writer) (inner : σ) (start : τ)
    (operations : List (Operation ι σ)) {played}
    (plays : Action.plays engine (Operation.perform database) operations
      ⟨{ sql, parameters }, readers, writer, inner⟩ start = played)
    {operation : Operation ι σ} (silent : operation.Silent) {run}
    (runs : (operation.perform database).runOn engine played.state played.final = run)
    (driver : DriverErrors run.exchanges) :
    (¬ Faultless run.exchanges →
      run.RaisesLast (operation.past played.turns) ∨ operation.isUpsert = true ∧ run.Recovered) ∧
    (Faultless run.exchanges →
      (operation.reads = true → played.state.statement.finalized = false) →
      ∀ failure, run.outcome = .error failure → failure.isEngine = false) := by
  subst plays
  have kept := plays_keep engine (Operation.perform database)
    (fun turns sharing _ => sharing.Kept (readings turns))
    (fun turns sharing start operation kept => performed_kept engine opened operation start kept)
    operations ⟨{ sql, parameters }, readers, writer, inner⟩ start (Sharing.kept_nil made inner)
  have settles := performed_settled engine opened operation
    (Action.plays engine (Operation.perform database) operations
      ⟨{ sql, parameters }, readers, writer, inner⟩ start).final kept silent
  rw [runs] at settles
  constructor
  · intro fails
    -- On a statement that is finalized nothing is asked for, and so nothing fails.
    have live (reading : operation.reads = true) :
        (Action.plays engine (Operation.perform database) operations
          ⟨{ sql, parameters }, readers, writer, inner⟩ start).state.statement.finalized = false := by
      refine Bool.eq_false_iff.mpr fun ended => fails ?_
      rw [← runs]
      exact performed_faultless engine operation _ reading ended
    rcases settles live with attributed | recovered
    · exact .inl (attributed.raisesLast driver fails)
    · exact .inr recovered
  · intro faultless live failure raises
    rcases settles live with attributed | ⟨-, recovered⟩
    · exact Failure.not_isEngine (attributed.calm_own faultless raises)
    · exact Failure.not_isEngine (recovered.own failure raises)

/-! ## A shop that cannot roll back -/

/-- The second order is refused, and so is the end of its transaction. -/
def strandedScript : Script where
  replies := [{}, { failure := some ⟨.integrity, "UNIQUE constraint failed: orders.id"⟩ },
    { failure := some ⟨.operational, "disk I/O error"⟩ }]
  transactions := [false]

/-- An order waits. -/
def strandedPlayed : Played (Operation Bool Unit) (Sharing Bool Unit) Script Unit :=
  plays Script.engine (perform Sharing.shopDatabase)
    [.shared (.writer (.write Sharing.order))]
    ⟨{ sql := "SELECT n FROM shop" }, Sharing.shopReaders, Sharing.shopWriter, ()⟩ strandedScript

/-- The block around the stream ends. -/
def strandedRun : Run (Sharing Bool Unit) Script Unit :=
  (perform Sharing.shopDatabase (.shared (.leave false))).runOn Script.engine strandedPlayed.state
    strandedPlayed.final

theorem failure_attributed_shop :
    strandedRun.exchanges.filterMap fault? =
        [⟨.integrity, "UNIQUE constraint failed: orders.id"⟩, ⟨.operational, "disk I/O error"⟩] ∧
      strandedRun.outcome = .error (.engine "disk I/O error" "ROLLBACK" .null) ∧
      strandedRun.RaisesLast [] := by
  have faults : strandedRun.exchanges.filterMap fault? =
      [⟨.integrity, "UNIQUE constraint failed: orders.id"⟩, ⟨.operational, "disk I/O error"⟩] := by
    decide +kernel
  have driver : DriverErrors strandedRun.exchanges := by
    intro exchange member cause fails
    have inside : cause ∈ strandedRun.exchanges.filterMap fault? :=
      List.mem_filterMap.mpr ⟨exchange, member, fails⟩
    rw [faults] at inside
    rcases List.mem_pair.mp inside with rfl | rfl <;> rfl
  have fails : ¬ Faultless strandedRun.exchanges := by
    intro faultless
    rw [List.filterMap_eq_nil_iff.mpr faultless] at faults
    exact nomatch faults
  have made : WriteStream.make (.text "orders") false 2 = .ok Sharing.shopWriter := rfl
  have silent : (shared (.leave false) : Operation Bool Unit).Silent := trivial
  have opened : Sharing.shopDatabase.connection = some ⟨0⟩ := rfl
  refine ⟨faults, by decide +kernel, ?_⟩
  rcases (failure_attributed Script.engine opened "SELECT n FROM shop" .null Sharing.shopReaders made ()
    strandedScript [.shared (.writer (.write Sharing.order))] rfl silent rfl driver).1 fails with
      raises | ⟨upserts, -⟩
  · exact raises
  · exact nomatch upserts

end Operation

end Tabular
