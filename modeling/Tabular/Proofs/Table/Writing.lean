import Tabular.Proofs.Engine.Nesting
import Tabular.Proofs.Query.Computed
import Tabular.Proofs.Statement.Execution
import Tabular.Proofs.Table.Guarded
import Tabular.Proofs.Table.Identified

/-!
This module follows an upsert from statement to statement. It looks the row up and writes it, and where
the key was taken in between, it does so once more.
-/

namespace Tabular

open Tabular.Action Exchange

variable {σ τ α : Type}

/-- The values that come from tables. -/
def Value.isSqlite : Value → Bool
  | .null | .int _ | .float _ | .text _ | .bytes _ => true
  | _ => false

/-- A value that comes from a table is its own stored form. -/
theorem Value.stored_isSqlite {value : Value} (valid : value.isSqlite = true) :
    value.stored = .ok value := by
  cases value <;> first | rfl | exact nomatch valid

/-- A failure of the engine says that a key was taken. -/
def Failure.violates (failure : Failure) : Bool := failure.isEngine && failure.isUniqueViolation

/-- A failure that was not reported does not say that a key was taken. -/
theorem Failure.violates_own {failure : Failure} (own : failure.isReported = false) :
    failure.violates = false := by
  rw [violates, not_isEngine own, Bool.false_and]

/-- What a computation fails with is not reported by the engine. -/
theorem Computed.unreported {outcome : Except Failure α} (computed : Computed outcome)
    {failure : Failure} (failed : outcome = .error failure) : failure.isReported = false := by
  have own := computed failure failed
  simp only [Failure.isComputed, Bool.and_eq_true, Bool.not_eq_true'] at own
  exact own.1

/-- A statement with another first letter is no read. -/
theorem isRead_other {sql : String} {first : Char} (starts : sql.toList.head? = some first)
    (other : first ≠ 'S' ∧ first ≠ 'P') : isRead sql = false := by
  have apart (text : String) (begins : text.toList.head? = some 'P') : sql ≠ text := by
    rintro rfl
    exact other.2 (Option.some.inj (starts.symm.trans begins))
  obtain ⟨rest, split⟩ := List.head?_eq_some_iff.mp starts
  simp [isRead, readStarts, split, apart "PRAGMA foreign_keys" rfl,
    apart "PRAGMA legacy_alter_table" rfl, List.isPrefixOf, Ne.symm other.1, Ne.symm other.2]

/-! ## Moves -/

/-- A statement that was executed, with the row that was asked for right after it. -/
structure Move extends Execution where
  fetched : Option (Except Outside (Option Row))

namespace Move

def isLookup (move : Move) : Bool := isRead move.sql

def isWrite (move : Move) : Bool := !isRead move.sql

def isInsertion (move : Move) : Bool := "INSERT ".toList.isPrefixOf move.sql.toList

/-- The failure of the statement, or of the row that was asked for. -/
def fault? (move : Move) : Option Outside :=
  match move.answer, move.fetched with
  | .error cause, _ => some cause
  | .ok _, some (.error cause) => some cause
  | .ok _, _ => none

/-- What the statement found, where it was asked for a row and did not fail. -/
def found? (move : Move) : Option (Option Row) :=
  match move.answer, move.fetched with
  | .ok _, some (.ok found) => some found
  | _, _ => none

/-- The row that was found, if there is one, holds values that come from tables. -/
def findsSqlite (move : Move) : Bool :=
  match move.found? with
  | some (some stored) => stored.all fun entry => entry.2.isSqlite
  | _ => true

def isWritten (move : Move) : Bool := move.isWrite && move.fault?.isNone

/-- The failure that is raised where a statement failed. -/
def Fails (move : Move) (failure : Failure) : Prop :=
  ∃ cause parameters, move.fault? = some cause ∧
    move.parameters = Database.driverParameters parameters ∧
    failure = (Failure.outside cause).attach move.sql parameters

/-- A lookup is no insertion. -/
theorem isInsertion_lookup {move : Move} (reads : move.isLookup = true) :
    move.isInsertion = false := by
  by_contra inserts
  rw [Bool.not_eq_false, isInsertion, List.isPrefixOf_iff_prefix] at inserts
  obtain ⟨rest, split⟩ := inserts
  have starts : move.sql.toList.head? = some 'I' := by rw [← split]; rfl
  exact nomatch reads.symm.trans (isRead_other starts (by decide))

/-- A lookup is no write. -/
theorem isWrite_lookup {move : Move} (reads : move.isLookup = true) : move.isWrite = false := by
  rw [Move.isWrite, Bool.not_eq_false']
  exact reads

/-- A move that fails has a fault. -/
theorem Fails.isFault {move : Move} {failure : Failure} (fails : move.Fails failure) :
    move.fault?.isNone = false := by
  obtain ⟨cause, parameters, fault, -⟩ := fails
  rw [fault]
  rfl

/-- A move that found something has no fault. -/
theorem fault?_found {move : Move} {found : Option Row} (finds : move.found? = some found) :
    move.fault? = none := by
  unfold Move.found? at finds
  unfold Move.fault?
  split at finds
  · next answered fetched => rw [answered, fetched]
  · exact nomatch finds

/-- A write is no lookup. -/
theorem isLookup_write {move : Move} (isWrite : move.isWrite = true) : move.isLookup = false := by
  rw [Move.isWrite, Bool.not_eq_true'] at isWrite
  exact isWrite

end Move

namespace Exchange

def fetchedFirst? : List Exchange → Option (Except Outside (Option Row))
  | ⟨.fetchOne _, found⟩ :: _ => some found
  | _ => none

/-- All that was executed, in its order, each statement with the row that was asked for. A script counts
as a write. -/
def moves : List Exchange → List Move
  | [] => []
  | ⟨.execute _ sql parameters, .ok result⟩ :: rest =>
      ⟨⟨sql, parameters, .ok result⟩, fetchedFirst? rest⟩ :: moves rest
  | ⟨.execute _ sql parameters, .error cause⟩ :: rest =>
      ⟨⟨sql, parameters, .error cause⟩, none⟩ :: moves rest
  | ⟨.script _ text, answer⟩ :: rest =>
      ⟨⟨text, .tuple [], answer.map fun _ => ⟨none, 0⟩⟩, none⟩ :: moves rest
  | _ :: rest => moves rest

/-- A log line has no part in what was fetched. -/
theorem fetchedFirst?_log (first : List Exchange) (entry : LogRecord) (rest : List Exchange) :
    fetchedFirst? (first ++ ⟨.log entry, ()⟩ :: rest) = fetchedFirst? first := by
  cases first with
  | nil => rfl
  | cons exchange others =>
      obtain ⟨request, answer⟩ := exchange
      cases request <;> rfl

/-- A record stands between the statements before it and those after it. -/
theorem moves_log (first : List Exchange) (entry : LogRecord) (rest : List Exchange) :
    moves (first ++ ⟨.log entry, ()⟩ :: rest) = moves first ++ moves rest := by
  induction first with
  | nil => rfl
  | cons exchange others inductionHypothesis =>
      obtain ⟨request, answer⟩ := exchange
      cases request with
      | execute cursor sql parameters =>
          cases answer with
          | error cause => exact congrArg (_ :: ·) inductionHypothesis
          | ok result =>
              rw [List.cons_append, moves, fetchedFirst?_log, inductionHypothesis]
              rfl
      | script connection text => exact congrArg (_ :: ·) inductionHypothesis
      | _ => exact inductionHypothesis

end Exchange

/-! ## What comes of a lookup -/

namespace Schema

/-- A lookup is refused, or its statement fails, or no row can be fetched, or there is an answer. -/
inductive Looked (connection : Connection) (state : σ) : Run σ τ (Option Row) → Prop where
  | refused {failure : Failure} (own : failure.isReported = false) (final : τ) :
      Looked connection state ⟨.error failure, state, final, []⟩
  | failed {bound : BoundText} (read : isRead bound.sql = true) (cursor : Cursor) (cause : Outside)
      (final : τ) :
      Looked connection state
        ⟨.error ((Failure.outside cause).attach bound.sql bound.parameters), state, final,
          Database.executed connection bound.sql bound.parameters cursor (.error cause)⟩
  | fetched {bound : BoundText} (read : isRead bound.sql = true) (cursor : Cursor) (result : RunResult)
      (found : Except Outside (Option Row)) (final : τ) :
      Looked connection state
        ⟨Statement.raised bound.sql bound.parameters found, state, final,
          Database.executed connection bound.sql bound.parameters cursor (.ok result) ++
            [⟨.fetchOne cursor, found⟩]⟩

variable {schema : Schema} {database : Database} {connection : Connection}
  (opened : database.connection = some connection) (engine : Engine τ) (state : σ) (start : τ)

include opened in
/-- Reading a stored row is a lookup. -/
theorem storedRow_looked (filter : Value) :
    Looked connection state ((schema.storedRow database filter).runOn engine state start) := by
  rw [storedRow, runOn_bind, runOn_lift]
  cases found : schema.find filter with
  | error failure => exact .refused ((schema.find_computed filter).unreported found) start
  | ok query =>
      simp only [Run.follow, Query.first, runOn_bind, runOn_lift]
      cases built : query.selectStatement with
      | error failure => exact .refused (query.selectStatement_computed.unreported built) start
      | ok bound =>
          have read := query.selectStatement_isRead built
          obtain ⟨cursor, answer, final, -, executes⟩ :=
            Database.runOn_execute engine state start opened bound.sql bound.parameters
          simp only [Database.first, runOn_bind, executes]
          cases answer with
          | error cause => exact .failed read cursor cause final
          | ok result =>
              simp only [Run.follow, runOn_bind, runOn_fetchOne, Statement.runOn_attached]
              exact .fetched read cursor result _ _

/-! ## What comes of a write -/

/-- The column and the value by which a stored row is updated. They are its primary key, and without one
they are those by which the row was looked up. -/
inductive Identifies (schema : Schema) (filter : Value) (stored : Row) : String → Value → Prop where
  | primary {name : String} {value : Value} (key : schema.keyColumn? = some (.text name))
      (has : (Value.map stored).columnValue (.text name) = .ok value) :
      Identifies schema filter stored name value
  | looked {name : String} {value kept : Value} (keyless : schema.keyColumn? = none)
      (same : filter = .map [(.text name, value)]) (keeps : value.stored = .ok kept) :
      Identifies schema filter stored name kept

/-- A row that was not found is inserted, and one that was found is updated. -/
inductive WritesOver (schema : Schema) (filter : Value) : Option Row → Move → Prop where
  | insertion {move : Move} (starts : ("INSERT INTO " ++ schema.name.toText).toList <+: move.sql.toList) :
      WritesOver schema filter none move
  | update {stored : Row} {move : Move} {name : String} {value : Value}
      (identifies : schema.Identifies filter stored name value)
      (changes : Query.ChangesWhere schema.name.toText name value move.sql move.parameters) :
      WritesOver schema filter (some stored) move

namespace WritesOver

variable {filter : Value} {found : Option Row} {move : Move}

/-- Writing over a row is a write. -/
theorem isWrite (writes : schema.WritesOver filter found move) : move.isWrite = true := by
  rw [Move.isWrite, Bool.not_eq_true']
  cases writes with
  | insertion starts =>
      obtain ⟨rest, split⟩ := starts
      have first : move.sql.toList.head? = some 'I' := by rw [← split]; simp
      exact isRead_other first (by decide)
  | update identifies changes =>
      obtain ⟨text, split⟩ := changes.text
      have first : move.sql.toList.head? = some 'U' := by rw [split]; simp
      exact isRead_other first (by decide)

/-- It is an insertion exactly when no row was found. -/
theorem isInsertion (writes : schema.WritesOver filter found move) : move.isInsertion = found.isNone := by
  cases writes with
  | insertion starts =>
      rw [Move.isInsertion, List.isPrefixOf_iff_prefix.mpr]
      · rfl
      · exact (by simp : "INSERT ".toList <+: ("INSERT INTO " ++ schema.name.toText).toList).trans starts
  | update identifies changes =>
      obtain ⟨text, split⟩ := changes.text
      rw [Move.isInsertion, split]
      simp [List.isPrefixOf]

end WritesOver

/-- What comes of writing over what was found. After an original failure a row that is missing is not
inserted, and the failure is raised again. -/
inductive Written (schema : Schema) (filter : Value) (original : Option Failure) (found : Option Row) :
    List Move → Except Failure Value → Prop where
  | refused {failure : Failure} (known : original.isSome = true → found.isSome = true)
      (own : failure.violates = false) : Written schema filter original found [] (.error failure)
  | missing {failure : Failure} (again : original = some failure) (absent : found = none) :
      Written schema filter original found [] (.error failure)
  | failed {move : Move} {failure : Failure} (writes : schema.WritesOver filter found move)
      (known : original.isSome = true → found.isSome = true) (fails : move.Fails failure) :
      Written schema filter original found [move] (.error failure)
  | done {move : Move} {value : Value} (writes : schema.WritesOver filter found move)
      (known : original.isSome = true → found.isSome = true) (calm : move.fault? = none) :
      Written schema filter original found [move] (.ok value)

section

variable {filter : Value} {original : Option Failure} {found : Option Row}

include opened in
/-- A statement that is built without the engine is refused, or it is executed once. -/
theorem stated_written {built : Except Failure BoundText} (computed : Computed built)
    (writes : ∀ bound, built = .ok bound → ∀ move : Move, move.sql = bound.sql →
      move.parameters = Database.driverParameters bound.parameters → schema.WritesOver filter found move)
    (known : original.isSome = true → found.isSome = true) {returned : RunResult → Except Failure Value}
    (returns : ∀ result, ∃ value, returned result = .ok value) {run : Run σ τ Value}
    (runs : (do
      let bound ← (built : Except Failure BoundText)
      let result ← database.run bound.sql bound.parameters
      (returned result : Except Failure Value) : Action σ Value).runOn engine state start = run) :
    Written schema filter original found (moves run.exchanges) run.outcome := by
  cases isBuilt : built with
  | error failure =>
      rw [isBuilt] at runs
      subst runs
      exact .refused known (Failure.violates_own (computed.unreported isBuilt))
  | ok bound =>
      obtain ⟨cursor, answer, final, executes⟩ :=
        Database.runOn_run engine opened state start bound.sql bound.parameters
      rw [isBuilt] at runs
      simp only [runOn_bind, runOn_lift, Run.follow, executes, List.nil_append] at runs
      cases answer with
      | error cause =>
          subst runs
          exact .failed (writes bound isBuilt _ rfl rfl) known ⟨cause, bound.parameters, rfl, rfl, rfl⟩
      | ok result =>
          obtain ⟨value, same⟩ := returns result
          simp only [Except.mapError, same] at runs
          subst runs
          exact .done (writes bound isBuilt _ rfl rfl) known rfl

/-- Adding the new key to a row always returns. -/
theorem withNewKey_returns (schema : Schema) (entries : Row) (result : RunResult) :
    ∃ value, schema.withNewKey (.map entries) result = .ok value := by
  rw [withNewKey]
  cases schema.keyColumn? with
  | none => exact ⟨_, rfl⟩
  | some key =>
      dsimp only
      split <;> exact ⟨_, rfl⟩

/-- Where an update of one row is built, it is restricted to that row. -/
theorem updates_keyed {stored : Row} {column value kept : Value} (keeps : value.stored = .ok kept)
    (identifies : ∀ name, column = .text name → schema.Identifies filter stored name kept) {row : Value}
    {bound : BoundText}
    (built : (Query.keyed schema.name column value).updateStatement row = .ok bound) {move : Move}
    (same : move.sql = bound.sql) (shown : move.parameters = Database.driverParameters bound.parameters) :
    schema.WritesOver filter (some stored) move := by
  obtain ⟨name, isName, -, changes⟩ := Query.updateStatement_keyed keeps built
  refine .update (identifies name isName) ⟨same ▸ changes.text, ?_⟩
  obtain ⟨others, bounds⟩ := changes.bound
  exact ⟨others, by rw [shown, bounds]; rfl⟩

include opened in
/-- Writing over what was found makes one write, and its outcome is what comes of it. -/
theorem writeOver_written {entries : Row} {column value : Value}
    (has : entries.get? column = some value)
    (sqlite : ∀ stored, found = some stored → ∀ entry ∈ stored, entry.2.isSqlite = true)
    (known : original.isSome = true → found.isSome = true) {run : Run σ τ Value}
    (runs : (schema.writeOver database (.map [(column, value)]) (.map entries) found).runOn engine state
      start = run) :
    Written schema (.map [(column, value)]) original found (moves run.exchanges) run.outcome := by
  cases found with
  | none =>
      simp only [writeOver, insert, bind_assoc] at runs
      refine stated_written opened engine state start (schema.insertStatement_computed _) ?_ known
        (schema.withNewKey_returns entries) runs
      intro bound built move same _
      exact .insertion (same ▸ schema.insertStatement_starts built)
  | some stored =>
      have merges (result : RunResult) : ∃ merged, (Value.map entries).mergedOver stored = .ok merged :=
        ⟨_, rfl⟩
      -- The row is updated by its primary key, or without one by the column of the lookup.
      cases key : schema.keyColumn? with
      | none =>
          simp only [writeOver, key, updateWhere, find_entry, Query.update, bind_assoc] at runs
          refine stated_written opened engine state start (Query.updateStatement_computed _ _) ?_ known
            merges runs
          intro bound built move same shown
          obtain ⟨_, isMap, each⟩ := Query.updateStatement_stores built
          obtain rfl := Value.map.inj isMap
          obtain ⟨entry, member, rfl⟩ := Keyed.get?_eq_some has
          obtain ⟨kept, keeps⟩ := each entry member
          refine updates_keyed keeps ?_ built same shown
          rintro name rfl
          exact .looked key rfl keeps
      | some name =>
          have looked := Value.columnValue_computed (.map stored) name
          simp only [writeOver, key, updateWhere, find_entry, Query.update, bind_assoc] at runs
          cases given : (Value.map stored).columnValue name with
          | error failure =>
              rw [given] at runs
              subst runs
              exact .refused known (Failure.violates_own (looked.unreported given))
          | ok kept =>
              rw [given] at runs
              refine stated_written opened engine state start (Query.updateStatement_computed _ _) ?_
                known merges runs
              intro bound built move same shown
              obtain ⟨_, isMap, found⟩ := Value.columnValue_eq_ok given
              obtain rfl := Value.map.inj isMap
              obtain ⟨entry, member, rfl⟩ := Keyed.get?_eq_some found
              refine updates_keyed (Value.stored_isSqlite (sqlite stored rfl entry member)) ?_ built same
                shown
              rintro name rfl
              exact .primary key given

/-! ## What comes of both -/

/-- What comes of looking a row up and writing over what was found. -/
inductive Attempt (schema : Schema) (filter : Value) (original : Option Failure) :
    List Move → Except Failure Value → Prop where
  | refused {failure : Failure} (own : failure.violates = false) :
      Attempt schema filter original [] (.error failure)
  | failed {lookup : Move} {failure : Failure} (reads : lookup.isLookup = true)
      (fails : lookup.Fails failure) : Attempt schema filter original [lookup] (.error failure)
  | found {lookup : Move} {found : Option Row} {rest : List Move} {outcome : Except Failure Value}
      (reads : lookup.isLookup = true) (finds : lookup.found? = some found)
      (written : Written schema filter original found rest outcome) :
      Attempt schema filter original (lookup :: rest) outcome

include opened in
/-- A lookup and what writes over its answer make an attempt. -/
theorem attempt_made {next : Option Row → Action σ Value}
    (writes : ∀ found, (∀ stored, found = some stored → ∀ entry ∈ stored, entry.2.isSqlite = true) →
      ∀ state start {run : Run σ τ Value}, (next found).runOn engine state start = run →
        Written schema filter original found (moves run.exchanges) run.outcome)
    {run : Run σ τ Value}
    (runs : (schema.storedRow database filter >>= next).runOn engine state start = run)
    (sqlite : ∀ move ∈ moves run.exchanges, move.findsSqlite = true) :
    Attempt schema filter original (moves run.exchanges) run.outcome := by
  have looked : Looked connection state ((schema.storedRow database filter).runOn engine state start) :=
    storedRow_looked opened engine state start filter
  rw [runOn_bind] at runs
  generalize (schema.storedRow database filter).runOn engine state start = first at looked runs
  cases looked with
  | refused own final =>
      subst runs
      exact .refused (Failure.violates_own own)
  | failed read cursor cause final =>
      subst runs
      exact .failed read ⟨cause, _, rfl, rfl, rfl⟩
  | fetched read cursor result reply final =>
      cases reply with
      | error cause =>
          subst runs
          exact .failed read ⟨cause, _, rfl, rfl, rfl⟩
      | ok found =>
          simp only [Run.follow, Statement.raised] at runs
          generalize ran : (next found).runOn engine state final = rest at runs
          subst runs
          refine .found read rfl (writes found ?_ state final ran)
          rintro stored rfl
          exact List.all_eq_true.mp (sqlite _ List.mem_cons_self)

end

/-! ## Upserts -/

section

variable {row : Value} {run : Run σ τ Value}

/-- This action looks a row up again after a failure, and updates it if it is there. -/
def retry (schema : Schema) (database : Database) (filter row : Value) (failure : Failure) :
    Action σ Value := do
  match ← schema.storedRow database filter with
  | none => throw failure
  | some stored => schema.writeOver database filter row (some stored)

/-- An upsert tries once, and looks the row up again where a key was taken. -/
theorem upsert_eq {filter : Value} (looked : schema.lookup row = .ok filter) :
    (schema.upsert database row : Action σ Value) = (do
      match ← attempt (schema.tryUpsert database filter row) with
      | .ok result => pure result
      | .error failure =>
          if failure.violates then
            log .warning rowLogger ("Row " ++ filter.literal ++ " inserted concurrently into " ++
              schema.name.toText ++ ", updating instead")
            schema.retry database filter row failure
          else throw failure) := by
  rw [upsert, looked]
  rfl

/-- An upsert is one attempt, or two where the first one failed because a key was taken. -/
theorem upsert_cases {filter : Value} (looked : schema.lookup row = .ok filter)
    (runs : (schema.upsert database row).runOn engine state start = run)
    {first : Run σ τ Value}
    (tries : (schema.tryUpsert database filter row).runOn engine state start = first) :
    (moves run.exchanges = moves first.exchanges ∧ run.outcome = first.outcome ∧
        ∀ failure, first.outcome = .error failure → failure.violates = false) ∨
      ∃ failure middle second, first.outcome = .error failure ∧ failure.violates = true ∧
        (schema.retry database filter row failure).runOn engine first.state middle = second ∧
        moves run.exchanges = moves first.exchanges ++ moves second.exchanges ∧
        run.outcome = second.outcome := by
  rw [upsert_eq looked, runOn_bind, runOn_attempt, tries, Run.follow] at runs
  obtain ⟨outcome, after, final, exchanges⟩ := first
  cases outcome with
  | ok result =>
      subst runs
      refine .inl ⟨by simp, rfl, ?_⟩
      rintro _ ⟨⟩
  | error failure =>
      cases taken : failure.violates with
      | false =>
          simp only [taken, Bool.false_eq_true, if_false] at runs
          subst runs
          refine .inl ⟨by simp, rfl, ?_⟩
          rintro _ ⟨⟩
          exact taken
      | true =>
          simp only [taken, if_true, runOn_bind, runOn_log, Run.follow] at runs
          subst runs
          refine .inr ⟨failure, _, _, rfl, taken, rfl, ?_, rfl⟩
          exact moves_log _ _ _

section

variable {entries : Row} {column value : Value} (has : entries.get? column = some value)

include opened has

/-- The first round is an attempt without an original failure. -/
theorem tryUpsert_attempt
    (runs : (schema.tryUpsert database (.map [(column, value)]) (.map entries)).runOn engine state start =
      run) (sqlite : ∀ move ∈ moves run.exchanges, move.findsSqlite = true) :
    schema.Attempt (.map [(column, value)]) none (moves run.exchanges) run.outcome := by
  refine attempt_made opened engine state start ?_ runs sqlite
  intro found valid state start run ran
  exact writeOver_written opened engine state start has valid (by simp) ran

/-- The second round is an attempt with the original failure. -/
theorem retry_attempt {failure : Failure}
    (runs : (schema.retry database (.map [(column, value)]) (.map entries) failure).runOn engine state
      start = run) (sqlite : ∀ move ∈ moves run.exchanges, move.findsSqlite = true) :
    schema.Attempt (.map [(column, value)]) (some failure) (moves run.exchanges) run.outcome := by
  refine attempt_made opened engine state start ?_ runs sqlite
  intro found valid state start run ran
  cases found with
  | none =>
      subst ran
      exact .missing rfl rfl
  | some stored => exact writeOver_written opened engine state start has valid (fun _ => rfl) ran

end

end

end Schema

end Tabular
