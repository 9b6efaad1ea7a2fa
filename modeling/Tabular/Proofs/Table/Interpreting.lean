import Tabular.Proofs.Engine.Replies
import Tabular.Proofs.Filter.Acceptance
import Tabular.Proofs.Table.Once

/-!
This module tells how the key of a row is taken when the row is looked up. Most keys are compared as they
are stored, but a text that begins with a dollar is refused, and a mapping that names a comparison is
carried out as one.
-/

namespace Tabular

open Tabular.Action Exchange

variable {σ τ α β : Type}

/-! ## Which keys are read as filters -/

namespace Query

variable {table column value : Value}

/-- The row of an entry is selected exactly where the entry is a filter. -/
theorem selectStatement_keyed_iff :
    (∃ bound, (keyed table column value).selectStatement = .ok bound) ↔
      table.isTrue = true ∧ Filter.EntryGrammar column value := by
  constructor
  · rintro ⟨bound, built⟩
    obtain ⟨binder, run, -⟩ := finish_eq_ok built
    obtain ⟨written, _, done, -⟩ := Binding.runWith_bind_eq_ok run
    obtain ⟨named, filter, reads⟩ := clauses_reads done
    exact ⟨named, reads.grammar⟩
  · rintro ⟨named, grammar⟩
    obtain ⟨filter, reads⟩ := grammar.reads
    obtain ⟨written, binder, done⟩ := clauses_written named reads
    exact ⟨_, finish_ok (Binding.runWith_bind_ok done)⟩

/-- An update of the row is refused where the entry is no filter. -/
theorem updateStatement_grammar {row : Value} {bound : BoundText}
    (built : (keyed table column value).updateStatement row = .ok bound) :
    table.isTrue = true ∧ Filter.EntryGrammar column value := by
  obtain ⟨binder, run, -⟩ := finish_eq_ok built
  obtain ⟨written, _, done, -⟩ := Binding.runWith_bind_eq_ok run
  obtain ⟨named, filter, reads⟩ := clauses_reads done
  exact ⟨named, reads.grammar⟩

/-- New values are refused only where one of them cannot be kept. -/
theorem assignments_error {entries : List (Value × Value)} {failure : Failure} {binder last : Binder}
    (refused : (assignments entries).runWith binder = (.error failure, last)) :
    ∃ entry ∈ entries, entry.2.stored = .error failure := by
  induction entries generalizing binder last with
  | nil => cases (Prod.mk.inj refused).1
  | cons entry rest inductionHypothesis =>
      obtain ⟨column, value⟩ := entry
      rw [assignments, Binding.runWith_bind] at refused
      cases kept : value.stored with
      | error other =>
          rw [Binding.runWith_add_error kept] at refused
          obtain rfl := Except.error.inj (Prod.mk.inj refused).1
          exact ⟨(column, value), List.mem_cons_self, kept⟩
      | ok stored =>
          rw [Binding.runWith_add kept] at refused
          dsimp only at refused
          rw [Binding.runWith_bind] at refused
          rcases others : (assignments rest).runWith ⟨binder.values ++ [stored]⟩ with ⟨result, last⟩
          rw [others] at refused
          cases result with
          | ok changes => cases (Prod.mk.inj refused).1
          | error other =>
              obtain rfl := Except.error.inj (Prod.mk.inj refused).1
              obtain ⟨entry, member, fails⟩ := inductionHypothesis others
              exact ⟨entry, List.mem_cons_of_mem _ member, fails⟩

/-- A statement that does not finish fails as its binding does. -/
theorem finish_eq_error {step : Binding String} {failure : Failure}
    (refused : finish step = .error failure) :
    ∃ binder, step.runWith .empty = (.error failure, binder) := by
  rw [finish] at refused
  split at refused
  · cases refused
  · next other binder run =>
      obtain rfl := Except.error.inj refused
      exact ⟨binder, run⟩

/-- Where a row can be found by its key, its update is refused only for a value that cannot be kept. -/
theorem updateStatement_keyed_error {name : String} {stored : Value} {entries : Row} {failure : Failure}
    (comparable : Comparable table name value) (kept : value.stored = .ok stored)
    (filled : entries ≠ [])
    (refused : (keyed table (.text name) value).updateStatement (.map entries) = .error failure) :
    ∃ entry ∈ entries, entry.2.stored = .error failure := by
  have written : (clauses (keyed table (.text name) value)).runWith .empty =
      (.ok (plainClauses "*" ("FROM " ++ table.toText) (conditionText name)), ⟨[stored]⟩) :=
    clauses_withValue comparable.named comparable.column comparable.operand kept
  have accepted : (liftM (rejectAll "update" (plainClauses "*" ("FROM " ++ table.toText)
      (conditionText name))) : Binding Unit).runWith ⟨[stored]⟩ = (.ok (), ⟨[stored]⟩) := rfl
  obtain ⟨binder, run⟩ := finish_eq_error refused
  rw [Binding.runWith_bind_ok written, Binding.runWith_bind_ok accepted,
    if_pos (Value.isTrue_map.mpr filled)] at run
  dsimp only at run
  rw [Binding.runWith_bind] at run
  rcases assigned : (assignments entries).runWith ⟨[stored]⟩ with ⟨result, last⟩
  rw [assigned] at run
  cases result with
  | ok changes => exact nomatch (Prod.mk.inj run).1
  | error other =>
      obtain rfl := Except.error.inj (Prod.mk.inj run).1
      exact assignments_error assigned

end Query

/-- A value that can be kept is compared with a column unless it is a text that begins with a dollar. -/
theorem Value.isOperand_kept {value stored : Value} (kept : value.stored = .ok stored)
    (present : stored ≠ .null) :
    value.isOperand = true ↔ ∀ content, value = .text content → ¬ ['$'] <+: content.toList := by
  rw [Filter.isOperand_iff]
  constructor
  · rintro valid content rfl
    cases valid with
    | text plain => exact plain
  · intro plain
    cases value with
    | null => exact absurd (Except.ok.inj kept).symm present
    | text content => exact .text (plain content rfl)
    | bool | int | float | bytes | date | moment => constructor
    | _ => exact nomatch kept

/-- All rows that an action reads are read by one statement. -/
def Action.ReadsBy (lookup : String × Value) (action : Action σ α) : Prop :=
  ∀ ⦃τ : Type⦄ (engine : Engine τ) state start,
    ∀ statement ∈ statements (action.runOn engine state start).exchanges,
      isRead statement.1 = true → statement = lookup

namespace Action.ReadsBy

variable {lookup : String × Value} {action : Action σ α} {next : α → Action σ β}

theorem lift (outcome : Except Failure α) : ReadsBy lookup (liftM outcome : Action σ α) :=
  fun _ _ _ _ => List.forall_mem_nil _

theorem log (level : Level) (logger message : String) :
    ReadsBy lookup (Action.log level logger message : Action σ Unit) :=
  fun _ _ _ _ => List.forall_mem_nil _

/-- Two actions that read by a column read by it one after the other. -/
theorem bind (first : ReadsBy lookup action) (rest : ∀ value, ReadsBy lookup (next value)) :
    ReadsBy lookup (action >>= next) := by
  intro τ engine state start
  rw [runOn_bind, Run.follow]
  split
  · rw [statements_append]
    exact List.forall_mem_append.mpr ⟨first engine state start, rest _ engine _ _⟩
  · exact first engine state start

/-- What follows a computation starts from its value. -/
theorem lifted {outcome : Except Failure α}
    (rest : ∀ value, outcome = .ok value → ReadsBy lookup (next value)) :
    ReadsBy lookup ((liftM outcome : Action σ α) >>= next) := by
  cases outcome with
  | ok value => exact rest value rfl
  | error failure => exact lift (.error failure)

theorem attempt (reads : ReadsBy lookup action) : ReadsBy lookup (Action.attempt action) := by
  intro τ engine state start
  rw [runOn_attempt]
  exact reads engine state start

/-- A statement that reads nothing may be run. -/
theorem run {database : Database} {connection : Connection}
    (opened : database.connection = some connection) {sql : String} {first : Char}
    (starts : sql.toList.head? = some first) (other : first ≠ 'S' ∧ first ≠ 'P') (parameters : Value) :
    ReadsBy lookup (database.run sql parameters : Action σ RunResult) := by
  intro τ engine state start
  obtain ⟨cursor, answer, final, executes⟩ := Database.runOn_run engine opened state start sql parameters
  rw [executes]
  refine List.forall_mem_singleton.mpr fun reads => ?_
  exact absurd (reads.symm.trans (isRead_other starts other)) (by decide)

end Action.ReadsBy

/-- A call fails before it asks anything of the engine. -/
def Run.RefusedAtOnce (run : Run σ τ α) : Prop :=
  run.exchanges = [] ∧ ∃ failure, run.outcome = .error failure

namespace Schema

/-! ## What is executed -/

section Lookups

variable {schema : Schema} {database : Database} {connection : Connection}
  (engine : Engine τ) (state : σ) (start : τ) {row column value : Value}

/-- A lookup that is built is the only statement that is executed. -/
theorem storedRow_executes (opened : database.connection = some connection) {bound : BoundText}
    (built : (Query.keyed schema.name column value).selectStatement = .ok bound) :
    statements ((schema.storedRow database (.map [(column, value)]) : Action σ (Option Row)).runOn engine
      state start).exchanges = [(bound.sql, Database.driverParameters bound.parameters)] := by
  obtain ⟨cursor, answer, final, -, executes⟩ :=
    Database.runOn_execute engine state start opened bound.sql bound.parameters
  simp only [storedRow, find_entry, Query.first, runOn_bind, runOn_lift, Run.follow, built,
    Database.first, executes]
  cases answer with
  | error cause => rfl
  | ok result =>
      simp only [runOn_fetchOne, Statement.runOn_attached]
      rfl

/-- A lookup whose statement cannot be written is refused without a request. -/
theorem storedRow_refused {failure : Failure}
    (refused : (Query.keyed schema.name column value).selectStatement = .error failure) :
    (schema.storedRow database (.map [(column, value)]) : Action σ (Option Row)).runOn engine state
      start = ⟨.error failure, state, start, []⟩ := by
  simp only [storedRow, find_entry, Query.first, runOn_bind, runOn_lift, Run.follow, refused]
  rfl

variable (looked : schema.lookup row = .ok (.map [(column, value)]))

include looked

/-- Completing a row reads the stored one and lays the row over it. -/
theorem extend_eq :
    (schema.extend database row : Action σ Value) = (do
      let stored ← schema.storedRow database (.map [(column, value)])
      (row.mergedOver (stored.getD []) : Except Failure Value)) := by
  rw [extend, looked]
  rfl

/-- An update by the lookup column updates a query for it. -/
theorem updateUnique_eq :
    (schema.updateUnique database row : Action σ RunResult) =
      (Query.keyed schema.name column value).update database row := by
  rw [updateUnique, looked]
  rfl

/-- A row is completed with what its lookup finds, and nothing else is executed. -/
theorem extend_exchanges :
    ((schema.extend database row : Action σ Value).runOn engine state start).exchanges =
      ((schema.storedRow database (.map [(column, value)]) : Action σ (Option Row)).runOn engine state
        start).exchanges := by
  rw [extend_eq looked, runOn_bind]
  rcases (schema.storedRow database (.map [(column, value)])).runOn engine state start with
    ⟨outcome, _, _, exchanges⟩
  cases outcome with
  | ok found => exact List.append_nil exchanges
  | error failure => rfl

/-- An upsert begins with its lookup. -/
theorem upsert_exchanges :
    ((schema.storedRow database (.map [(column, value)]) : Action σ (Option Row)).runOn engine state
      start).exchanges <+:
      ((schema.upsert database row : Action σ Value).runOn engine state start).exchanges := by
  rw [upsert_eq looked, runOn_bind, runOn_attempt, tryUpsert, runOn_bind]
  exact (Run.follow_exchanges _ _).trans (List.prefix_append _ _)

omit looked in
/-- What is written over a found row reads nothing. -/
theorem writeOver_readsBy (opened : database.connection = some connection) (lookup : String × Value)
    (filter row : Value) (found : Option Row) :
    ReadsBy lookup (schema.writeOver database filter row found : Action σ Value) := by
  have updates (filter : Value) :
      ReadsBy lookup (schema.updateWhere database filter row : Action σ RunResult) := by
    refine .lifted fun query _ => .lifted fun bound built => ?_
    obtain ⟨rest, split⟩ := query.updateStatement_starts built
    have starts : bound.sql.toList.head? = some 'U' := by rw [← split]; rfl
    exact .run opened starts (by decide) bound.parameters
  cases found with
  | none =>
      refine .bind (.lifted fun bound built => ?_) fun _ => .lift _
      obtain ⟨rest, split⟩ := schema.insertStatement_starts built
      have starts : bound.sql.toList.head? = some 'I' := by rw [← split]; simp
      exact .run opened starts (by decide) bound.parameters
  | some stored =>
      rw [writeOver]
      split
      · exact .lifted fun value _ => .bind (updates _) fun _ => .lift _
      · exact .bind (updates _) fun _ => .lift _

/-- An upsert reads rows by its lookup only, when the row is looked up again, too. -/
theorem upsert_readsBy (opened : database.connection = some connection) {bound : BoundText}
    (built : (Query.keyed schema.name column value).selectStatement = .ok bound) :
    ReadsBy (bound.sql, Database.driverParameters bound.parameters)
      (schema.upsert database row : Action σ Value) := by
  have looks : ReadsBy (bound.sql, Database.driverParameters bound.parameters)
      (schema.storedRow database (.map [(column, value)]) : Action σ (Option Row)) := by
    intro τ engine state start
    rw [storedRow_executes engine state start opened built]
    exact List.forall_mem_singleton.mpr fun _ => rfl
  rw [upsert_eq looked]
  refine .bind (.attempt (.bind looks fun found => writeOver_readsBy opened _ _ _ found)) fun tried => ?_
  -- The row may be looked up again, but by the same key.
  cases tried with
  | ok result => exact .lift (.ok result)
  | error failure =>
      dsimp only
      split
      · refine .bind (.log _ _ _) fun _ => .bind looks fun found => ?_
        cases found with
        | none => exact .lift (.error failure)
        | some stored => exact writeOver_readsBy opened _ _ _ (some stored)
      · exact .lift (.error failure)

/-- An update that is built is executed. -/
theorem updateUnique_executes (opened : database.connection = some connection) {bound : BoundText}
    (built : (Query.keyed schema.name column value).updateStatement row = .ok bound) :
    statements ((schema.updateUnique database row : Action σ RunResult).runOn engine state
      start).exchanges = [(bound.sql, Database.driverParameters bound.parameters)] := by
  obtain ⟨cursor, answer, final, executes⟩ :=
    Database.runOn_run engine opened state start bound.sql bound.parameters
  rw [updateUnique_eq looked, Query.update, built]
  simp only [runOn_bind, runOn_lift, Run.follow, executes]
  rfl

/-- It is refused without a request where its statement cannot be written. -/
theorem updateUnique_refused {failure : Failure}
    (refused : (Query.keyed schema.name column value).updateStatement row = .error failure) :
    (schema.updateUnique database row : Action σ RunResult).runOn engine state start =
      ⟨.error failure, state, start, []⟩ := by
  rw [updateUnique_eq looked, Query.update, refused]
  rfl

/-- A row with a key that cannot be kept is never updated. -/
theorem updateUnique_unkept {failure : Failure} (unkept : value.stored = .error failure) :
    ((schema.updateUnique database row : Action σ RunResult).runOn engine state
      start).RefusedAtOnce := by
  cases built : (Query.keyed schema.name column value).updateStatement row with
  | error other =>
      rw [updateUnique_refused engine state start looked built]
      exact ⟨rfl, other, rfl⟩
  | ok bound =>
      -- The key is one of the values that the update sets, so it would have been kept there.
      obtain ⟨entries, rfl, each⟩ := Query.updateStatement_stores built
      obtain ⟨_, _, _, ⟨⟩, ⟨⟩, has⟩ := lookup_eq_ok looked
      obtain ⟨entry, member, rfl⟩ := Keyed.get?_eq_some has
      obtain ⟨form, kept⟩ := each entry member
      exact nomatch unkept.symm.trans kept

end Lookups

/-! ## Keys that are compared and keys that are interpreted -/

/-- The table and the column have names that a condition can be written with. -/
structure Nameable (schema : Schema) (column : Value) : Prop where
  table : schema.name.isTrue = true
  column : ∃ name, column = .text name ∧ isColumnName name = true

/-- The three calls that find a row again compare its column with the stored form of its key, at each lookup.
Only an update that gives the row a value that cannot be kept is refused. -/
structure Tested (schema : Schema) (database : Database) (row : Value) (name : String) (stored : Value)
    (engine : Engine τ) (state : σ) (start : τ) : Prop where
  upserted : [(Query.selectText schema.name.toText name, .map [(.text "p1", stored)])] <+:
    statements ((schema.upsert database row : Action σ Value).runOn engine state start).exchanges
  rereads : ∀ statement ∈
    statements ((schema.upsert database row : Action σ Value).runOn engine state start).exchanges,
      isRead statement.1 = true →
        statement = (Query.selectText schema.name.toText name, .map [(.text "p1", stored)])
  extended : statements ((schema.extend database row : Action σ Value).runOn engine state
      start).exchanges = [(Query.selectText schema.name.toText name, .map [(.text "p1", stored)])]
  updated : (∃ sql parameters, Query.ChangesWhere schema.name.toText name stored sql parameters ∧
      statements ((schema.updateUnique database row : Action σ RunResult).runOn engine state
        start).exchanges = [(sql, parameters)]) ∨
    ∃ entries failure, row = .map entries ∧ (∃ entry ∈ entries, entry.2.stored = .error failure) ∧
      (schema.updateUnique database row : Action σ RunResult).runOn engine state start =
        ⟨.error failure, state, start, []⟩

/-- All three calls are refused at once. -/
structure Refused (schema : Schema) (database : Database) (row : Value) (engine : Engine τ) (state : σ)
    (start : τ) : Prop where
  upserted : ((schema.upsert database row : Action σ Value).runOn engine state start).RefusedAtOnce
  extended : ((schema.extend database row : Action σ Value).runOn engine state start).RefusedAtOnce
  updated : ((schema.updateUnique database row : Action σ RunResult).runOn engine state
    start).RefusedAtOnce

section Keys

variable {schema : Schema} {database : Database} {connection : Connection} {row column value : Value}
  (engine : Engine τ) (state : σ) (start : τ)
  (looked : schema.lookup row = .ok (.map [(column, value)]))

include looked

/-- A row whose lookup cannot be written is refused by every call. -/
theorem refused_of_lookup {failure : Failure}
    (refused : (Query.keyed schema.name column value).selectStatement = .error failure) :
    schema.Refused database row engine state start := by
  have lookup : (schema.storedRow database (.map [(column, value)]) : Action σ (Option Row)).runOn engine
      state start = ⟨.error failure, state, start, []⟩ := storedRow_refused engine state start refused
  have unreported : failure.violates = false :=
    Failure.violates_own ((Query.selectStatement_computed _).unreported refused)
  refine ⟨?_, ?_, ?_⟩
  · rw [upsert_eq looked, runOn_bind, runOn_attempt, tryUpsert, runOn_bind, lookup]
    simp only [Run.follow, unreported, Bool.false_eq_true, if_false]
    exact ⟨rfl, failure, rfl⟩
  · rw [extend_eq looked, runOn_bind, lookup]
    exact ⟨rfl, failure, rfl⟩
  · cases built : (Query.keyed schema.name column value).updateStatement row with
    | error other =>
        rw [updateUnique_refused engine state start looked built]
        exact ⟨rfl, other, rfl⟩
    | ok bound =>
        obtain ⟨bound, selects⟩ :=
          Query.selectStatement_keyed_iff.mpr (Query.updateStatement_grammar built)
        cases refused.symm.trans selects

/-- A value that can be compared is what the statements of the calls test for. -/
theorem tested_of_comparable (opened : database.connection = some connection) {name : String}
    {stored : Value} (same : column = .text name)
    (comparable : Query.Comparable schema.name name value) (kept : value.stored = .ok stored) :
    schema.Tested database row name stored engine state start := by
  subst same
  have built : (Query.keyed schema.name (.text name) value).selectStatement =
      .ok ⟨Query.selectText schema.name.toText name, .map [(.text "p1", stored)]⟩ :=
    Query.selectStatement_withValue comparable.named comparable.column comparable.operand kept
  have lookup := storedRow_executes engine state start opened built
  refine ⟨?_, upsert_readsBy looked opened built engine state start, ?_, ?_⟩
  · obtain ⟨rest, begins⟩ : _ <+:
        ((schema.upsert database row : Action σ Value).runOn engine state start).exchanges :=
      upsert_exchanges engine state start looked
    rw [← begins, statements_append, lookup]
    exact List.prefix_append _ _
  · rw [extend_exchanges engine state start looked]
    exact lookup
  · cases updates : (Query.keyed schema.name (.text name) value).updateStatement row with
    | ok bound =>
        obtain ⟨_, ⟨⟩, -, changes⟩ := Query.updateStatement_keyed kept updates
        refine .inl ⟨_, _, changes, ?_⟩
        rw [updateUnique_executes engine state start looked opened updates]
        obtain ⟨others, parameters⟩ := changes.bound
        rw [parameters]
        rfl
    | error failure =>
        obtain ⟨entries, _, _, rfl, ⟨⟩, has⟩ := lookup_eq_ok looked
        have filled : entries ≠ [] := by
          rintro rfl
          exact nomatch has
        exact .inr ⟨entries, failure, rfl,
          Query.updateStatement_keyed_error comparable kept filled updates,
          updateUnique_refused engine state start looked updates⟩

/-- A key that can be kept is compared as it is stored exactly where it does not begin with a dollar,
and the calls are refused at once exactly where the key is no filter. A key that cannot be kept may
therefore be carried out as a filter, and only an update refuses it without fail. -/
theorem lookup_tests_iff (opened : database.connection = some connection) :
    (∀ stored, value.stored = .ok stored → stored ≠ .null →
      ((∃ name, column = .text name ∧ schema.Tested database row name stored engine state start) ↔
        schema.Nameable column ∧ ∀ content, value = .text content → ¬ ['$'] <+: content.toList)) ∧
    (schema.Refused database row engine state start ↔
      ¬ (schema.name.isTrue = true ∧ Filter.EntryGrammar column value)) ∧
    ∀ failure, value.stored = .error failure →
      ((schema.updateUnique database row : Action σ RunResult).runOn engine state
        start).RefusedAtOnce := by
  -- Completing a row executes its lookup and nothing else, which tells the lookup from a refusal.
  have executes : ∀ {bound}, (Query.keyed schema.name column value).selectStatement = .ok bound →
      statements ((schema.extend database row : Action σ Value).runOn engine state start).exchanges =
        [(bound.sql, Database.driverParameters bound.parameters)] := by
    intro bound built
    rw [extend_exchanges engine state start looked]
    exact storedRow_executes engine state start opened built
  refine ⟨?_, ?_, fun _ unkept => updateUnique_unkept engine state start looked unkept⟩
  · intro stored kept present
    rw [← Value.isOperand_kept kept present]
    constructor
    · rintro ⟨name, -, tested⟩
      cases built : (Query.keyed schema.name column value).selectStatement with
      | ok bound =>
          obtain ⟨name, same, comparable, -⟩ := Query.selectStatement_keyed kept built
          exact ⟨⟨comparable.named, name, same, comparable.column⟩, comparable.operand⟩
      | error failure =>
          have refused : schema.Refused database row engine state start :=
            refused_of_lookup engine state start looked built
          have executed := tested.extended
          rw [refused.extended.1] at executed
          exact nomatch executed
    · rintro ⟨⟨table, name, same, valid⟩, operand⟩
      exact ⟨name, same,
        tested_of_comparable engine state start looked opened same ⟨table, valid, operand⟩ kept⟩
  · rw [← Query.selectStatement_keyed_iff]
    constructor
    · rintro refused ⟨bound, built⟩
      have executed := executes built
      rw [refused.extended.1] at executed
      exact nomatch executed
    · intro unbuilt
      cases built : (Query.keyed schema.name column value).selectStatement with
      | ok bound => exact absurd ⟨bound, built⟩ unbuilt
      | error failure => exact refused_of_lookup engine state start looked built

end Keys

/-! ## A member with an unusual address -/

/-- The row of a member with this address. -/
def member (address : Value) : Value := .map [(.text "email", address)]

/-- This engine finds no rows and refuses nothing. -/
def calmEngine : Engine Bool := Latch.engine fun _ => false

def memberUpsert (address : Value) : Run Unit Bool Value :=
  (members.upsert Database.lockedDatabase (member address)).runOn calmEngine () false

def memberExtend (address : Value) : Run Unit Bool Value :=
  (members.extend Database.lockedDatabase (member address)).runOn calmEngine () false

/-- Ann is looked up by her address. -/
theorem lookup_tests_iff_members :
    (Database.lockedDatabase.connection = some ⟨0⟩ ∧
      members.lookup (member (.text "ann")) = .ok (.map [(.text "email", .text "ann")]) ∧
      (Value.text "ann").stored = .ok (.text "ann")) ∧
    ∃ name, Value.text "email" = .text name ∧
      members.Tested Database.lockedDatabase (member (.text "ann")) name (.text "ann") calmEngine ()
        false := by
  have looked : members.lookup (member (.text "ann")) = .ok (.map [(.text "email", .text "ann")]) := by
    decide +kernel
  have nameable : members.Nameable (.text "email") := ⟨by decide, "email", rfl, by decide⟩
  have plain : ∀ content, Value.text "ann" = .text content → ¬ ['$'] <+: content.toList := by
    rintro _ ⟨⟩
    decide
  have opened : Database.lockedDatabase.connection = some ⟨0⟩ := rfl
  exact ⟨⟨opened, looked, rfl⟩, ((lookup_tests_iff calmEngine () false looked opened).1 (.text "ann") rfl
    (by decide)).mpr ⟨nameable, plain⟩⟩

/-- An address that begins with a dollar has a stored form and is refused all the same. A mapping has
none, and it is carried out as a comparison. -/
theorem lookup_interprets :
    (members.lookup (member (.text "$ann")) = .ok (.map [(.text "email", .text "$ann")]) ∧
      (Value.text "$ann").stored = .ok (.text "$ann") ∧
      statements (memberUpsert (.text "$ann")).exchanges = [] ∧
      (memberUpsert (.text "$ann")).outcome.isOk = false) ∧
    (Value.map [(.text "$gt", .text "ann")]).stored =
      .error (.parameter (.map [(.text "$gt", .text "ann")])) ∧
    statements (memberExtend (.map [(.text "$gt", .text "ann")])).exchanges =
      [("SELECT * FROM members WHERE ((email > $p1))", .map [(.text "p1", .text "ann")])] ∧
    (memberExtend (.map [(.text "$gt", .text "ann")])).outcome =
      .ok (member (.map [(.text "$gt", .text "ann")])) := by
  decide +kernel

end Schema

end Tabular
