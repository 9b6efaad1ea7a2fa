import Tabular.Proofs.Filter.Grammar
import Tabular.Proofs.Table.Interpreting

/-!
This module tells by which column a row is found. It is the primary key where that is declared on its
column, but a primary key that is declared as a list of one column plays no part.
-/

namespace Tabular

open Tabular.Action Exchange

variable {σ τ : Type}

namespace Schema

variable (schema : Schema)

/-- The primary key of one column, on its column or as a list. -/
def singleKey? : Option Value :=
  match schema.primaryKeyColumns with
  | [key] => some key
  | _ => none

variable {schema} {entries : Row}

/-- A row is identified the same way by two keys exactly when the same column identifies it. -/
theorem identified_eq_iff {first second : Option Value} :
    schema.identified first entries = schema.identified second entries ↔
      schema.identifying? first entries = schema.identifying? second entries := by
  rw [identified, identified]
  cases schema.identifying? first entries with
  | none => cases schema.identifying? second entries <;> simp
  | some column =>
      cases schema.identifying? second entries with
      | none => simp
      | some other =>
          refine ⟨fun same => ?_, fun same => by rw [Option.some.inj same]⟩
          have entry := Value.map.inj (Except.ok.inj same)
          rw [(Prod.mk.inj (List.cons.inj entry).1).1]

/-! ## Primary keys that are overlooked -/

/-- A primary key that is declared as a list of one column is overlooked in a row that has it, unless the
row is found by it anyway. -/
def Overlooks (schema : Schema) (entries : Row) : Prop :=
  ∃ key, schema.compositeKey = [key] ∧ entries.has key = true ∧
    schema.identifying? none entries ≠ some key

/-- The row is found by its primary key however that is declared, unless it is overlooked. -/
theorem identified_iff (valid : schema.check = .ok schema) :
    schema.identified schema.keyColumn? entries = schema.identified schema.singleKey? entries ↔
      ¬ schema.Overlooks entries := by
  rw [identified_eq_iff]
  rcases check_cases valid with ⟨key, flagged, empty⟩ | flagged
  · have same : schema.singleKey? = schema.keyColumn? := by
      rw [singleKey?, primaryKeyColumns, empty, keyColumn?, flagged]
      rfl
    rw [same]
    refine iff_of_true rfl ?_
    rintro ⟨other, listed, -⟩
    exact List.cons_ne_nil _ _ (listed.symm.trans empty)
  · have unkeyed : schema.keyColumn? = none := by rw [keyColumn?, flagged]; rfl
    have listed : schema.primaryKeyColumns = schema.compositeKey := by
      rw [primaryKeyColumns, flagged]
      split
      · next empty => exact (List.isEmpty_iff.mp empty).symm
      · rfl
    rw [unkeyed, singleKey?, listed]
    split
    · next key only =>
        rw [identifying?_key]
        cases has : entries.has key with
        | true =>
            constructor
            · rintro same ⟨other, isOther, -, differs⟩
              obtain rfl := (List.cons.inj (only.symm.trans isOther)).1
              exact differs same
            · intro kept
              by_contra differs
              exact kept ⟨key, only, has, differs⟩
        | false =>
            refine iff_of_true rfl ?_
            rintro ⟨other, isOther, hasOther, -⟩
            obtain rfl := (List.cons.inj (only.symm.trans isOther)).1
            exact Bool.false_ne_true (has.symm.trans hasOther)
    · next several =>
        refine iff_of_true rfl ?_
        rintro ⟨key, only, -⟩
        exact several key only

/-! ## The two ways to declare a primary key -/

/-- Another list is declared as the primary key. -/
def withKeyList (schema : Schema) (list : Option (List Value)) : Schema :=
  { schema with primaryKey := list }

/-- The list of the primary key has no part in the lookup. -/
theorem withKeyList_lookup (list : Option (List Value)) (row : Value) :
    (schema.withKeyList list).lookup row = schema.lookup row := by
  have checks (names : List Value) :
      (schema.withKeyList list).checkColumns names = schema.checkColumns names := by
    induction names with
    | nil => rfl
    | cons name rest inductionHypothesis =>
        rw [checkColumns, checkColumns, inductionHypothesis]
        rfl
  have uniques (columns : Keyed Column) :
      (schema.withKeyList list).firstUnique row columns = schema.firstUnique row columns := by
    induction columns with
    | nil => rfl
    | cons entry rest inductionHypothesis =>
        rw [firstUnique, firstUnique]
        simp only [inductionHypothesis]
  have columns : (schema.withKeyList list).lookupColumn row = schema.lookupColumn row := by
    rw [lookupColumn, lookupColumn]
    simp only [uniques]
    rfl
  rw [lookup, lookup]
  simp only [checks, columns]

/-- Nor has it in an upsert. -/
theorem withKeyList_upsert (list : Option (List Value)) (database : Database) (row : Value) :
    ((schema.withKeyList list).upsert database row : Action σ Value) = schema.upsert database row := by
  rw [upsert, upsert, withKeyList_lookup]
  rfl

/-- Nor has it in an update by the lookup column. -/
theorem withKeyList_updateUnique (list : Option (List Value)) (database : Database) (row : Value) :
    ((schema.withKeyList list).updateUnique database row : Action σ RunResult) =
      schema.updateUnique database row := by
  rw [updateUnique, updateUnique, withKeyList_lookup]
  rfl

/-- The primary key of a column is declared as a list of that column. -/
def keyListed (schema : Schema) : Schema :=
  { schema with
    columns := schema.columns.map fun entry => (entry.1, { entry.2 with primaryKey := false })
    primaryKey := some schema.flaggedColumns }

/-- No column is flagged where the key is listed. -/
theorem keyListed_flagged : schema.keyListed.flaggedColumns = [] := by
  rw [flaggedColumns, keyListed]
  induction schema.columns with
  | nil => rfl
  | cons entry rest inductionHypothesis => exact inductionHypothesis

/-- A listed key is not found as the key column. -/
theorem keyListed_keyColumn? : schema.keyListed.keyColumn? = none := by
  rw [keyColumn?, keyListed_flagged]
  rfl

/-- The declaration with a listed key is valid. -/
theorem keyListed_check : schema.keyListed.check = .ok schema.keyListed := by
  rw [check, keyListed_flagged]
  rfl

/-- It has the same columns. -/
theorem keyListed_has (name : Value) :
    schema.keyListed.columns.has name = schema.columns.has name := by
  rw [Keyed.has, keyListed, List.any_map]
  rfl

/-- It identifies a row by the same column when it is given the same key. -/
theorem keyListed_identifying? (key? : Option Value) :
    schema.keyListed.identifying? key? entries = schema.identifying? key? entries := by
  rw [identifying?, identifying?, keyListed, List.find?_map, Option.map_map]
  rfl

/-- All columns of a row are declared. -/
def Admits (schema : Schema) (entries : Row) : Prop :=
  ∀ name ∈ entries.keys, schema.columns.has name = true

instance (schema : Schema) (entries : Row) : Decidable (schema.Admits entries) :=
  inferInstanceAs (Decidable (∀ name ∈ entries.keys, _ = true))

/-- No column of a row is unknown exactly when all are declared. -/
theorem unknown?_eq_none : schema.unknown? entries = none ↔ schema.Admits entries := by
  rw [unknown?, List.find?_eq_none]
  simp only [Bool.not_eq_true', Bool.not_eq_false, Admits]

section Flagged

variable {key : Value} (flagged : schema.flaggedColumns = [key])

include flagged

/-- It has the same primary key. -/
theorem keyListed_primaryKeyColumns (valid : schema.check = .ok schema) :
    schema.keyListed.primaryKeyColumns = schema.primaryKeyColumns := by
  have empty : schema.compositeKey = [] := by
    rcases check_cases valid with ⟨_, -, empty⟩ | none
    · exact empty
    · exact absurd (flagged.symm.trans none) (List.cons_ne_nil _ _)
  have listed : schema.keyListed.compositeKey = [key] := flagged
  rw [primaryKeyColumns, primaryKeyColumns, listed, empty, flagged]
  rfl

/-- A row has the same lookup in both tables unless its key is overlooked in the second one. -/
theorem keyListed_lookup_iff (keys : ∀ name ∈ entries.keys, name.isKey = true)
    (declared : schema.Admits entries) :
    schema.keyListed.lookup (.map entries) = schema.lookup (.map entries) ↔
      ¬ schema.keyListed.Overlooks entries := by
  have listed : schema.keyListed.Admits entries :=
    fun name member => (keyListed_has name).trans (declared name member)
  have single : schema.keyListed.singleKey? = schema.keyColumn? := by
    have columns : schema.keyListed.primaryKeyColumns = [key] := by
      rw [primaryKeyColumns, keyListed_flagged, show schema.keyListed.compositeKey = [key] from flagged]
      rfl
    rw [singleKey?, columns, keyColumn?, flagged]
    rfl
  rw [lookup_eq keys, lookup_eq keys, unknown?_eq_none.mpr listed, unknown?_eq_none.mpr declared,
    ← identified_iff keyListed_check, single]
  have same : schema.identified schema.keyColumn? entries =
      schema.keyListed.identified schema.keyColumn? entries := by
    rw [identified, identified, keyListed_identifying?]
    rfl
  rw [same]

end Flagged

/-! ## Calls on both tables -/

/-- The columns of a row can be named in statements, and its values can be compared and kept. -/
structure Addressable (schema : Schema) (entries : Row) : Prop where
  table : schema.name.isTrue = true
  columns : ∀ entry ∈ entries, ∃ name, entry.1 = .text name ∧ isColumnName name = true
  kept : ∀ entry ∈ entries, ∃ form, entry.2.stored = .ok form
  operand : ∀ entry ∈ entries, entry.2.isOperand = true

end Schema

namespace Query

/-- Statements with a condition at the end differ where their columns do. -/
theorem conditionText_unique {before after first second : String} (named : isColumnName first = true)
    (other : isColumnName second = true)
    (same : before ++ conditionText first = after ++ conditionText second) : first = second := by
  have free (name : String) (named : isColumnName name = true) :
      '(' ∉ " = $p1))".toList.reverse ++ name.toList.reverse := by
    rw [List.mem_append, not_or, List.mem_reverse, List.mem_reverse]
    exact ⟨by decide, fun member => (Condition.columnName_ne name named '(' member).2 rfl⟩
  have reversed (text name : String) : (text ++ conditionText name).toList.reverse =
      (" = $p1))".toList.reverse ++ name.toList.reverse) ++ '(' :: (text ++ "WHERE (").toList.reverse := by
    simp [conditionText]
  have texts := congrArg (fun text => text.toList.reverse) same
  simp only [reversed] at texts
  have names := (Condition.cut_unique (free first named) (free second other) texts).1
  exact String.toList_injective (List.reverse_injective (List.append_cancel_left names))

end Query

namespace Schema

variable {schema : Schema} {entries : Row} {database : Database} {connection : Connection}

/-- Every value of such a row can be compared and has a stored form. -/
theorem Addressable.comparable (row : schema.Addressable entries) {column value : Value}
    (has : entries.get? column = some value) :
    ∃ name form, column = .text name ∧ Query.Comparable schema.name name value ∧
      value.stored = .ok form := by
  obtain ⟨entry, found, rfl⟩ := Option.map_eq_some_iff.mp has
  have member := List.mem_of_find?_eq_some found
  obtain ⟨name, text, named⟩ := row.columns entry member
  obtain ⟨form, kept⟩ := row.kept entry member
  have same := List.find?_some found
  rw [text, Value.same_iff_text] at same
  exact ⟨name, form, same, ⟨row.table, named, row.operand entry member⟩, kept⟩

section Runs

variable (engine : Engine τ) (state : σ) (start : τ)

/-- A call on a row begins with a statement about the column by which the row is looked up. Without such
a column it is refused at once. -/
structure Addressed (schema : Schema) (entries : Row) {α : Type} (run : Run σ τ α) : Prop where
  found : ∀ filter, schema.lookup (.map entries) = .ok filter → ∃ name value before parameters rest,
    filter = .map [(.text name, value)] ∧ entries.get? (.text name) = some value ∧
      isColumnName name = true ∧
      statements run.exchanges = (before ++ Query.conditionText name, parameters) :: rest
  refused : ∀ failure, schema.lookup (.map entries) = .error failure →
    run.outcome = .error failure ∧ run.exchanges = []

/-- A call shows the lookup that it follows. -/
theorem Addressed.lookup_unique {first second : Schema} {α : Type} {run : Run σ τ α}
    (addressed : first.Addressed entries run) (other : second.Addressed entries run) :
    first.lookup (.map entries) = second.lookup (.map entries) := by
  have clash {schema another : Schema} (addressed : schema.Addressed entries run)
      (other : another.Addressed entries run) {filter : Value} {failure : Failure}
      (looked : schema.lookup (.map entries) = .ok filter)
      (failed : another.lookup (.map entries) = .error failure) : False := by
    obtain ⟨name, value, before, parameters, rest, -, -, -, begins⟩ := addressed.found filter looked
    rw [(other.refused failure failed).2] at begins
    exact List.cons_ne_nil _ _ begins.symm
  cases looked : first.lookup (.map entries) with
  | ok filter =>
      cases otherLooked : second.lookup (.map entries) with
      | ok otherFilter =>
          obtain ⟨name, value, before, _, _, rfl, has, named, begins⟩ := addressed.found filter looked
          obtain ⟨otherName, otherValue, after, _, _, rfl, otherHas, otherNamed, otherBegins⟩ :=
            other.found otherFilter otherLooked
          have texts := (Prod.mk.inj (List.cons.inj (begins.symm.trans otherBegins)).1).1
          obtain rfl := Query.conditionText_unique named otherNamed texts
          rw [Option.some.inj (has.symm.trans otherHas)]
      | error failure => exact (clash addressed other looked otherLooked).elim
  | error failure =>
      cases otherLooked : second.lookup (.map entries) with
      | ok otherFilter => exact (clash other addressed otherLooked looked).elim
      | error otherFailure =>
          have same := (addressed.refused failure looked).1.symm.trans
            (other.refused otherFailure otherLooked).1
          rw [Except.error.inj same]

section Calls

variable (row : schema.Addressable entries) (opened : database.connection = some connection)

include row opened

/-- A row that is looked up by a column is looked up by a statement that tests this column. -/
theorem tested {column value : Value}
    (looked : schema.lookup (.map entries) = .ok (.map [(column, value)]))
    (has : entries.get? column = some value) :
    ∃ name form, column = .text name ∧ isColumnName name = true ∧
      schema.Tested database (.map entries) name form engine state start := by
  obtain ⟨name, form, rfl, comparable, kept⟩ := row.comparable has
  exact ⟨name, form, rfl, comparable.column,
    tested_of_comparable engine state start looked opened rfl comparable kept⟩

/-- An upsert begins with a statement about the lookup column. -/
theorem upsert_addressed :
    schema.Addressed entries
      ((schema.upsert database (.map entries) : Action σ Value).runOn engine state start) where
  found := by
    intro filter looked
    obtain ⟨_, column, value, ⟨⟩, rfl, has⟩ := lookup_eq_ok looked
    obtain ⟨name, form, rfl, named, tested⟩ := tested engine state start row opened looked has
    obtain ⟨later, begins⟩ := tested.upserted
    exact ⟨name, value, "SELECT * FROM " ++ schema.name.toText ++ " ", _, later, rfl, has, named,
      begins.symm⟩
  refused := by
    intro failure failed
    rw [upsert, failed]
    exact ⟨rfl, rfl⟩

/-- An update by the lookup column does so too. -/
theorem updateUnique_addressed :
    schema.Addressed entries
      ((schema.updateUnique database (.map entries) : Action σ RunResult).runOn engine state start) where
  found := by
    intro filter looked
    obtain ⟨_, column, value, ⟨⟩, rfl, has⟩ := lookup_eq_ok looked
    obtain ⟨name, form, rfl, named, tested⟩ := tested engine state start row opened looked has
    rcases tested.updated with ⟨_, parameters, changes, executed⟩ |
      ⟨_, failure, ⟨⟩, ⟨entry, member, fails⟩, -⟩
    · obtain ⟨set, rfl⟩ := changes.text
      exact ⟨name, value, "UPDATE " ++ schema.name.toText ++ " SET " ++ set ++ " ", parameters, [], rfl,
        has, named, executed⟩
    · obtain ⟨form, kept⟩ := row.kept entry member
      cases fails.symm.trans kept
  refused := by
    intro failure failed
    rw [updateUnique, failed]
    exact ⟨rfl, rfl⟩

end Calls

/-- Tables of one name that look a row up alike update it alike. -/
theorem updateUnique_congr {first second : Schema} (names : first.name = second.name) {row : Value}
    (same : first.lookup row = second.lookup row) :
    (first.updateUnique database row : Action σ RunResult) = second.updateUnique database row := by
  have found (filter : Value) : first.find filter = second.find filter := by
    rw [find, find, query, query, names]
  simp only [updateUnique, updateWhere, same, found]

end Runs

/-! ## Upserts by a key that both tables look up -/

/-- Two actions may go on differently where the first one does not lead. -/
theorem Action.runOn_bind_congr {α β : Type} {engine : Engine τ} {state : σ} {start : τ}
    {action : Action σ α} {next other : α → Action σ β}
    (same : ∀ value, (action.runOn engine state start).outcome = .ok value → ∀ state start,
      (next value).runOn engine state start = (other value).runOn engine state start) :
    (action >>= next).runOn engine state start = (action >>= other).runOn engine state start := by
  rw [runOn_bind, runOn_bind, Run.follow, Run.follow]
  cases ended : (action.runOn engine state start).outcome with
  | error failure => rfl
  | ok value => simp only [same value ended]

/-- Every row that a lookup finds has a value in this column that is kept in this form. -/
def Finds (schema : Schema) (database : Database) (engine : Engine τ) (σ : Type) (filter : Value)
    (column form : Value) : Prop :=
  ∀ (state : σ) start found,
    ((schema.storedRow database filter).runOn engine state start).outcome = .ok (some found) →
      ∃ value, found.get? column = some value ∧ value.isOperand = true ∧ value.stored = .ok form

section Alike

variable {first second : Schema} {name : String} {value form : Value}
  (names : first.name = second.name) (row : first.Addressable entries)
  (has : entries.get? (.text name) = some value) (kept : value.stored = .ok form)

include row has kept

/-- Rows are updated alike by values that are kept in one form. -/
theorem updateWhere_congr {other : Value} (operand : other.isOperand = true)
    (otherKept : other.stored = .ok form) :
    (first.updateWhere database (.map [(.text name, other)]) (.map entries) : Action σ RunResult) =
      first.updateWhere database (.map [(.text name, value)]) (.map entries) := by
  obtain ⟨_, _, ⟨⟩, comparable, -⟩ := row.comparable has
  obtain ⟨columns, each⟩ := Query.keeps_of_each
    (fun entry member => (row.columns entry member).imp fun _ both => both.1) row.kept
  have filled : entries ≠ [] := by
    rintro rfl
    cases has
  have built {other : Value} (operand : other.isOperand = true) (otherKept : other.stored = .ok form) :=
    Query.updateStatement_withValue comparable.named comparable.column operand otherKept each filled
  have same : (Query.keyed first.name (.text name) other).updateStatement (.map entries) =
      (Query.keyed first.name (.text name) value).updateStatement (.map entries) :=
    (built operand otherKept).trans (built comparable.operand kept).symm
  have updates (value : Value) :
      (first.updateWhere database (.map [(.text name, value)]) (.map entries) : Action σ RunResult) =
        (Query.keyed first.name (.text name) value).update database (.map entries) := rfl
  rw [updates, updates, Query.update, Query.update, same]

variable (keyed : first.keyColumn? = some (.text name)) (unkeyed : second.keyColumn? = none)

include names keyed unkeyed

/-- Tables that identify found rows by the same column write over them alike. -/
theorem writeOver_congr {found : Option Row}
    (holds : ∀ stored, found = some stored → ∃ value, stored.get? (.text name) = some value ∧
      value.isOperand = true ∧ value.stored = .ok form) :
    (first.writeOver database (.map [(.text name, value)]) (.map entries) found : Action σ Value) =
      second.writeOver database (.map [(.text name, value)]) (.map entries) found := by
  have finds (filter : Value) : first.find filter = second.find filter := by
    rw [find, find, query, query, names]
  cases found with
  | none =>
      have inserts : (first.insert database (.map entries) : Action σ RunResult) =
          second.insert database (.map entries) := by
        rw [insert, insert, insertStatement, insertStatement, names]
      have present : entries.has (.text name) = true := Keyed.has_iff.mpr ⟨value, has⟩
      simp only [writeOver, inserts, withNewKey, keyed, unkeyed, present]
      simp
  | some stored =>
      obtain ⟨other, get, operand, otherKept⟩ := holds stored rfl
      have updates : (first.updateWhere database (.map [(.text name, value)]) (.map entries) :
          Action σ RunResult) = second.updateWhere database (.map [(.text name, value)]) (.map entries) := by
        simp only [updateWhere, finds]
      have column : (Value.map stored).columnValue (.text name) = .ok other := by
        rw [Value.columnValue]
        simp only [get]
        rfl
      simp only [writeOver, keyed, unkeyed, column]
      rw [← updates, ← updateWhere_congr row has kept operand otherKept]
      rfl

/-- Two tables upsert a row alike where both look it up by the key of the first one, and every row that is
found has the key. -/
theorem upsert_congr (looked : first.lookup (.map entries) = .ok (.map [(.text name, value)]))
    (otherLooked : second.lookup (.map entries) = .ok (.map [(.text name, value)])) {engine : Engine τ}
    (finds : first.Finds database engine σ (.map [(.text name, value)]) (.text name) form) (state : σ)
    (start : τ) :
    (first.upsert database (.map entries) : Action σ Value).runOn engine state start =
      (second.upsert database (.map entries) : Action σ Value).runOn engine state start := by
  have stored : (first.storedRow database (.map [(.text name, value)]) : Action σ (Option Row)) =
      second.storedRow database (.map [(.text name, value)]) := by
    rw [storedRow, storedRow, find, find, query, query, names]
  -- Only rows that a lookup of this row finds are written over, and these have the key.
  have writes {found : Option Row} {state : σ} {start : τ}
      (outcome : ((first.storedRow database (.map [(.text name, value)])).runOn engine state
        start).outcome = .ok found) :
      (first.writeOver database (.map [(.text name, value)]) (.map entries) found : Action σ Value) =
        second.writeOver database (.map [(.text name, value)]) (.map entries) found := by
    refine writeOver_congr names row has kept keyed unkeyed fun row same => ?_
    subst same
    exact finds state start row outcome
  have tries (state : σ) (start : τ) :
      (first.tryUpsert database (.map [(.text name, value)]) (.map entries)).runOn engine state start =
        (second.tryUpsert database (.map [(.text name, value)]) (.map entries)).runOn engine state
          start := by
    rw [tryUpsert, tryUpsert, ← stored]
    refine Action.runOn_bind_congr fun found outcome state start => ?_
    rw [writes outcome]
  have retries (failure : Failure) (state : σ) (start : τ) :
      (first.retry database (.map [(.text name, value)]) (.map entries) failure).runOn engine state
        start = (second.retry database (.map [(.text name, value)]) (.map entries) failure).runOn engine
          state start := by
    rw [retry, retry, ← stored]
    refine Action.runOn_bind_congr fun found outcome state start => ?_
    cases found with
    | none => rfl
    | some found => simp only [writes outcome]
  rw [upsert_eq looked, upsert_eq otherLooked, runOn_bind, runOn_bind, runOn_attempt, runOn_attempt,
    tries, names]
  rcases (second.tryUpsert database (.map [(.text name, value)]) (.map entries)).runOn engine state
    start with ⟨outcome, after, final, exchanges⟩
  rw [Run.follow, Run.follow]
  cases outcome with
  | ok result => dsimp only
  | error failure =>
      dsimp only
      by_cases taken : failure.violates = true
      · simp only [if_pos taken, runOn_bind, runOn_log, Run.follow, retries]
      · simp only [if_neg taken]

end Alike

/-! ## Which key is followed -/

/-- A lookup is refused for an unknown column exactly when the row has one. -/
theorem lookup_unknown_iff (keys : ∀ name ∈ entries.keys, name.isKey = true) :
    (∃ name, schema.lookup (.map entries) = .error (.unknownColumn name schema.name)) ↔
      ¬ schema.Admits entries := by
  rw [lookup_eq keys, ← unknown?_eq_none]
  cases unknown : schema.unknown? entries with
  | some name => exact iff_of_true ⟨name, rfl⟩ (Option.some_ne_none name)
  | none =>
      refine iff_of_false ?_ (not_not_intro rfl)
      rintro ⟨name, failed⟩
      dsimp only at failed
      rw [identified] at failed
      split at failed <;> cases failed

/-- A row without an identifying column is refused for it. -/
theorem identified_none {key? : Option Value} :
    schema.identified key? entries = .error (.noUniqueColumn schema.name) ↔
      schema.identifying? key? entries = none := by
  rw [identified]
  cases schema.identifying? key? entries <;> simp

/-- A row is looked up by its primary key however that is declared, unless the key is overlooked. A list
that declares the primary key plays no part, so that the table is updated as one without a primary key.
Where the key of a column is declared as a list, a row is therefore updated alike only if the key is not
overlooked, and so it is upserted if it has the key. -/
theorem key_followed_iff (valid : schema.check = .ok schema)
    (keys : ∀ name ∈ entries.keys, name.isKey = true) :
    ((∃ name, schema.lookup (.map entries) = .error (.unknownColumn name schema.name)) ↔
      ¬ schema.Admits entries) ∧
    (schema.Admits entries →
      (schema.lookup (.map entries) = schema.identified schema.singleKey? entries ↔
        ¬ schema.Overlooks entries) ∧
      (schema.lookup (.map entries) = .error (.noUniqueColumn schema.name) ↔
        schema.identifying? schema.keyColumn? entries = none)) ∧
    (∀ list database row,
      ((schema.withKeyList list).upsert database row : Action σ Value) = schema.upsert database row ∧
      ((schema.withKeyList list).updateUnique database row : Action σ RunResult) =
        schema.updateUnique database row) ∧
    ∀ name, schema.flaggedColumns = [.text name] →
      schema.keyListed.primaryKeyColumns = schema.primaryKeyColumns ∧
      (schema.Admits entries → schema.Addressable entries →
        ∀ database connection (engine : Engine τ) (state : σ) start,
          database.connection = some connection →
          ((schema.keyListed.updateUnique database (.map entries)).runOn engine state start =
              (schema.updateUnique database (.map entries)).runOn engine state start ↔
            ¬ schema.keyListed.Overlooks entries) ∧
          ∀ value form, entries.get? (.text name) = some value → value.stored = .ok form →
            schema.Finds database engine σ (.map [(.text name, value)]) (.text name) form →
            ((schema.keyListed.upsert database (.map entries)).runOn engine state start =
                (schema.upsert database (.map entries)).runOn engine state start ↔
              ¬ schema.keyListed.Overlooks entries)) := by
  refine ⟨lookup_unknown_iff keys, fun declared => ?_, fun list database row =>
      ⟨withKeyList_upsert list database row, withKeyList_updateUnique list database row⟩,
    fun name flagged => ⟨keyListed_primaryKeyColumns flagged valid,
      fun declared row database connection engine state start opened => ?_⟩⟩
  · rw [lookup_eq keys, unknown?_eq_none.mpr declared]
    exact ⟨identified_iff valid, identified_none⟩
  have listedRow : schema.keyListed.Addressable entries := ⟨row.table, row.columns, row.kept, row.operand⟩
  have names : schema.name = schema.keyListed.name := rfl
  -- Both calls do the same exactly when both declarations look the row up by the same column.
  have lookups := keyListed_lookup_iff flagged keys declared
  rw [← lookups]
  refine ⟨⟨fun same => ?_, fun same => ?_⟩,
    fun value form has kept finds => ⟨fun same => ?_, fun same => ?_⟩⟩
  · have listed := updateUnique_addressed engine state start listedRow opened
    exact (same ▸ listed).lookup_unique (updateUnique_addressed engine state start row opened)
  · have actions : (schema.keyListed.updateUnique database (.map entries) : Action σ RunResult) =
        schema.updateUnique database (.map entries) := updateUnique_congr names.symm same
    rw [actions]
  · have listed := upsert_addressed engine state start listedRow opened
    exact (same ▸ listed).lookup_unique (upsert_addressed engine state start row opened)
  · have keyed : schema.keyColumn? = some (.text name) := by
      rw [keyColumn?, flagged]
      rfl
    have looked : schema.lookup (.map entries) = .ok (.map [(.text name, value)]) := by
      have present : entries.has (.text name) = true := Keyed.has_iff.mpr ⟨value, has⟩
      rw [lookup_eq keys, unknown?_eq_none.mpr declared, identified, keyed, identifying?_key, present,
        if_pos rfl]
      dsimp only
      rw [has]
      rfl
    exact (upsert_congr names row has kept keyed keyListed_keyColumn? looked (same.trans looked) finds state
      start).symm

/-! ## Members whose primary key is a list -/

/-- A member with a number and an address. -/
def numbered : Row := [(.text "id", .int 1), (.text "email", .text "ann")]

/-- The members are declared with a listed key, and a row is not updated by it. -/
theorem key_followed_iff_members :
    members.check = .ok members ∧
      members.lookup (.map numbered) = members.identified members.singleKey? numbered ∧
      (members.keyListed.updateUnique Database.lockedDatabase (.map numbered)).runOn calmEngine () false ≠
        (members.updateUnique Database.lockedDatabase (.map numbered)).runOn calmEngine () false := by
  have valid : members.check = .ok members := by decide +kernel
  have keys : ∀ name ∈ Keyed.keys numbered, name.isKey = true := by decide +kernel
  have declared : members.Admits numbered := by decide +kernel
  have columns : ∀ entry ∈ numbered, ∃ name, entry.1 = .text name ∧ isColumnName name = true := by
    intro entry member
    rcases List.mem_pair.mp member with rfl | rfl
    · exact ⟨"id", rfl, by decide⟩
    · exact ⟨"email", rfl, by decide⟩
  have kept : ∀ entry ∈ numbered, ∃ form, entry.2.stored = .ok form := by
    intro entry member
    rcases List.mem_pair.mp member with rfl | rfl
    · exact ⟨.int 1, rfl⟩
    · exact ⟨.text "ann", rfl⟩
  have row : members.Addressable numbered := ⟨by decide, columns, kept, by decide +kernel⟩
  obtain ⟨-, follows, -, listed⟩ := key_followed_iff (σ := Unit) (τ := Bool) valid keys
  have overlooked : members.keyListed.Overlooks numbered :=
    ⟨.text "id", by decide +kernel, by decide +kernel, by decide +kernel⟩
  have updates := ((listed "id" (by decide +kernel)).2 declared row Database.lockedDatabase ⟨0⟩
    calmEngine () false rfl).1
  refine ⟨valid, ?_, fun same => updates.mp same overlooked⟩
  rw [(follows declared).1]
  rintro ⟨key, listed, -⟩
  cases listed

/-- The primary key is the number in both tables, but where it is declared as a list a member is looked up
by the address, or not at all. -/
theorem key_overlooked :
    members.keyListed.primaryKeyColumns = members.primaryKeyColumns ∧
    members.lookup (.map numbered) = .ok (.map [(.text "id", .int 1)]) ∧
    members.keyListed.lookup (.map numbered) = .ok (.map [(.text "email", .text "ann")]) ∧
    members.lookup (.map [(.text "id", .int 1)]) = .ok (.map [(.text "id", .int 1)]) ∧
    members.keyListed.lookup (.map [(.text "id", .int 1)]) =
      .error (.noUniqueColumn (.text "members")) := by
  decide +kernel

end Schema

end Tabular
