import Tabular.Proofs.Schema.Agreement
import Tabular.Proofs.Schema.Defaults
import Tabular.Proofs.Table.Catalogue

/-!
This module reads the reported columns of a table. They agree with the declared ones, and so does the
primary key.
-/

namespace Tabular

namespace Schema

/-- The columns of a declaration are texts and differ, and its primary key is one of them at most, or
lists some of them. -/
structure KeyedColumns (schema : Schema) : Prop where
  texts : ∀ name ∈ schema.columns.keys, ∃ content, name = Value.text content
  once : schema.columns.keys.Nodup
  checked : schema.check = .ok schema
  keyOnce : schema.compositeKey.Nodup
  keyDeclared : ∀ name ∈ schema.compositeKey, name ∈ schema.columns.keys

variable {schema : Schema}

/-! ## The primary key -/

/-- No column is flagged twice. -/
theorem KeyedColumns.flaggedOnce (columns : schema.KeyedColumns) : schema.flaggedColumns.Nodup :=
  columns.once.sublist (List.filter_sublist.map _)

/-- A flagged column is declared. -/
theorem flagged_declared : ∀ name ∈ schema.flaggedColumns, name ∈ schema.columns.keys :=
  fun _ member => (List.filter_sublist.map _).subset member

/-- No column is twice in the primary key. -/
theorem KeyedColumns.primaryOnce (columns : schema.KeyedColumns) :
    schema.primaryKeyColumns.Nodup := by
  rw [primaryKeyColumns]
  split
  · exact columns.flaggedOnce
  · exact columns.keyOnce

/-- The columns of the primary key are declared. -/
theorem KeyedColumns.primaryDeclared (columns : schema.KeyedColumns) :
    ∀ name ∈ schema.primaryKeyColumns, name ∈ schema.columns.keys := by
  rw [primaryKeyColumns]
  split
  · exact flagged_declared
  · exact columns.keyDeclared

/-- The names of the primary key among the columns are all of its names. -/
theorem KeyedColumns.key_perm (columns : schema.KeyedColumns) :
    (schema.columns.keys.filter fun name => name ∈ schema.primaryKeyColumns).Perm
      schema.primaryKeyColumns := by
  rw [List.perm_ext_iff_of_nodup (columns.once.filter _) columns.primaryOnce]
  intro name
  rw [List.mem_filter, decide_eq_true_eq]
  exact and_iff_right_of_imp (columns.primaryDeclared name)

/-- A column that is flagged belongs to the primary key. -/
theorem KeyedColumns.flagged_primary (columns : schema.KeyedColumns) {entry : Value × Column}
    (member : entry ∈ schema.columns) (flagged : entry.2.primaryKey = true) :
    entry.1 ∈ schema.primaryKeyColumns := by
  have inFlagged : entry.1 ∈ schema.flaggedColumns :=
    List.mem_map_of_mem (List.mem_filter.mpr ⟨member, flagged⟩)
  have checked := columns.checked
  rw [check] at checked
  rw [primaryKeyColumns]
  split at checked
  · next none => rw [none] at inFlagged; exact absurd inFlagged List.not_mem_nil
  · split at checked
    · next single => rwa [if_pos single]
    · cases checked
  · cases checked

/-- A text is a part of the primary key exactly when it is among its columns. -/
theorem isPrimaryKey_text {name : String} :
    schema.isPrimaryKey (.text name) = true ↔ .text name ∈ schema.primaryKeyColumns := by
  simp [isPrimaryKey, Value.same_text_iff]

/-- A reported number is a set flag unless it is zero. -/
theorem reportedFlag_int {row : Row} {name : String} {number : Int}
    (reports : row.column name = .ok (.int number)) :
    reportedFlag row name = .ok (decide (number ≠ 0)) := by
  rw [reportedFlag, reports]
  simp [Value.isTrue]
  rfl

section Places

variable {α : Type} {stands : α → Row → Prop} {items : List α} {rows : List Row} {place : α → Int}
  {name : α → Value}
  (places : ∀ item row, stands item row → row.column "pk" = .ok (.int (place item)))
  (names : ∀ item row, stands item row → row.column "name" = .ok (name item))

include places names

/-- The reported key has the columns with a place in it, in their order. -/
theorem filterMapM_placed (each : List.Forall₂ stands items rows) :
    (rows.filterMapM (fun row => do
      if ← reportedFlag row "pk" then pure (some (← row.column "name")) else pure none) :
        Except Failure (List Value)) =
      .ok ((items.filter fun item => place item ≠ 0).map name) := by
  induction each with
  | nil => rfl
  | @cons item row _ _ stand _ inductionHypothesis =>
      rw [List.filterMapM_cons, reportedFlag_int (places item row stand), inductionHypothesis,
        List.filter_cons]
      cases decide (place item ≠ 0) with
      | true =>
          rw [names item row stand]
          rfl
      | false => rfl

/-- The reported primary key has the columns with a place in the order of their places. -/
theorem reportedKey_inOrder (lists : Lists stands items rows) :
    ∃ ordered : List α, ordered.Perm items ∧
      (ordered.Pairwise fun first second => place first ≤ place second) ∧
      reportedKey rows = .ok ((ordered.filter fun item => place item ≠ 0).map name) := by
  obtain ⟨placed, sorted, ordered, placedDone, sortedDone, each, perm, inOrder⟩ :=
    lists.sorted places
  refine ⟨ordered, perm, inOrder, ?_⟩
  rw [reportedKey, placedDone, Outcome.ok_bind, sortedDone, Outcome.ok_bind,
    filterMapM_placed places names each]

end Places

/-- A column has a place in the key exactly when it is among its columns. -/
theorem keyPlace_ne_zero {name : Value} :
    (schema.keyPlace name : Int) ≠ 0 ↔ name ∈ schema.primaryKeyColumns := by
  rw [keyPlace]
  split
  · next member => exact iff_of_true (Int.natCast_ne_zero.mpr (Nat.succ_ne_zero _)) member
  · next absent => exact iff_of_false (fun differs => differs rfl) absent

/-- The reported primary key consists of the declared one. -/
theorem reportedKey_ok (columns : schema.KeyedColumns) {rows : List Row}
    (lists : Lists (ColumnRow schema) schema.columns rows) :
    ∃ key, reportedKey rows = .ok key ∧ key.Perm schema.primaryKeyColumns := by
  obtain ⟨ordered, perm, -, done⟩ := reportedKey_inOrder (fun _ _ stands => stands.key)
    (fun _ _ stands => stands.name) lists
  refine ⟨_, done, ((perm.filter _).map Prod.fst).trans ?_⟩
  have key := columns.key_perm
  rw [Keyed.keys, List.filter_map] at key
  simpa only [keyPlace_ne_zero, Function.comp_def] using key

/-! ## The columns -/

/-- The only column of a primary key. -/
def onlyColumn : List Value → Option Value
  | [column] => some column
  | _ => none

/-- A key with an only column is the list of it. -/
theorem onlyColumn_eq {key : List Value} {column : Value} (single : onlyColumn key = some column) :
    key = [column] := by
  match key with
  | [] => exact nomatch single
  | [found] => exact congrArg (fun column => [column]) (Option.some.inj single)
  | _ :: _ :: _ => exact nomatch single

/-- This function tells whether a name is flagged where a primary key has one column at most. -/
def isOnlyColumn (single : Option Value) (name : Value) : Bool :=
  match single with
  | some key => name.same key
  | none => name.isNull

/-- A table that was read has a primary key. Only one of a single column is flagged. -/
structure HasKey (actual : Schema) (key : List Value) : Prop where
  texts : ∀ name ∈ actual.columns.keys, ∃ content, name = Value.text content
  once : actual.columns.keys.Nodup
  flags : ∀ entry ∈ actual.columns,
    entry.2.primaryKey = isOnlyColumn (onlyColumn key) entry.1
  among : ∀ column ∈ key, column ∈ actual.columns.keys
  primaryKey : actual.primaryKey = if 1 < key.length then some key else none

namespace HasKey

variable {actual : Schema} {key : List Value} (has : actual.HasKey key)

include has

/-- The flagged columns of a read table are those that are its only key column. -/
theorem flagged_keys : actual.flaggedColumns =
    actual.columns.keys.filter (isOnlyColumn (onlyColumn key)) := by
  rw [flaggedColumns, Keyed.keys, List.filter_map]
  exact congrArg (List.map Prod.fst) (List.filter_congr has.flags)

/-- At most one column is flagged, the only one of the key. -/
theorem flagged_eq : actual.flaggedColumns = (onlyColumn key).toList := by
  rw [has.flagged_keys]
  cases single : onlyColumn key with
  | none =>
      refine List.filter_eq_nil_iff.mpr fun name member null => ?_
      obtain ⟨content, rfl⟩ := has.texts name member
      exact nomatch null
  | some column =>
      refine List.perm_singleton.mp ?_
      have member : column ∈ actual.columns.keys :=
        has.among column (onlyColumn_eq single ▸ List.mem_singleton_self column)
      obtain ⟨content, rfl⟩ := has.texts column member
      rw [List.perm_ext_iff_of_nodup (has.once.filter _) (List.nodup_singleton _)]
      intro name
      rw [List.mem_filter, isOnlyColumn, Value.same_iff_text, List.mem_singleton]
      exact and_iff_right_of_imp fun same => same ▸ member

/-- The primary key of a read table is the reported one. -/
theorem primaryKeyColumns_eq : actual.primaryKeyColumns = key := by
  have flagged := has.flagged_eq
  rw [primaryKeyColumns, compositeKey, has.primaryKey, flagged]
  match key with
  | [] => rfl
  | [column] => rfl
  | first :: second :: rest =>
      have several : 1 < (first :: second :: rest).length := by simp
      rw [if_pos several]
      rfl

/-- A read table is a valid declaration. -/
theorem check_ok : actual.check = .ok actual := by
  have flagged := has.flagged_eq
  have primaryKey := has.primaryKey
  rw [check, flagged]
  rcases key with _ | ⟨column, _ | ⟨second, rest⟩⟩
  · rfl
  · rw [compositeKey, primaryKey]
    rfl
  · rfl

end HasKey

/-- A column that is read counts the same as the declared one. -/
structure SameColumn (schema : Schema) (single : Option Value) (entry found : Value × Column) :
    Prop where
  name : found.1 = entry.1
  storage : found.2.storage = entry.2.storage
  primaryKey : found.2.primaryKey = isOnlyColumn single entry.1
  notNull : entry.1 ∉ schema.primaryKeyColumns → found.2.notNull = entry.2.notNull
  default : ∃ expected read, DefaultKey.ofValue entry.2.default = .ok expected ∧
    DefaultKey.ofValue found.2.default = .ok read ∧ expected.same read = true

/-- The written name of a type is read as the type. -/
theorem reportedStorage_name (storage : Storage) :
    reportedStorage (.text storage.name) = .ok storage := by
  have named : Storage.ofReported storage.name = storage := by
    cases storage <;> decide +kernel
  exact congrArg Except.ok named

/-- A column outside the key is written as required exactly when it is. -/
theorem mem_constraints {column : Column} (other : column.primaryKey = false) :
    "NOT NULL" ∈ column.constraints ↔ column.notNull = true := by
  obtain ⟨storage, primaryKey, unique, notNull, default, collation, indexed⟩ := column
  obtain rfl : primaryKey = false := other
  cases unique <;> cases notNull <;> simp [Column.constraints]

/-- A reported default is read as one that counts the same. -/
theorem reportedDefault_ok {entry : Value × Column} {row : Row} (stands : ColumnRow schema entry row)
    (convertible : entry.2.default.isConvertible = true) :
    ∃ reported default, row.column "dflt_value" = .ok reported ∧
      reportedDefault reported = .ok default ∧
      ∃ expected read, DefaultKey.ofValue entry.2.default = .ok expected ∧
        DefaultKey.ofValue default = .ok read ∧ expected.same read = true := by
  rcases stands.default with ⟨null, reports⟩ | ⟨text, written, reports⟩
  · exact ⟨.null, .null, reports, rfl, .none, .none, by rw [null]; rfl, rfl, rfl⟩
  · exact ⟨.text text, _, reports, rfl, readDefault_same written convertible⟩

/-- A reported column is read, and it counts the same as the declared one. -/
theorem reportedColumn_ok (columns : schema.KeyedColumns) {entry : Value × Column}
    (member : entry ∈ schema.columns) (convertible : entry.2.default.isConvertible = true)
    {row : Row} (stands : ColumnRow schema entry row) (single : Option Value)
    (unique : List Value) :
    ∃ found, reportedColumn single unique row = .ok found ∧
      SameColumn schema single entry found := by
  obtain ⟨reported, default, reports, read, same⟩ := reportedDefault_ok stands convertible
  obtain ⟨flag, flagged, written⟩ := stands.notNull
  have notNull : reportedFlag row "notnull" = .ok flag := by
    rw [reportedFlag, flagged]
    cases flag <;> rfl
  let found : Column := {
    storage := entry.2.storage
    primaryKey := isOnlyColumn single entry.1
    unique := unique.any entry.1.same
    notNull := flag
    default := default }
  refine ⟨(entry.1, found), ?_, rfl, rfl, rfl, fun other => ?_, same⟩
  · rw [reportedColumn, stands.storage, stands.name, notNull, reports]
    simp only [Outcome.ok_bind, reportedStorage_name, read]
    rfl
  · have unflagged : entry.2.primaryKey = false := by
      rw [← Bool.not_eq_true]
      exact fun holds => other (columns.flagged_primary member holds)
    rw [Bool.eq_iff_iff, written other, mem_constraints unflagged]

/-- All reported columns are read. -/
theorem reportedColumns_ok (columns : schema.KeyedColumns)
    (convertible : ∀ entry ∈ schema.columns, entry.2.default.isConvertible = true)
    {rows : List Row} (lists : Lists (ColumnRow schema) schema.columns rows)
    (single : Option Value) (unique : List Value) :
    ∃ found, rows.mapM (reportedColumn single unique) = .ok found ∧
      ∃ listed : Keyed Column, listed.Perm schema.columns ∧
        List.Forall₂ (SameColumn schema single) listed found := by
  obtain ⟨listed, perm, each⟩ := lists
  obtain ⟨found, done, same⟩ := Outcome.mapM_along each fun entry member row stands =>
    reportedColumn_ok columns (perm.subset member) (convertible entry (perm.subset member)) stands
      single unique
  exact ⟨found, done, listed, perm, same⟩

/-! ## Agreement -/

/-- The columns of a table were read, and so was its primary key. -/
structure ReadsColumns (schema actual : Schema) (key : List Value) : Prop where
  perm : key.Perm schema.primaryKeyColumns
  primaryKey : actual.primaryKey = if 1 < key.length then some key else none
  columns : ∃ listed : Keyed Column, listed.Perm schema.columns ∧
    List.Forall₂ (SameColumn schema (onlyColumn key)) listed actual.columns

namespace ReadsColumns

variable {actual : Schema} {key : List Value} (reads : ReadsColumns schema actual key)
  (columns : schema.KeyedColumns)

include reads

/-- The read columns are the declared ones in some order. -/
theorem keys_perm : actual.columns.keys.Perm schema.columns.keys := by
  obtain ⟨listed, perm, each⟩ := reads.columns
  have names : actual.columns.keys = listed.keys := by
    rw [Keyed.keys, Keyed.keys, ← List.forall₂_eq_eq_eq, List.forall₂_map_left_iff,
      List.forall₂_map_right_iff]
    exact each.flip.imp fun found entry same => same.name
  rw [names]
  exact perm.map Prod.fst

/-- A declared column is found again. -/
theorem column_same {entry : Value × Column} (member : entry ∈ schema.columns) :
    ∃ found ∈ actual.columns, SameColumn schema (onlyColumn key) entry found := by
  obtain ⟨listed, perm, each⟩ := reads.columns
  exact Outcome.standing each.flip (perm.symm.subset member)

include columns

/-- A table whose columns were read has the key that was read. -/
theorem hasKey : actual.HasKey key where
  texts name member := columns.texts name (reads.keys_perm.subset member)
  once := reads.keys_perm.nodup_iff.mpr columns.once
  flags := by
    obtain ⟨listed, -, each⟩ := reads.columns
    intro found member
    obtain ⟨entry, -, same⟩ := Outcome.standing each member
    rw [same.primaryKey, same.name]
  among column member :=
    reads.keys_perm.symm.subset (columns.primaryDeclared column (reads.perm.subset member))
  primaryKey := reads.primaryKey

/-- The primary key of the table that was read is the one that is reported. -/
theorem primaryKeyColumns_eq : actual.primaryKeyColumns = key :=
  (reads.hasKey columns).primaryKeyColumns_eq

theorem check_ok : actual.check = .ok actual := (reads.hasKey columns).check_ok

/-- A read column is required exactly when the declared one is. -/
theorem isNotNull_eq {entry found : Value × Column} (member : entry ∈ schema.columns)
    (same : SameColumn schema (onlyColumn key) entry found) :
    schema.isNotNull entry.1 entry.2 = actual.isNotNull entry.1 found.2 := by
  obtain ⟨content, text⟩ := columns.texts entry.1 (List.mem_map_of_mem member)
  have primary : actual.isPrimaryKey entry.1 = schema.isPrimaryKey entry.1 := by
    rw [Bool.eq_iff_iff, text, isPrimaryKey_text, isPrimaryKey_text,
      reads.primaryKeyColumns_eq columns, reads.perm.mem_iff]
  rw [isNotNull, isNotNull, primary]
  cases declared : schema.isPrimaryKey entry.1 with
  | true => rw [Bool.or_true, Bool.or_true]
  | false =>
      rw [same.notNull]
      rw [text, ← isPrimaryKey_text, ← text, declared]
      exact Bool.false_ne_true

/-- The columns that were read are the declared ones. -/
theorem sameColumns : SameColumns schema actual where
  texts := columns.texts
  keys := reads.keys_perm.symm
  each := by
    intro entry member
    obtain ⟨found, inside, same⟩ := reads.column_same member
    obtain ⟨content, text⟩ := columns.texts entry.1 (List.mem_map_of_mem member)
    refine ⟨found.2, ?_, same.storage, reads.isNotNull_eq columns member same, same.default⟩
    rw [text]
    refine Keyed.get?_of_mem (reads.keys_perm.nodup_iff.mpr columns.once) ?_
    rwa [← text, ← same.name]

end ReadsColumns

end Schema

end Tabular
