import Tabular.Proofs.Schema.Alike
import Tabular.Schema.Declaration

/-!
This module reads a written table back. Reading fills in what writing leaves out, so that the table
that is read back is alike to the one that was written, and is written in the same way.
-/

namespace Tabular

/-- The name of a type is resolved to the type. -/
theorem Storage.resolve_name (storage : Storage) :
    Storage.resolve (.text storage.name) = .ok storage := by
  cases storage <;> rfl

/-! ## Entries that are written -/

/-- An optional entry is found under its key when it was written. -/
theorem Keyed.get?_entryWhen (condition : Bool) (key wanted : String) (value : Value) :
    get? (entryWhen condition key value) (.text wanted) =
      if wanted = key ∧ condition then some value else none := by
  unfold entryWhen
  split
  · next asked =>
      rw [Keyed.get?_cons, Value.same_text_text]
      simp only [asked, and_true, beq_iff_eq]
      rfl
  · next left => rw [if_neg fun both => left both.2]; rfl

/-- A value is picked under the first of several keys, or else under a later one. -/
theorem Value.pick_cons (entries : List (Value × Value)) (key : String) (keys : List String) :
    pick entries (key :: keys) = (Keyed.get? entries (.text key)).or (pick entries keys) := by
  rw [pick, List.findSome?_cons]
  cases Keyed.get? entries (.text key) <;> rfl

theorem Value.pick_nil (entries : List (Value × Value)) : pick entries [] = none := rfl

/-- A flag that is written only when it is set is read back. -/
theorem flag_entry (flag : Bool) :
    ((if flag = true then some (Value.bool true) else none).getD (.bool false)).isTrue = flag := by
  cases flag <;> rfl

namespace Column

/-- A column without a collation that is not written. -/
def returned (column : Column) : Column :=
  { column with collation := if column.collation.isTrue then column.collation else .null }

/-- A written column is read as the column that is returned. -/
theorem ofValue_toValue (column : Column) : ofValue column.toValue = .ok column.returned := by
  have default : (if column.default.isNull = false then some column.default else none).getD .null =
      column.default := by
    cases column.default <;> rfl
  have collation : (if column.collation.isTrue then some column.collation else none).getD .null =
      if column.collation.isTrue then column.collation else .null := by
    split <;> rfl
  simp [toValue, ofValue, Value.flag, Value.pick_cons, Value.pick_nil, Keyed.get?_append,
    Keyed.get?_cons, Keyed.get?_entryWhen, Storage.resolve_name, flag_entry, default, collation,
    returned]

/-- The returned column differs from it at most in a collation that is not written. -/
theorem alike_returned (column : Column) : column.Alike column.returned where
  storage := rfl
  primaryKey := rfl
  unique := rfl
  notNull := rfl
  default := rfl
  collation := by
    rw [returned]
    split
    · exact .inl rfl
    · next unwritten => exact .inr ⟨eq_false_of_ne_true unwritten, rfl⟩
  indexed := rfl

end Column

/-- Alike columns are written alike. -/
theorem Column.Alike.toValue {first second : Column} (alike : first.Alike second) :
    first.toValue = second.toValue := by
  have collation := alike.written (fun collation => [(Value.text "collate", collation)]) []
  rw [Column.toValue, Column.toValue, alike.storage, alike.primaryKey, alike.unique, alike.notNull,
    alike.default, alike.indexed, entryWhen, entryWhen, entryWhen, entryWhen, entryWhen, collation]
  rfl

/-! ## Indices and foreign keys -/

/-- A written index is read as it was. -/
theorem Index.ofValue_toValue (index : Index) : ofValue index.toValue = .ok index := by
  simp [toValue, ofValue, Value.member, Value.entries, Value.nameList, Value.items, Value.elements?,
    Value.flag, Value.pick_cons, Value.pick_nil, Keyed.get?_cons, Keyed.get?_entryWhen, flag_entry]
  rfl

namespace ForeignKey

/-- The columns of a foreign key are texts. -/
structure TextColumns (key : ForeignKey) : Prop where
  source : ∀ columns, key.sourceColumns = .ok columns → ∀ column ∈ columns, column.isText = true
  target : ∀ columns, key.targetColumns = .ok columns → ∀ column ∈ columns, column.isText = true

/-- Texts are read back from a list that was collapsed. -/
theorem nameList_collapse {columns : List Value} (texts : ∀ column ∈ columns, column.isText = true) :
    (collapse columns).nameList = .ok columns := by
  match columns with
  | [] => rfl
  | [column] =>
      cases column with
      | text content => rfl
      | _ => exact absurd (texts _ List.mem_cons_self) Bool.false_ne_true
  | _ :: _ :: _ => rfl

/-- Alike foreign keys are written alike. -/
theorem Alike.toValue {first second : ForeignKey} (alike : first.Alike second) :
    first.toValue = second.toValue := by
  rw [ForeignKey.toValue, ForeignKey.toValue, alike.source, alike.table, alike.target]

/-- A written foreign key is read back with the same columns. -/
theorem ofValue_toValue {key : ForeignKey} {value : Value} (texts : key.TextColumns)
    (written : key.toValue = .ok value) : ∃ again, ofValue value = .ok again ∧ key.Alike again := by
  rw [toValue] at written
  obtain ⟨source, sourceDone, written⟩ := Outcome.bind_eq_ok.mp written
  obtain ⟨table, tableDone, written⟩ := Outcome.bind_eq_ok.mp written
  obtain ⟨target, targetDone, written⟩ := Outcome.bind_eq_ok.mp written
  obtain rfl := Outcome.pure_eq_ok.mp written
  refine ⟨⟨collapse source, [(table, collapse target)]⟩, ?_, ?_, ?_, ?_⟩
  · simp [ofValue, Value.member, Value.entries, Value.asMap, Value.pick_cons, Keyed.get?_cons]
    rfl
  · rw [sourceDone, sourceColumns, nameList_collapse (texts.source _ sourceDone)]
  · exact tableDone
  · rw [targetDone]
    exact (nameList_collapse (texts.target _ targetDone)).symm

end ForeignKey

namespace Schema

variable {schema : Schema}

/-- Alike tables are written alike. -/
theorem Alike.toValue {first second : Schema} (alike : first.Alike second) :
    first.toValue = second.toValue := by
  have columns : written Column.toValue first.columns = written Column.toValue second.columns := by
    rw [written, written]
    have related := alike.columns
    generalize first.columns = columns, second.columns = others at related
    refine congrArg Value.map ?_
    rw [← List.forall₂_eq_eq_eq, List.forall₂_map_left_iff, List.forall₂_map_right_iff]
    exact related.imp fun _ _ both => Prod.ext both.1 both.2.toValue
  have foreignKeys : first.foreignKeys.mapM ForeignKey.toValue =
      second.foreignKeys.mapM ForeignKey.toValue :=
    Outcome.mapM_related (alike.foreignKeys.imp fun _ _ both => both.toValue)
  rw [Schema.toValue, Schema.toValue, foreignKeys, alike.name, columns, alike.indices,
    alike.compositeKey]

/-- A table that is like a valid one is valid. -/
theorem Alike.check {first second : Schema} (alike : first.Alike second)
    (checked : first.check = .ok first) : second.check = .ok second := by
  rcases check_cases checked with ⟨key, flagged, unlisted⟩ | unflagged
  · rw [Schema.check, ← alike.flaggedColumns, flagged, ← alike.compositeKey, unlisted]
    rfl
  · rw [Schema.check, ← alike.flaggedColumns, unflagged]
    rfl

/-- The check of a table returns the table. -/
theorem check_same {schema result : Schema} (checked : schema.check = .ok result) :
    result = schema := by
  rw [check] at checked
  split at checked
  · exact (Outcome.pure_eq_ok.mp checked).symm
  · split at checked
    · exact (Outcome.pure_eq_ok.mp checked).symm
    · cases checked
  · cases checked

/-- Entries that are written one by one are read back one by one. -/
theorem readAll_written {α : Type} {read : Value → Except Failure α} {write : α → Value}
    (back : α → α) (each : ∀ item, read (write item) = .ok (back item)) (items : Keyed α) :
    Keyed.readAll read (items.map fun entry => (entry.1, write entry.2)) =
      .ok (items.map fun entry => (entry.1, back entry.2)) := by
  rw [Keyed.readAll, Outcome.mapM_eq_ok, List.forall₂_map_left_iff, List.forall₂_map_right_iff,
    List.forall₂_same]
  intro entry _
  rw [each]
  rfl

/-- Entries that are written only when there are some are read back. -/
theorem optionalEntries_written {α : Type} (write : α → Value) (items : Keyed α) :
    optionalEntries (if !items.isEmpty then some (Schema.written write items) else none) =
      .ok (items.map fun entry => (entry.1, write entry.2)) := by
  cases items <;> rfl

/-- Items that are written only when there are some are read back. -/
theorem optionalItems_written (items : List Value) :
    optionalItems (if !items.isEmpty then some (.list items) else none) = .ok items := by
  cases items <;> rfl

/-- An empty key is no key. -/
def listedKey (columns : List Value) : Option (List Value) :=
  if columns.isEmpty then none else some columns

/-- The columns of a listed key are the ones that were listed. -/
theorem listedKey_getD (columns : List Value) : (listedKey columns).getD [] = columns := by
  cases columns <;> rfl

/-- A written primary key is read as a listed one. -/
theorem keyColumns_written (columns : List Value) :
    keyColumns (if !columns.isEmpty then some (.list columns) else none) =
      .ok (listedKey columns) := by
  cases columns <;> rfl

/-- The entries of a written table. -/
def writtenEntries (schema : Schema) (foreignKeys : List Value) : List (Value × Value) :=
  [(.text "name", schema.name), (.text "columns", written Column.toValue schema.columns)] ++
    entryWhen (!schema.indices.isEmpty) "indices" (written Index.toValue schema.indices) ++
    entryWhen (!foreignKeys.isEmpty) "foreign_keys" (.list foreignKeys) ++
    entryWhen (!schema.compositeKey.isEmpty) "primary_key" (.list schema.compositeKey)

/-- An entry that may be left out is found under the first of its spellings. -/
theorem pick_written (schema : Schema) (foreignKeys : List Value) :
    Value.pick (schema.writtenEntries foreignKeys) ["indices"] =
        (if !schema.indices.isEmpty then some (written Index.toValue schema.indices) else none) ∧
      Value.pick (schema.writtenEntries foreignKeys) ["foreign_keys", "foreignKeys"] =
        (if !foreignKeys.isEmpty then some (.list foreignKeys) else none) ∧
      Value.pick (schema.writtenEntries foreignKeys) ["primary_key", "primaryKey"] =
        if !schema.compositeKey.isEmpty then some (.list schema.compositeKey) else none := by
  simp [writtenEntries, Value.pick_cons, Value.pick_nil, Keyed.get?_append, Keyed.get?_cons,
    Keyed.get?_entryWhen]

/-- A written table is read back as one that is alike. -/
theorem ofValue_toValue {schema : Schema} {value : Value} (checked : schema.check = .ok schema)
    (texts : ∀ key ∈ schema.foreignKeys, key.TextColumns) (written : schema.toValue = .ok value) :
    ∃ again, ofValue value = .ok again ∧ schema.Alike again := by
  rw [toValue] at written
  obtain ⟨values, keysWritten, written⟩ := Outcome.bind_eq_ok.mp written
  obtain rfl : Value.map (schema.writtenEntries values) = value := Outcome.pure_eq_ok.mp written
  obtain ⟨keys, keysRead, keysAlike⟩ := Outcome.through_mapM
    (fun value key => ForeignKey.ofValue value = .ok key) ForeignKey.Alike keysWritten
    fun key member value written => ForeignKey.ofValue_toValue (texts key member) written
  let again : Schema := {
    name := schema.name
    columns := schema.columns.map fun entry => (entry.1, entry.2.returned)
    indices := schema.indices
    foreignKeys := keys
    primaryKey := listedKey schema.compositeKey }
  have alike : schema.Alike again := by
    refine ⟨rfl, ?_, rfl, keysAlike, (listedKey_getD schema.compositeKey).symm⟩
    exact List.forall₂_map_right_iff.mpr
      (List.forall₂_same.mpr fun entry _ => ⟨rfl, entry.2.alike_returned⟩)
  refine ⟨again, ?_, alike⟩
  have name : (Value.map (schema.writtenEntries values)).member "name" = .ok schema.name := rfl
  have declared : (Value.map (schema.writtenEntries values)).member "columns" =
      .ok (Schema.written Column.toValue schema.columns) := rfl
  have indices : Keyed.readAll Index.ofValue
      (schema.indices.map fun entry => (entry.1, entry.2.toValue)) = .ok schema.indices := by
    simpa using readAll_written id Index.ofValue_toValue schema.indices
  obtain ⟨indicesFound, keysFound, keyFound⟩ := schema.pick_written values
  rw [ofValue, name, Outcome.ok_bind, declared, Outcome.ok_bind, Schema.written, Value.entries,
    pure_bind, readAll_written Column.returned Column.ofValue_toValue, Outcome.ok_bind, Value.entries, pure_bind,
    indicesFound, optionalEntries_written, Outcome.ok_bind, indices, Outcome.ok_bind, keysFound,
    optionalItems_written, Outcome.ok_bind, Outcome.mapM_eq_ok.mpr keysRead, Outcome.ok_bind,
    keyFound, keyColumns_written, Outcome.ok_bind]
  exact alike.check checked

/-- A table that was read passes the check of its primary keys. -/
theorem check_of_ofValue {declared : Value} {schema : Schema}
    (read : ofValue declared = .ok schema) : schema.check = .ok schema := by
  rw [ofValue] at read
  obtain ⟨name, -, read⟩ := Outcome.bind_eq_ok.mp read
  obtain ⟨_, -, read⟩ := Outcome.bind_eq_ok.mp read
  obtain ⟨_, -, read⟩ := Outcome.bind_eq_ok.mp read
  obtain ⟨columns, -, read⟩ := Outcome.bind_eq_ok.mp read
  obtain ⟨_, -, read⟩ := Outcome.bind_eq_ok.mp read
  obtain ⟨_, -, read⟩ := Outcome.bind_eq_ok.mp read
  obtain ⟨indices, -, read⟩ := Outcome.bind_eq_ok.mp read
  obtain ⟨_, -, read⟩ := Outcome.bind_eq_ok.mp read
  obtain ⟨foreignKeys, -, read⟩ := Outcome.bind_eq_ok.mp read
  obtain ⟨primaryKey, -, read⟩ := Outcome.bind_eq_ok.mp read
  obtain rfl := check_same read
  exact read

/-- A table that is written and read back is written in the same way again, and nothing tells it from
the first one. -/
theorem toValue_returns {declared value : Value} {schema : Schema}
    (read : ofValue declared = .ok schema) (texts : ∀ key ∈ schema.foreignKeys, key.TextColumns)
    (written : schema.toValue = .ok value) :
    ∃ again, ofValue value = .ok again ∧ again.toValue = .ok value ∧
      schema.Indistinguishable again := by
  obtain ⟨again, readAgain, alike⟩ := ofValue_toValue (check_of_ofValue read) texts written
  exact ⟨again, readAgain, alike.toValue ▸ written, alike.indistinguishable⟩

def declaredLots : Value := .map [
  (.text "name", .text "lots"),
  (.text "columns", .map [
    (.text "number", .map [(.text "type", .text "boolean"), (.text "primaryKey", .int 1)]),
    (.text "owner", .text "Text"),
    (.text "price", .map [(.text "type", .text "float"), (.text "notNull", .bool true),
      (.text "defaultValue", .int 0), (.text "collate", .text "")])]),
  (.text "indices", .map [(.text "owned", .map [(.text "columns", .text "owner")])]),
  (.text "foreignKeys", .list [.map [(.text "from", .list [.text "owner"]),
    (.text "references", .map [(.text "owners", .list [.text "id"])])]]),
  (.text "primaryKey", .list [])]

def lots : Schema where
  name := .text "lots"
  columns := [
    (.text "number", { storage := .integer, primaryKey := true }),
    (.text "owner", { storage := .text }),
    (.text "price", { storage := .real, notNull := true, default := .int 0, collation := .text "" })]
  indices := [(.text "owned", { columns := [.text "owner"] })]
  foreignKeys := [{
    source := .list [.text "owner"]
    references := [(.text "owners", .list [.text "id"])] }]
  primaryKey := some []

def writtenLots : Value := .map [
  (.text "name", .text "lots"),
  (.text "columns", .map [
    (.text "number", .map [(.text "type", .text "INTEGER"), (.text "primary_key", .bool true)]),
    (.text "owner", .map [(.text "type", .text "TEXT")]),
    (.text "price", .map [(.text "type", .text "REAL"), (.text "not_null", .bool true),
      (.text "default_value", .int 0)])]),
  (.text "indices", .map [(.text "owned", .map [(.text "columns", .list [.text "owner"])])]),
  (.text "foreign_keys", .list [.map [(.text "from", .text "owner"),
    (.text "references", .map [(.text "owners", .text "id")])]])]

/-- The lots are written, read back, and cannot be told from what was read. -/
theorem toValue_returns_lots :
    ofValue declaredLots = .ok lots ∧ (∀ key ∈ lots.foreignKeys, key.TextColumns) ∧
      lots.toValue = .ok writtenLots ∧ ∃ again, ofValue writtenLots = .ok again ∧
        again.toValue = .ok writtenLots ∧ lots.Indistinguishable again := by
  have read : ofValue declaredLots = .ok lots := by decide
  have texts : ∀ key ∈ lots.foreignKeys, key.TextColumns := by
    rintro key member
    obtain rfl := List.mem_singleton.mp member
    constructor
    · rintro columns ⟨⟩; decide
    · rintro columns ⟨⟩; decide
  have written : lots.toValue = .ok writtenLots := by decide
  exact ⟨read, texts, written, toValue_returns read texts written⟩

end Schema

end Tabular
