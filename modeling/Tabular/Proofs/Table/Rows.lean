import Tabular.Proofs.Filter.Compilation
import Tabular.Proofs.Query.Clauses
import Tabular.Proofs.Value.Names
import Tabular.Table.Rows

/-!
This module follows a call on one row of a table up to its statements. A row is looked up by its
unique column, it is written in the order of its columns, and it is returned with its number.
-/

namespace Tabular

/-! ## Statements about one row -/

namespace Query

/-- A query for the rows with one value in a column. -/
def withValue (table : Value) (column : String) (value : Value) : Query :=
  { Query.empty.withTable table with filter := [(.text column, value)] }

def conditionText (column : String) : String := "WHERE ((" ++ column ++ " = $p1))"

def selectText (table column : String) : String :=
  "SELECT * FROM " ++ table ++ " " ++ conditionText column

def updateText (table id : String) (columns : List String) : String :=
  "UPDATE " ++ table ++ " SET " ++ String.intercalate ", " (assignmentTexts 2 columns) ++ " " ++
    conditionText id

section Condition

variable {table value stored : Value} {column : String} (named : table.isTrue = true)
  (name : isColumnName column = true) (operand : value.isOperand = true)
  (kept : value.stored = .ok stored)

include name operand kept

/-- One value to compare with is the first parameter. -/
theorem compile_value :
    (Filter.compile (.map [(.text column, value)])).runWith .empty =
      (.ok ("(" ++ column ++ " = $p1)"), ⟨[stored]⟩) := by
  have entry : Filter.readEntry (.text column) value = Filter.readField (.text column) value := by
    cases value <;> first | rfl | exact nomatch operand
  have read : Filter.read (.map [(.text column, value)]) =
      .ok (.comparison column .equal value) := by
    rw [Filter.read, entry]
    simp only [Filter.readField, operand, if_true, Filter.compare, name]
    rfl
  rw [Filter.compile, read, Binding.runWith_bind_ok (Binding.runWith_lift _ _), Filter.condition,
    Binding.runWith_bind_ok (Binding.runWith_add kept .empty), Binding.runWith_pure]
  have text : "(" ++ column ++ " " ++ Comparator.equal.symbol ++ " " ++ Binder.placeholder 1 ++ ")" =
      "(" ++ column ++ " = $p1)" := by
    apply String.toList_injective
    simp [Comparator.symbol, Binder.placeholder, Binder.name]
    decide
  exact congrArg (fun text => (Except.ok text, Binder.mk [stored])) text

/-- A query for one value has one condition. -/
theorem conditionClause_withValue :
    (conditionClause (withValue table column value)).runWith .empty =
      (.ok (conditionText column), ⟨[stored]⟩) := by
  rw [conditionClause]
  simp only [withValue, List.isEmpty_cons, Bool.false_eq_true, if_false]
  rw [Binding.runWith_bind_ok (compile_value name operand kept), Binding.runWith_pure]
  have text : "WHERE (" ++ ("(" ++ column ++ " = $p1)") ++ ")" = conditionText column := by
    apply String.toList_injective
    simp [conditionText]
  rw [text]

include named

/-- A query for one value has only its table and its condition. -/
theorem clauses_withValue :
    (clauses (withValue table column value)).runWith .empty =
      (.ok (plainClauses "*" ("FROM " ++ table.toText) (conditionText column)), ⟨[stored]⟩) := by
  have plain : (withValue table column value).Plain := ⟨rfl, rfl, rfl, rfl⟩
  rw [plain.clauses_eq named,
    Binding.runWith_bind_ok (conditionClause_withValue name operand kept)]
  rfl

/-- It selects by one parameter. -/
theorem selectStatement_withValue :
    (withValue table column value).selectStatement =
      .ok ⟨selectText table.toText column, .map [(.text "p1", stored)]⟩ := by
  rw [selectStatement_plain (clauses_withValue named name operand kept)]
  have text : "SELECT " ++ "*" ++ setOff ("FROM " ++ table.toText) ++ setOff (conditionText column) =
      selectText table.toText column := by
    apply String.toList_injective
    simp [setOff, selectText, conditionText]
  exact congrArg (fun text => Except.ok (BoundText.mk text _)) text

/-- It updates by one parameter, and the new values count on from it. -/
theorem updateStatement_withValue {entries : Row} {columns : List (String × Value)}
    (each : List.Forall₂ Keeps entries columns) (filled : entries ≠ []) :
    (withValue table column value).updateStatement (.map entries) =
      .ok ⟨updateText table.toText column (columns.map Prod.fst),
        .map (Binder.named 1 (stored :: columns.map Prod.snd))⟩ := by
  rw [updateStatement_plain (clauses_withValue named name operand kept) each filled]
  have text : setOff (conditionText column) = " " ++ conditionText column :=
    setOff_present (by simp [conditionText])
  rw [text, updateText, ← String.append_assoc]
  rfl

end Condition

end Query

namespace Schema

/-! ## The column that identifies a row -/

/-- The key identifies a row that has it. Without it, the first unique column does that the row has. -/
def identifying? (schema : Schema) (key? : Option Value) (entries : Row) : Option Value :=
  (key?.filter entries.has).or
    ((schema.columns.find? fun entry => entry.2.unique && entries.has entry.1).map Prod.fst)

/-- The lookup of a row by the column that identifies it. -/
def identified (schema : Schema) (key? : Option Value) (entries : Row) : Except Failure Value :=
  match schema.identifying? key? entries with
  | some column => .ok (.map [(column, (entries.get? column).getD .null)])
  | none => .error (.noUniqueColumn schema.name)

/-- The first column of a row that the table lacks. -/
def unknown? (schema : Schema) (entries : Row) : Option Value :=
  entries.keys.find? fun name => !schema.columns.has name

section

variable {schema : Schema} {entries : Row}

/-- A mapping has the columns that are its keys. -/
theorem hasColumn_map (name : Value) :
    (Value.map entries).hasColumn name = .ok (entries.has name) := by
  rw [Value.hasColumn, Keyed.has]
  change Except.ok ((entries.map Prod.fst).any _) = _
  rw [List.any_map]
  rfl

/-- A row is refused for its first column that is not declared. -/
theorem checkColumns_eq {names : List Value} (keys : ∀ name ∈ names, name.isKey = true) :
    schema.checkColumns names =
      match names.find? fun name => !schema.columns.has name with
      | some name => .error (.unknownColumn name schema.name)
      | none => .ok () := by
  induction names with
  | nil => rfl
  | cons name rest inductionHypothesis =>
      obtain ⟨key, others⟩ := List.forall_mem_cons.mp keys
      rw [checkColumns, List.find?_cons, key]
      cases known : schema.columns.has name with
      | true => exact inductionHypothesis others
      | false => rfl

/-- The first unique column is the first declared one that the row has. -/
theorem firstUnique_eq (columns : Keyed Column) :
    schema.firstUnique (.map entries) columns =
      match columns.find? fun entry => entry.2.unique && entries.has entry.1 with
      | some entry => .ok entry.1
      | none => .error (.noUniqueColumn schema.name) := by
  induction columns with
  | nil => rfl
  | cons entry rest inductionHypothesis =>
      rw [firstUnique, List.find?_cons, hasColumn_map, Outcome.ok_bind]
      cases entry.2.unique && entries.has entry.1 with
      | true => rfl
      | false => exact inductionHypothesis

/-- The key identifies a row that has it, and otherwise a unique column does. -/
theorem identifying?_key (key : Value) :
    schema.identifying? (some key) entries =
      if entries.has key then some key else schema.identifying? none entries := by
  rw [identifying?, identifying?, Option.filter_some]
  cases entries.has key <;> rfl

/-- The lookup column is the one that identifies the row. -/
theorem lookupColumn_eq :
    schema.lookupColumn (.map entries) =
      match schema.identifying? schema.keyColumn? entries with
      | some column => .ok column
      | none => .error (.noUniqueColumn schema.name) := by
  have unkeyed : schema.firstUnique (.map entries) schema.columns =
      match schema.identifying? none entries with
      | some column => .ok column
      | none => .error (.noUniqueColumn schema.name) := by
    rw [firstUnique_eq, identifying?, Option.filter_none, Option.none_or]
    cases schema.columns.find? fun entry => entry.2.unique && entries.has entry.1 <;> rfl
  rw [lookupColumn]
  cases schema.keyColumn? with
  | none => exact unkeyed
  | some key =>
      simp only [hasColumn_map, Outcome.ok_bind, identifying?_key]
      cases entries.has key with
      | false => exact unkeyed
      | true => rfl

/-- A row has the column that identifies it. -/
theorem has_identifying {key? : Option Value} {column : Value}
    (found : schema.identifying? key? entries = some column) : entries.has column = true := by
  rw [identifying?, Option.or_eq_some_iff, Option.filter_eq_some_iff] at found
  rcases found with ⟨-, has⟩ | ⟨-, unique⟩
  · exact has
  · obtain ⟨entry, first, rfl⟩ := Option.map_eq_some_iff.mp unique
    exact (Bool.and_eq_true_iff.mp (List.find?_some first :)).2

/-- A row is looked up by the column that identifies it, if the table has all its columns. -/
theorem lookup_eq (keys : ∀ name ∈ entries.keys, name.isKey = true) :
    schema.lookup (.map entries) =
      match schema.unknown? entries with
      | some name => .error (.unknownColumn name schema.name)
      | none => schema.identified schema.keyColumn? entries := by
  have names : (Value.map entries).columnNames = .ok entries.keys := rfl
  rw [lookup, names, Outcome.ok_bind, checkColumns_eq keys, unknown?]
  cases entries.keys.find? fun name => !schema.columns.has name with
  | some name => rfl
  | none =>
      rw [Outcome.ok_bind, lookupColumn_eq, identified]
      cases found : schema.identifying? schema.keyColumn? entries with
      | none => rfl
      | some column =>
          obtain ⟨value, has⟩ := Keyed.has_iff.mp (has_identifying found)
          rw [Outcome.ok_bind, Value.columnValue]
          simp only [has]
          rfl

/-- A row is looked up by its identifying column, unless one of its columns is unknown. -/
theorem lookup_texts (texts : ∀ name ∈ entries.keys, ∃ content, name = Value.text content) :
    schema.lookup (.map entries) =
      match schema.unknown? entries with
      | some name => .error (.unknownColumn name schema.name)
      | none => schema.identified schema.keyColumn? entries := by
  refine lookup_eq fun name inside => ?_
  obtain ⟨content, rfl⟩ := texts name inside
  rfl

end

/-! ## Rows with a number and one unique column -/

/-- A table whose rows are identified by a number that the engine gives and by one unique column. -/
structure KeyedTable (schema : Schema) (id key : String) : Prop where
  named : schema.name.isTrue = true
  primary : schema.keyColumn? = some (.text id)
  unique : ∃ column, (.text key, column) ∈ schema.columns ∧ column.unique = true
  others : ∀ entry ∈ schema.columns, entry.2.unique = true → entry.1 = .text key ∨ entry.1 = .text id
  idName : isColumnName id = true
  keyName : isColumnName key = true

/-- A row of the table. It has the unique column, and the engine gives the number. -/
structure KeyedRow (schema : Schema) (id key : String) (entries : Row) : Prop where
  texts : ∀ name ∈ entries.keys, ∃ content, name = Value.text content
  once : entries.keys.Nodup
  declared : ∀ name ∈ entries.keys, schema.columns.has name = true
  unnumbered : .text id ∉ entries.keys
  convertible : ∀ entry ∈ entries, ∃ stored, entry.2.stored = .ok stored
  keyed : ∃ value, (.text key, value) ∈ entries ∧ value.isOperand = true

variable {schema : Schema} {id key : String} {entries : Row}

/-- A row is looked up by its unique column. -/
theorem lookup_ok (table : schema.KeyedTable id key) (row : schema.KeyedRow id key entries)
    {value : Value} (member : (.text key, value) ∈ entries) :
    schema.lookup (.map entries) = .ok (.map [(.text key, value)]) := by
  have known : schema.unknown? entries = none := by
    rw [unknown?, List.find?_eq_none]
    intro name inside
    rw [row.declared name inside]
    decide
  have lacks : entries.has (.text id) = false := by
    rw [← Bool.not_eq_true, Keyed.has_text_iff]
    exact row.unnumbered
  have has : entries.has (.text key) = true :=
    Keyed.has_text_iff.mpr (List.mem_map_of_mem (f := Prod.fst) member)
  have found : schema.identifying? schema.keyColumn? entries = some (.text key) := by
    rw [table.primary, identifying?_key, lacks, if_neg Bool.false_ne_true, identifying?,
      Option.filter_none, Option.none_or]
    cases first : schema.columns.find? fun entry => entry.2.unique && entries.has entry.1 with
    | none =>
        obtain ⟨column, inside, unique⟩ := table.unique
        have passed := List.find?_eq_none.mp first _ inside
        rw [unique, has] at passed
        exact absurd rfl passed
    | some entry =>
        obtain ⟨unique, present⟩ := Bool.and_eq_true_iff.mp (List.find?_some first :)
        rcases table.others entry (List.mem_of_find?_eq_some first) unique with same | same
        · exact congrArg some same
        · rw [same, lacks] at present
          cases present
  rw [lookup_texts row.texts, known, identified, found]
  simp only [Keyed.get?_of_mem row.once member]
  rfl

/-! ## Inserted rows -/

def insertText (table : String) (columns : List String) : String :=
  "INSERT INTO " ++ table ++ " (" ++ String.intercalate ", " columns ++ ") VALUES (" ++
    String.intercalate ", " (columns.map ("$" ++ ·)) ++ ")"

/-- A row is kept in its columns. -/
theorem KeyedRow.keeps (row : schema.KeyedRow id key entries) :
    ∃ columns, List.Forall₂ Query.Keeps entries columns :=
  Query.keeps_of_each (fun _ member => row.texts _ (List.mem_map_of_mem member)) row.convertible

/-- The stored form of a row has the stored forms of its values. -/
theorem storedEntries_ok {columns : List (String × Value)}
    (each : List.Forall₂ Query.Keeps entries columns) :
    Value.storedEntries entries = .ok (columns.map fun column => (.text column.1, column.2)) := by
  induction each with
  | nil => rfl
  | @cons entry column entries columns first rest inductionHypothesis =>
      obtain ⟨name, value⟩ := entry
      obtain ⟨same, kept⟩ := first
      obtain rfl := same
      rw [Value.storedEntries, kept, Outcome.ok_bind, inductionHypothesis]
      rfl

/-- An insertion names the columns of the row and binds their values. -/
theorem insertStatement_ok {columns : List (String × Value)}
    (each : List.Forall₂ Query.Keeps entries columns) (filled : entries ≠ []) :
    schema.insertStatement (.map entries) =
      .ok ⟨insertText schema.name.toText (columns.map Prod.fst),
        .map (columns.map fun column => (.text column.1, column.2))⟩ := by
  have names : (Value.map entries).columnNames = .ok ((columns.map Prod.fst).map Value.text) :=
    congrArg Except.ok (Query.keeps_keys each)
  have places : ((columns.map Prod.fst).map Value.text).map (fun column => "$" ++ column.toText) =
      (columns.map Prod.fst).map ("$" ++ ·) := by
    rw [List.map_map]
    rfl
  rw [insertStatement, if_pos (Value.isTrue_map.mpr filled), names, Outcome.ok_bind,
    Value.commaList_eq_ok.mpr ⟨_, rfl, rfl⟩, Outcome.ok_bind, places]
  simp only [Value.entries, pure_bind, storedEntries_ok each, Outcome.ok_bind]
  rfl

/-! ## Returned rows -/

/-- A new row gets the number that the engine gives. -/
theorem withNewKey_ok (table : schema.KeyedTable id key) (row : schema.KeyedRow id key entries)
    (number changes : Int) :
    ∃ result, schema.withNewKey (.map entries) ⟨some number, changes⟩ = .ok result ∧
      result.columnValue (.text id) = .ok (.int number) := by
  have lacks : entries.has (.text id) = false := by
    rw [← Bool.not_eq_true, Keyed.has_text_iff]
    exact row.unnumbered
  have named : (Value.text id).isTrue = true := by
    rw [Value.isTrue_text]
    rintro rfl
    exact absurd table.idName (by decide)
  refine ⟨.map (entries ++ [(.text id, .int number)]), ?_, ?_⟩
  · rw [withNewKey, table.primary]
    simp only [named, lacks]
    rfl
  · have once : Keyed.keys (entries ++ [(Value.text id, Value.int number)]) |>.Nodup := by
      rw [Keyed.keys, List.map_append]
      exact List.nodup_append_comm.mp (List.nodup_cons.mpr ⟨row.unnumbered, row.once⟩)
    rw [Value.columnValue, Keyed.get?_of_mem once (List.mem_append_right _ List.mem_cons_self)]
    rfl

/-- A row that is set over a stored one keeps its number. -/
theorem mergedOver_ok (row : schema.KeyedRow id key entries) {stored : Row} {number : Value}
    (numbered : stored.get? (.text id) = some number) :
    ∃ result, (Value.map entries).mergedOver stored = .ok result ∧
      result.columnValue (.text id) = .ok number := by
  refine ⟨.map (Keyed.merge stored entries), rfl, ?_⟩
  rw [Value.columnValue, Keyed.get?_merge_absent row.texts row.unnumbered, numbered]
  rfl

end Schema
end Tabular
