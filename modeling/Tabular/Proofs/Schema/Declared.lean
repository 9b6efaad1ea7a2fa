import Mathlib.Data.List.Nodup
import Mathlib.Data.List.ReduceOption
import Tabular.Proofs.Schema.Lines
import Tabular.Proofs.Value.Names
import Tabular.Proofs.Value.Sameness

/-!
This module reads the definitions of a declared table as statements: each column is read with its
default, and each index with its columns.
-/

namespace Tabular

open Sql

/-! ## Columns -/

namespace Column

/-- The column that is created for a declared one. -/
def clause (name : Value) (column : Column) : ColumnClause :=
  ⟨name.toText, column.default.defaultToken⟩

/-- A word other than the one that announces a default is passed over on the way to the default. -/
def isPassed : Token → Bool
  | .word text => text ≠ "DEFAULT"
  | _ => false

theorem defaultOf_passed {front : List Token} (passed : ∀ token ∈ front, isPassed token = true)
    (rest : List Token) : Statement.defaultOf (front ++ rest) = Statement.defaultOf rest := by
  induction front with
  | nil => rfl
  | cons token front inductionHypothesis =>
      have first := passed token (by simp)
      rw [List.cons_append, Statement.defaultOf]
      · exact inductionHypothesis fun other member => passed other (by simp [member])
      · rintro _ _ rfl
        exact absurd first (by decide)

/-- The constraints of a column are passed over. -/
theorem constraintTokens_passed (column : Column) :
    ∀ token ∈ column.constraintTokens, isPassed token = true := by
  unfold constraintTokens
  split
  · simp [isPassed]
  · cases column.unique <;> cases column.notNull <;> simp [isPassed]

/-- What follows the constraints of a column is read as its default. -/
theorem defaultOf_rest (column : Column) :
    Statement.defaultOf (column.defaultTokens ++ column.collationTokens) =
      column.default.defaultToken := by
  rw [defaultTokens]
  split
  · next token written =>
      rw [written]
      rfl
  · next absent =>
      rw [absent, collationTokens, List.nil_append]
      split <;> simp [Statement.defaultOf]

/-- A line is read as the column that it was written for. -/
theorem line_reads {name : Value} {column : Column} {text : String}
    (written : column.line name = .ok text) (plain : name.isPlain = true)
    (plainCollation : column.collation.isTrue = true → column.collation.isPlain = true) :
    ReadsItem Statement.column text (some (column.clause name)) := by
  have scanned := line_scans written (Value.isWord_of_isPlain plain) fun isTrue =>
    Value.isWord_of_isPlain (plainCollation isTrue)
  have front : ∀ token ∈ Token.word column.storage.name :: column.constraintTokens,
      isPassed token = true := by
    refine List.forall_mem_cons.mpr ⟨?_, column.constraintTokens_passed⟩
    cases column.storage <;> decide
  have found := defaultOf_passed front (column.defaultTokens ++ column.collationTokens)
  rw [defaultOf_rest, List.cons_append, ← List.append_assoc] at found
  refine ⟨_, _, scanned, Statement.keptWhole_tokens (column.tokens_noMark name), ?_⟩
  have noKey : Token.word column.storage.name ≠ .word "KEY" := by
    cases column.storage <;> decide
  rw [Statement.column]
  · exact congrArg (fun token => some (some (ColumnClause.mk name.toText token))) found
  · rintro _ same -
    exact noKey (List.cons.inj same).1
  · rintro _ same -
    exact noKey (List.cons.inj same).1

end Column

/-! ## Constraints of the table -/

namespace ForeignKey

/-- The names of a foreign key are plain. -/
structure PlainNames (key : ForeignKey) : Prop where
  source : ∀ names, key.sourceColumns = .ok names → ∀ name ∈ names, name.isPlain = true
  table : ∀ name, key.table = .ok name → name.isPlain = true
  target : ∀ names, key.targetColumns = .ok names → ∀ name ∈ names, name.isPlain = true

theorem PlainNames.words {key : ForeignKey} (plain : key.PlainNames) : key.WordNames where
  source names done name member := Value.isWord_of_isPlain (plain.source names done name member)
  table name done := Value.isWord_of_isPlain (plain.table name done)
  target names done name member := Value.isWord_of_isPlain (plain.target names done name member)

/-- A foreign key is read as no column. -/
theorem line_reads {key : ForeignKey} {text : String} (written : key.line = .ok text)
    (plain : key.PlainNames) : ReadsItem Statement.column text none := by
  obtain ⟨sources, table, targets, -, -, -, scanned⟩ := line_scans written plain.words
  exact ⟨"FOREIGN", _, scanned, keptWhole_tokens sources table.toText targets, rfl⟩

end ForeignKey

/-- A composite primary key is read as no column. -/
theorem primaryKeyLine_reads {names : List String} (plain : ∀ name ∈ names, PlainName name) :
    ReadsItem Statement.column ("PRIMARY KEY (" ++ String.intercalate ", " names ++ ")") none :=
  ⟨"PRIMARY", _, Schema.primaryKeyLine_scans fun name member => (plain name member).isWord,
    Schema.keptWhole_primaryKeyTokens names, rfl⟩

namespace Schema

/-- All names of a declaration are plain, and no two columns or indices share one. The name of an
index counts in its full form. -/
structure WellNamed (schema : Schema) : Prop where
  columnsOnce : schema.columns.keys.Nodup
  indicesOnce : schema.indices.keys.Nodup
  table : schema.name.isPlain = true
  columns : ∀ name ∈ schema.columns.keys, name.isPlain = true
  collations : ∀ entry ∈ schema.columns, entry.2.collation.isTrue = true →
    entry.2.collation.isPlain = true
  indices : ∀ name ∈ schema.indices.keys,
    name.isText = true ∧ PlainName (indexName schema.name name)
  foreignKeys : ∀ key ∈ schema.foreignKeys, key.PlainNames
  primaryKey : ∀ name ∈ schema.compositeKey, name.isPlain = true

/-- The columns of the created table. -/
def clauses (schema : Schema) : List ColumnClause :=
  schema.columns.map fun entry => entry.2.clause entry.1

theorem clauses_reduced (schema : Schema) (constraints : Nat) :
    (schema.columns.map (fun entry : Value × Column => some (entry.2.clause entry.1)) ++
      List.replicate constraints none).reduceOption = schema.clauses := by
  rw [List.reduceOption_append, List.reduceOption_replicate_none, List.append_nil, clauses]
  induction schema.columns with
  | nil => rfl
  | cons entry columns inductionHypothesis =>
      rw [List.map_cons, List.reduceOption_cons_of_some, inductionHypothesis, List.map_cons]

/-- The line of a composite primary key, if there is one. -/
def WritesPrimaryKey (schema : Schema) (lines : List String) : Prop :=
  (schema.compositeKey = [] ∧ lines = []) ∨
    ∃ names, schema.compositeKey = names.map Value.text ∧ names ≠ [] ∧
      lines = ["PRIMARY KEY (" ++ String.intercalate ", " names ++ ")"]

/-- A table that is written lists its columns and then its constraints. -/
theorem tableDefinition_eq_ok {schema : Schema} {definition : Definition}
    (written : schema.tableDefinition = .ok definition) :
    ∃ columns foreignKeys primaryKey,
      schema.columns.mapM (fun entry => entry.2.line entry.1) = .ok columns ∧
      schema.foreignKeys.mapM ForeignKey.line = .ok foreignKeys ∧
      schema.WritesPrimaryKey primaryKey ∧
      definition = .table schema.name.toText (columns ++ foreignKeys ++ primaryKey) := by
  rw [tableDefinition] at written
  obtain ⟨columns, columnsDone, rest⟩ := Outcome.bind_eq_ok.mp written
  obtain ⟨foreignKeys, foreignKeysDone, rest⟩ := Outcome.bind_eq_ok.mp rest
  refine ⟨columns, foreignKeys, ?_⟩
  split at rest
  · next empty =>
      obtain ⟨primaryKey, none, rest⟩ := Outcome.bind_eq_ok.mp rest
      obtain rfl := Outcome.pure_eq_ok.mp none
      exact ⟨[], columnsDone, foreignKeysDone, .inl ⟨List.isEmpty_iff.mp empty, rfl⟩,
        (Outcome.pure_eq_ok.mp rest).symm⟩
  · next filled =>
      obtain ⟨list, listDone, rest⟩ := Outcome.bind_eq_ok.mp rest
      obtain ⟨primaryKey, one, rest⟩ := Outcome.bind_eq_ok.mp rest
      obtain rfl := Outcome.pure_eq_ok.mp one
      obtain ⟨names, key, rfl⟩ := Value.commaList_eq_ok.mp listDone
      refine ⟨_, columnsDone, foreignKeysDone, .inr ⟨names, key, ?_, rfl⟩,
        (Outcome.pure_eq_ok.mp rest).symm⟩
      rintro rfl
      exact filled (by rw [key]; rfl)

/-- The columns of a table that is written are texts. -/
theorem tableDefinition_texts {schema : Schema} {definition : Definition}
    (written : schema.tableDefinition = .ok definition) :
    ∀ key ∈ schema.columns.keys, ∃ name, key = .text name := by
  obtain ⟨lines, columns, -⟩ := Outcome.bind_eq_ok.mp written
  intro key member
  obtain ⟨entry, inside, rfl⟩ := List.mem_map.mp member
  obtain ⟨line, done⟩ := Outcome.item_of_mapM columns inside
  obtain ⟨name, -, named, -⟩ := Column.line_eq_ok done
  exact ⟨name, named⟩

theorem columns_text {schema : Schema} {definitions : List Definition}
    (rendered : schema.definitions = .ok definitions) :
    ∀ key ∈ schema.columns.keys, ∃ name, key = .text name := by
  obtain ⟨table, written, -⟩ := Outcome.bind_eq_ok.mp rendered
  exact tableDefinition_texts written

theorem WritesPrimaryKey.reads {schema : Schema} {lines : List String}
    (writes : schema.WritesPrimaryKey lines) (plain : schema.WellNamed) :
    List.Forall₂ (ReadsItem Statement.column) lines (List.replicate lines.length none) := by
  rcases writes with ⟨-, rfl⟩ | ⟨names, key, -, rfl⟩
  · exact .nil
  · have plain := plain.primaryKey
    rw [key] at plain
    exact .cons (primaryKeyLine_reads (Value.plainNames plain)) .nil

/-- The written table is read as the declared one. -/
theorem tableDefinition_read {schema : Schema} {definition : Definition}
    (written : schema.tableDefinition = .ok definition) (plain : schema.WellNamed) :
    Statement.ofText? definition.sql = some (.createTable schema.name.toText schema.clauses) := by
  obtain ⟨columns, foreignKeys, primaryKey, columnsDone, foreignKeysDone, writes, rfl⟩ :=
    tableDefinition_eq_ok written
  obtain ⟨table, name, plainTable⟩ := Value.isPlain_iff.mp plain.table
  have columnsRead : List.Forall₂ (ReadsItem Statement.column) columns
      (schema.columns.map fun entry => some (entry.2.clause entry.1)) :=
    Outcome.each_of_mapM columnsDone fun entry member text done =>
      Column.line_reads done (plain.columns _ (List.mem_map_of_mem member))
        (plain.collations entry member)
  have foreignKeysRead : List.Forall₂ (ReadsItem Statement.column) foreignKeys
      (schema.foreignKeys.map fun _ => none) :=
    Outcome.each_of_mapM foreignKeysDone fun key member text done =>
      ForeignKey.line_reads done (plain.foreignKeys key member)
  rw [List.map_const'] at foreignKeysRead
  have constraints : List.Forall₂ (ReadsItem Statement.column) (foreignKeys ++ primaryKey)
      (List.replicate schema.foreignKeys.length none ++
        List.replicate primaryKey.length none) :=
    List.rel_append foreignKeysRead (writes.reads plain)
  rw [← List.replicate_add] at constraints
  have read := Definition.table_read plainTable (List.rel_append columnsRead constraints)
  rw [List.append_assoc, name, ← clauses_reduced]
  exact read

/-! ## Indices -/

/-- The statement that a plan of an index is written for. -/
def indexStatement (schema : Schema) (entry : Value × IndexPlan) : Statement :=
  .createIndex entry.2.index.unique (indexName schema.name entry.1) schema.name.toText
    (entry.2.index.columns.map Value.toText)

/-- A plan is sound when its name is plain and its expressions name columns of the table. -/
structure SoundPlan (schema : Schema) (entry : Value × IndexPlan) : Prop where
  isText : entry.1.isText = true
  plain : PlainName (indexName schema.name entry.1)
  columns : ∀ column ∈ entry.2.index.columns, column ∈ schema.columns.keys
  reads : ∀ texts, entry.2.expressions.mapM Value.asText = .ok texts →
    List.Forall₂ (ReadsItem Statement.indexColumn) texts (entry.2.index.columns.map Value.toText)

theorem column_reads {name : String} (plain : PlainName name) :
    ReadsItem Statement.indexColumn name name :=
  ⟨name, [], plain.scans, Statement.keptWhole_words [name], rfl⟩

theorem columns_read {columns : List Value} (plain : ∀ column ∈ columns, column.isPlain = true)
    {texts : List String} (written : columns.mapM Value.asText = .ok texts) :
    List.Forall₂ (ReadsItem Statement.indexColumn) texts (columns.map Value.toText) := by
  obtain rfl := Value.mapM_asText_eq_ok.mp written
  rw [List.map_map, List.forall₂_map_right_iff, List.forall₂_same]
  exact fun name member => column_reads (Value.plainNames plain name member)

theorem mem_keys_of_has {schema : Schema} (plain : schema.WellNamed) {column : Value}
    (has : schema.columns.has column = true) : column ∈ schema.columns.keys := by
  obtain ⟨entry, member, same⟩ := List.any_eq_true.mp has
  have key := List.mem_map_of_mem (f := Prod.fst) member
  obtain ⟨name, text, -⟩ := Value.isPlain_iff.mp (plain.columns _ key)
  rw [text, Value.same_iff_text] at same
  rw [same, ← text]
  exact key

theorem checkIndexColumns_eq_ok {schema : Schema} {name : Value} {columns : List Value}
    (checked : schema.checkIndexColumns name columns = .ok ()) :
    ∀ column ∈ columns, schema.columns.has column = true := by
  induction columns with
  | nil => simp
  | cons column rest inductionHypothesis =>
      rw [checkIndexColumns] at checked
      split at checked
      · exact nomatch checked
      · split at checked
        · next has => exact List.forall_mem_cons.mpr ⟨has, inductionHypothesis checked⟩
        · exact nomatch checked

/-- The declared indices have plans with their own columns. -/
theorem declaredPlans_eq_ok {schema : Schema} {indices : Keyed Index} {plans : Keyed IndexPlan}
    (planned : schema.declaredPlans indices = .ok plans) :
    plans = indices.map fun entry => (entry.1, ⟨entry.2, entry.2.columns⟩) := by
  induction indices generalizing plans with
  | nil => exact (Outcome.pure_eq_ok.mp planned).symm
  | cons entry rest inductionHypothesis =>
      rw [declaredPlans] at planned
      obtain ⟨⟨⟩, -, planned⟩ := Outcome.bind_eq_ok.mp planned
      obtain ⟨others, othersDone, planned⟩ := Outcome.bind_eq_ok.mp planned
      obtain rfl := Outcome.pure_eq_ok.mp planned
      rw [inductionHypothesis othersDone, List.map_cons]

/-- The declared indices have plans under their own names. -/
theorem declaredPlans_keys {schema : Schema} {indices : Keyed Index} {plans : Keyed IndexPlan}
    (planned : schema.declaredPlans indices = .ok plans) : plans.keys = indices.keys := by
  rw [declaredPlans_eq_ok planned, Keyed.keys, List.map_map]
  rfl

/-- The names of all plans are texts, and no name has two plans. -/
theorem addFlagged_named {columns : Keyed Column}
    (columnTexts : ∀ key ∈ columns.keys, ∃ name, key = Value.text name) {plans : Keyed IndexPlan}
    (texts : ∀ key ∈ plans.keys, ∃ name, key = Value.text name) (distinct : plans.keys.Nodup) :
    (∀ key ∈ (addFlagged plans columns).keys, ∃ name, key = Value.text name) ∧
      (addFlagged plans columns).keys.Nodup := by
  induction columns generalizing plans with
  | nil => exact ⟨texts, distinct⟩
  | cons entry rest inductionHypothesis =>
      obtain ⟨⟨word, text⟩, restTexts⟩ := List.forall_mem_cons.mp columnTexts
      rw [addFlagged]
      split
      · next added =>
          have free : Value.text word ∉ plans.keys := by
            rw [← Keyed.has_text_iff, ← text]
            simpa using (Bool.and_eq_true_iff.mp added).2
          apply inductionHypothesis restTexts
          · rw [Keyed.keys, List.map_append]
            intro key member
            rcases List.mem_append.mp member with member | member
            · exact texts key member
            · exact ⟨word, (List.mem_singleton.mp member).trans text⟩
          · rw [Keyed.keys, List.map_append]
            refine List.Nodup.append distinct (List.nodup_singleton _) ?_
            exact List.disjoint_singleton.mpr (text ▸ free)
      · exact inductionHypothesis restTexts texts distinct

theorem indexPlans_named {schema : Schema} {plans : Keyed IndexPlan}
    (planned : schema.indexPlans = .ok plans)
    (columnTexts : ∀ key ∈ schema.columns.keys, ∃ name, key = Value.text name)
    (texts : ∀ key ∈ schema.indices.keys, ∃ name, key = Value.text name)
    (distinct : schema.indices.keys.Nodup) :
    (∀ key ∈ plans.keys, ∃ name, key = Value.text name) ∧ plans.keys.Nodup := by
  obtain ⟨declared, declaredDone, rest⟩ := Outcome.bind_eq_ok.mp planned
  obtain rfl := Outcome.pure_eq_ok.mp rest
  rw [← declaredPlans_keys declaredDone] at texts distinct
  exact addFlagged_named columnTexts texts distinct

/-- The declared indices have sound plans. -/
theorem declaredPlans_sound {schema : Schema} (named : schema.WellNamed) {indices : Keyed Index}
    (among : ∀ name ∈ indices.keys, name ∈ schema.indices.keys) {plans : Keyed IndexPlan}
    (planned : schema.declaredPlans indices = .ok plans) :
    ∀ entry ∈ plans, schema.SoundPlan entry := by
  induction indices generalizing plans with
  | nil =>
      obtain rfl := Outcome.pure_eq_ok.mp planned
      simp
  | cons entry rest inductionHypothesis =>
      obtain ⟨name, index⟩ := entry
      rw [declaredPlans] at planned
      obtain ⟨⟨⟩, checked, planned⟩ := Outcome.bind_eq_ok.mp planned
      obtain ⟨others, othersDone, planned⟩ := Outcome.bind_eq_ok.mp planned
      obtain rfl := Outcome.pure_eq_ok.mp planned
      have tail := inductionHypothesis (fun other member => among other (by simp_all [Keyed.keys]))
        othersDone
      have plain := named.indices name (among name (by simp [Keyed.keys]))
      have columns := fun column member =>
        mem_keys_of_has named (checkIndexColumns_eq_ok checked column member)
      refine List.forall_mem_cons.mpr ⟨?_, tail⟩
      exact ⟨plain.1, plain.2, columns, fun texts written =>
        columns_read (fun column member => named.columns column (columns column member)) written⟩

theorem indexName_plain {table name : String} (plainTable : PlainName table)
    (plainName : PlainName name) : PlainName (indexName (.text table) (.text name)) := by
  have tableChars := isName_all plainTable
  have nameChars := isName_all plainName
  have start : ("ix_" ++ table ++ "_" ++ name).toList =
      'i' :: ('x' :: '_' :: table.toList ++ '_' :: name.toList) := by simp
  change Text.isName ("ix_" ++ table ++ "_" ++ name).toList = true
  rw [start, Text.isName, Bool.and_eq_true, List.all_eq_true]
  refine ⟨by decide, fun c member => ?_⟩
  simp only [List.cons_append, List.mem_cons, List.mem_append] at member
  rcases member with rfl | rfl | member | rfl | member
  exacts [by decide, by decide, tableChars c member, by decide, nameChars c member]

/-- The expression of a flagged column is read as the column, with or without its collation. -/
theorem flaggedExpression_reads {name : Value} {column : Column} (plain : name.isPlain = true)
    (plainCollation : column.collation.isTrue = true → column.collation.isPlain = true)
    {texts : List String}
    (written : [flaggedExpression name column].mapM Value.asText = .ok texts) :
    List.Forall₂ (ReadsItem Statement.indexColumn) texts [name.toText] := by
  obtain ⟨word, rfl, plainWord⟩ := Value.isPlain_iff.mp plain
  rw [flaggedExpression] at written
  split at written
  · next isTrue =>
      obtain ⟨collation, text, plainCollation⟩ := Value.isPlain_iff.mp (plainCollation isTrue)
      rw [text] at written
      obtain rfl := Outcome.pure_eq_ok.mp written
      have between : Separates " COLLATE " [.word "COLLATE"] :=
        ⟨fun rest => Delimited.cons (by decide) ("COLLATE ".toList ++ rest), fun _ => rfl⟩
      exact .cons ⟨word, [.word "COLLATE", .word collation],
        plainWord.scans.separated between plainCollation.scans,
        Statement.keptWhole_words [word, "COLLATE", collation], rfl⟩ .nil
  · obtain rfl := Outcome.pure_eq_ok.mp written
    exact .cons (column_reads plainWord) .nil

/-- The plans of flagged columns are sound. -/
theorem addFlagged_sound {schema : Schema} (named : schema.WellNamed) {columns : Keyed Column}
    (among : ∀ entry ∈ columns, entry ∈ schema.columns) {plans : Keyed IndexPlan}
    (sound : ∀ entry ∈ plans, schema.SoundPlan entry) :
    ∀ entry ∈ addFlagged plans columns, schema.SoundPlan entry := by
  induction columns generalizing plans with
  | nil => exact sound
  | cons entry rest inductionHypothesis =>
      obtain ⟨name, column⟩ := entry
      have tail : ∀ entry ∈ rest, entry ∈ schema.columns :=
        fun entry member => among entry (by simp [member])
      rw [addFlagged]
      split
      · have declared := among (name, column) (by simp)
        have key := named.columns name (List.mem_map_of_mem declared)
        have collation := named.collations _ declared
        obtain ⟨word, rfl, plainName⟩ := Value.isPlain_iff.mp key
        obtain ⟨table, tableName, plainTable⟩ := Value.isPlain_iff.mp named.table
        apply inductionHypothesis tail
        intro entry member
        rcases List.mem_append.mp member with member | member
        · exact sound entry member
        · rw [List.mem_singleton.mp member]
          refine ⟨rfl, ?_, ?_, fun texts written => flaggedExpression_reads key collation written⟩
          · rw [tableName]
            exact indexName_plain plainTable plainName
          · intro other single
            rw [List.mem_singleton.mp single]
            exact List.mem_map_of_mem declared
      · exact inductionHypothesis tail sound

theorem WellNamed.columnTexts {schema : Schema} (named : schema.WellNamed) :
    ∀ key ∈ schema.columns.keys, ∃ name, key = Value.text name := by
  intro key member
  obtain ⟨name, text, -⟩ := Value.isPlain_iff.mp (named.columns key member)
  exact ⟨name, text⟩

/-- All plans are sound, and no name has two of them. -/
theorem indexPlans_sound {schema : Schema} (named : schema.WellNamed) {plans : Keyed IndexPlan}
    (planned : schema.indexPlans = .ok plans) :
    (∀ entry ∈ plans, schema.SoundPlan entry) ∧ plans.keys.Nodup := by
  have texts : ∀ key ∈ schema.indices.keys, ∃ name, key = Value.text name :=
    fun key member => Value.isText_iff.mp (named.indices key member).1
  refine ⟨?_, (indexPlans_named planned named.columnTexts texts named.indicesOnce).2⟩
  obtain ⟨declared, declaredDone, rest⟩ := Outcome.bind_eq_ok.mp planned
  obtain rfl := Outcome.pure_eq_ok.mp rest
  exact addFlagged_sound named (fun _ member => member)
    (declaredPlans_sound named (fun _ member => member) declaredDone)

/-- A sound plan is written as its statement. -/
theorem indexDefinition_read {schema : Schema} (plain : schema.WellNamed)
    {entry : Value × IndexPlan} (sound : schema.SoundPlan entry) {definition : Definition}
    (written : schema.indexDefinition entry.1 entry.2 = .ok definition) :
    Statement.ofText? definition.sql = some (schema.indexStatement entry) := by
  obtain ⟨texts, textsDone, rest⟩ := Outcome.bind_eq_ok.mp written
  obtain rfl := Outcome.pure_eq_ok.mp rest
  obtain ⟨table, name, plainTable⟩ := Value.isPlain_iff.mp plain.table
  have plainOwner : PlainName schema.name.toText := by rwa [name]
  exact Definition.index_read sound.plain plainOwner (sound.reads texts textsDone)

/-- The definitions of a schema are written as the creation of its table and of its indices. -/
theorem definitions_read {schema : Schema} (plain : schema.WellNamed) {definitions : List Definition}
    (written : schema.definitions = .ok definitions) :
    ∃ plans, schema.indexPlans = .ok plans ∧
      List.Forall₂ (fun definition statement => Statement.ofText? definition.sql = some statement)
        definitions
        (.createTable schema.name.toText schema.clauses :: plans.map schema.indexStatement) := by
  obtain ⟨table, tableDone, rest⟩ := Outcome.bind_eq_ok.mp written
  obtain ⟨indices, indicesDone, rest⟩ := Outcome.bind_eq_ok.mp rest
  obtain rfl := Outcome.pure_eq_ok.mp rest
  obtain ⟨plans, planned, each⟩ := Outcome.bind_eq_ok.mp indicesDone
  obtain ⟨sound, -⟩ := indexPlans_sound plain planned
  refine ⟨plans, planned, .cons (tableDefinition_read tableDone plain) ?_⟩
  exact Outcome.each_of_mapM each fun entry member definition done =>
    indexDefinition_read plain (sound entry member) done

end Schema

end Tabular
