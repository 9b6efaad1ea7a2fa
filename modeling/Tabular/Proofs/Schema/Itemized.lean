import Mathlib.Algebra.Ring.Nat
import Tabular.Proofs.Schema.Declared
import Tabular.Proofs.Sql.Body

/-!
This module shows that the body of a created table falls apart into its columns, its foreign keys and
its primary key, whatever its defaults say. A default is read back from its literal, and the primary
key is announced once at most.
-/

namespace Tabular

open Sql

namespace Sql

/-! ## What an item says -/

def Token.word? : Token → Option String
  | .word text => some text
  | _ => none

def Token.literal? : Token → Option String
  | .literal content => some content
  | _ => none

/-- The contents of the literals in a text. -/
def literals (text : List Char) : List String := (tokens text).filterMap Token.literal?

/-- This function counts how often a primary key is announced. -/
def countKey : List Token → Nat
  | first :: second :: rest =>
      (if first = .word "PRIMARY" ∧ second = .word "KEY" then 1 else 0) + countKey (second :: rest)
  | _ => 0

/-- This function gives the columns that an item makes the primary key. A list of columns follows the
announcement, and a single column stands at the head of its own item. -/
def keyNames (item : List Token) : List String :=
  if item.take 2 = [.word "PRIMARY", .word "KEY"] then (item.drop 2).filterMap Token.word?
  else if countKey item = 0 then [] else (item.filterMap Token.word?).take 1

theorem countKey_cons {first : Token} (rest : List Token)
    (apart : first ≠ .word "PRIMARY" ∨ rest.head? ≠ some (.word "KEY")) :
    countKey (first :: rest) = countKey rest := by
  cases rest with
  | nil => rfl
  | cons second rest =>
      rw [countKey, if_neg, Nat.zero_add]
      rintro ⟨rfl, rfl⟩
      simp at apart

/-- A bracket or comma keeps the announcements before it apart from those after it. -/
theorem countKey_mark (before : List Token) (c : Char) (after : List Token) :
    countKey (before ++ .mark c :: after) = countKey before + countKey after := by
  induction before with
  | nil => simp [countKey_cons, countKey]
  | cons first rest inductionHypothesis =>
      cases rest with
      | nil => simp [countKey_cons, countKey]
      | cons second rest =>
          rw [List.cons_append, List.cons_append, countKey, countKey, Nat.add_assoc,
            ← inductionHypothesis, List.cons_append]

/-- Announcements in joined items are counted item by item. -/
theorem countKey_intercalate (items : List (List Token)) :
    countKey (List.intercalate [.mark ','] items) = (items.map countKey).sum := by
  induction items with
  | nil => rfl
  | cons first rest inductionHypothesis =>
      cases rest with
      | nil => simp
      | cons second rest =>
          rw [List.intercalate_cons_cons, List.append_assoc, List.singleton_append, countKey_mark,
            inductionHypothesis, List.map_cons (l := second :: rest), List.sum_cons]

theorem countKey_names (names : List String) : countKey (nameTokens names) = 0 := by
  simp [nameTokens, countKey_intercalate, Function.comp_def, countKey]

/-- A list of names in brackets announces nothing. -/
theorem countKey_list (before : List Token) (names : List String) (after : List Token) :
    countKey (before ++ listTokens names ++ after) = countKey before + countKey after := by
  have split : before ++ listTokens names ++ after =
      before ++ .mark '(' :: (nameTokens names ++ .mark ')' :: after) := by simp [listTokens]
  rw [split, countKey_mark, countKey_mark, countKey_names, Nat.zero_add]

/-- How often items announce a primary key, and which columns they name. -/
structure Announces (items : List (List Token)) (count : Nat) (names : List String) : Prop where
  count : (items.map countKey).sum = count
  names : items.flatMap keyNames = names

/-- Two groups of items announce what each one announces. -/
theorem Announces.append {first second : List (List Token)} {count more : Nat}
    {names others : List String} (announces : Announces first count names)
    (also : Announces second more others) :
    Announces (first ++ second) (count + more) (names ++ others) where
  count := by rw [List.map_append, List.sum_append, announces.count, also.count]
  names := by rw [List.flatMap_append, announces.names, also.names]

theorem words_names (names : List String) : (nameTokens names).filterMap Token.word? = names := by
  induction names with
  | nil => rfl
  | cons name names inductionHypothesis =>
      cases names with
      | nil => rfl
      | cons other names =>
          rw [nameTokens, List.map_cons, List.map_cons, List.intercalate_cons_cons] at *
          rw [List.filterMap_append, List.filterMap_append, inductionHypothesis]
          rfl

end Sql

/-! ## Items that are written -/

namespace Column

theorem storage_ne (column : Column) :
    Token.word column.storage.name ≠ .word "KEY" ∧ Token.word column.storage.name ≠ .word "PRIMARY" := by
  cases column.storage <;> decide

/-- What follows the constraints of a column announces no key. -/
theorem countKey_rest (column : Column) :
    countKey (column.defaultTokens ++ column.collationTokens) = 0 := by
  unfold defaultTokens collationTokens
  split <;> split <;> simp [countKey]

/-- An item of a column announces a primary key exactly when the column is flagged. -/
theorem countKey_tokens (column : Column) (name : Value) :
    countKey (column.tokens name) = if column.primaryKey then 1 else 0 := by
  have none := column.countKey_rest
  have storage := column.storage_ne
  rw [tokens, countKey_cons _ (.inr (by simpa using storage.1)), countKey_cons _ (.inl storage.2),
    List.append_assoc, constraintTokens]
  cases column.primaryKey with
  | true =>
      rw [if_pos rfl, if_pos rfl, List.cons_append, List.cons_append, countKey, if_pos ⟨rfl, rfl⟩,
        List.nil_append, countKey_cons _ (.inl (by decide)), none]
  | false =>
      cases column.unique <;> cases column.notNull <;> simp [countKey_cons, none]

/-- It names the column that it makes the primary key. -/
theorem keyNames_tokens (column : Column) (name : Value) :
    keyNames (column.tokens name) = if column.primaryKey then [name.toText] else [] := by
  have unannounced : (column.tokens name).take 2 ≠ [.word "PRIMARY", .word "KEY"] := by
    simpa [tokens] using fun _ => column.storage_ne.1
  rw [keyNames, if_neg unannounced, countKey_tokens]
  cases column.primaryKey <;> simp [tokens, Token.word?]

/-- Its only literal is the text of the default. -/
theorem literals_tokens (column : Column) (name : Value) :
    (column.tokens name).filterMap Token.literal? = column.default.text?.toList := by
  have constraints : column.constraintTokens.filterMap Token.literal? = [] := by
    unfold constraintTokens
    cases column.primaryKey <;> cases column.unique <;> cases column.notNull <;> rfl
  have collation : column.collationTokens.filterMap Token.literal? = [] := by
    unfold collationTokens
    split <;> rfl
  have default : column.defaultTokens.filterMap Token.literal? = column.default.text?.toList := by
    unfold defaultTokens
    cases column.default <;> rfl
  rw [tokens, List.filterMap_cons_none rfl, List.filterMap_cons_none rfl, List.filterMap_append,
    List.filterMap_append, constraints, default, collation, List.append_nil, List.nil_append]

end Column

/-- A foreign key announces no primary key. -/
theorem ForeignKey.announces_none (sources : List String) (table : String) (targets : List String) :
    Announces [ForeignKey.tokens sources table targets] 0 [] := by
  have none : countKey (ForeignKey.tokens sources table targets) = 0 := by
    rw [ForeignKey.tokens, ← List.append_nil (listTokens targets), ← List.append_assoc, countKey_list,
      countKey_list]
    rfl
  refine ⟨by simp [none], ?_⟩
  rw [List.flatMap_singleton, keyNames, none]
  simp [ForeignKey.tokens]

/-- The body of a table is split into the items that its lines are cut into. -/
theorem Definition.table_items {name : String} {lines : List String} {items : List (List Token)}
    (isWord : IsWord name.toList) (scanned : List.Forall₂ Scans lines items)
    (kept : ∀ item ∈ items, Statement.KeptWhole item)
    (named : ∀ item ∈ items, ∃ word tail, item = .word word :: tail) :
    ∃ texts, bodyItems? (table name lines).sql.toList = some texts ∧ texts.map tokens = items := by
  obtain ⟨inner, begins⟩ : ∃ inner, (table name lines).body.toList = '(' :: inner := by
    refine ⟨("\n    " ++ String.intercalate ",\n    " lines ++ "\n)").toList, ?_⟩
    simp [body]
  have inside := (tableBody_scans name scanned).tokens_eq
  rw [begins, tokens_mark (by decide), List.cons_append] at inside
  have plain : ∀ c ∈ (table name lines).head.toList, c ≠ '(' := by
    rintro c member rfl
    simp only [head, String.toList_append, List.mem_append] at member
    rcases member with (member | member) | member
    · exact absurd member (by decide)
    · exact absurd (isWord.2 '(' member).1 (by decide)
    · exact absurd member (by decide)
  rw [sql, String.toList_append, begins]
  apply bodyItems?_of_bracket plain
  · intro item member
    obtain ⟨word, tail, rfl⟩ := named item member
    exact List.cons_ne_nil _ _
  · rw [inside]
    exact Statement.bracket_items [] kept named

/-- A statement announces primary keys only in its items. -/
theorem Definition.table_countKey {name : String} {lines : List String} {items : List (List Token)}
    (isWord : IsWord name.toList) (scanned : List.Forall₂ Scans lines items) :
    countKey (Sql.tokens (table name lines).sql.toList) = (items.map countKey).sum := by
  have front : countKey [.word "CREATE", .word "TABLE", .word name] = 0 := by simp [countKey]
  have opened := countKey_mark [.word "CREATE", .word "TABLE", .word name] '('
    (List.intercalate [.mark ','] items ++ [.mark ')'])
  have closed := countKey_mark (List.intercalate [.mark ','] items) ')' []
  rw [front, Nat.zero_add, closed, countKey_intercalate] at opened
  rw [table_tokens isWord scanned]
  exact opened

namespace Schema

/-- The line of the primary key announces it once, with its columns. -/
theorem primaryKeyTokens_announces (names : List String) :
    Announces [primaryKeyTokens names] 1 names := by
  have once : countKey (primaryKeyTokens names) = 1 := by
    rw [primaryKeyTokens, ← List.append_nil (listTokens names), ← List.append_assoc, countKey_list]
    rfl
  have rest : (listTokens names).filterMap Token.word? = names := by
    rw [listTokens, List.cons_append, List.filterMap_cons_none rfl, List.filterMap_append, words_names]
    exact List.append_nil names
  exact ⟨by simp [once], by simp [keyNames, primaryKeyTokens, rest]⟩

/-- All names in the definition of a table are words. Every identifier is one. -/
structure WordNames (schema : Schema) : Prop where
  table : schema.name.IsWord
  columns : ∀ name ∈ schema.columns.keys, name.IsWord
  collations : ∀ entry ∈ schema.columns, entry.2.collation.isTrue = true → entry.2.collation.IsWord
  foreignKeys : ∀ key ∈ schema.foreignKeys, key.WordNames
  primaryKey : ∀ name ∈ schema.compositeKey, name.IsWord

/-- An item says what a column is, and its only literal is the default of the column. -/
structure ColumnItem (entry : Value × Column) (item : List Char) : Prop where
  tokens : Sql.tokens item = entry.2.tokens entry.1
  literals : Sql.literals item = entry.2.default.text?.toList

/-- The tokens are those of a foreign key. -/
def KeyTokens (key : ForeignKey) (found : List Token) : Prop :=
  ∃ sources table targets, key.sourceColumns = .ok (sources.map Value.text) ∧
    key.table = .ok table ∧ key.targetColumns = .ok (targets.map Value.text) ∧
    found = ForeignKey.tokens sources table.toText targets

/-- The tokens of the line of the primary key, which is there when the primary key is a list. -/
def PrimaryKeyTokens (schema : Schema) (founds : List (List Token)) : Prop :=
  (schema.compositeKey = [] ∧ founds = []) ∨
    ∃ names, schema.compositeKey = names.map Value.text ∧ names ≠ [] ∧
      founds = [primaryKeyTokens names]

variable {schema : Schema} {definition : Definition}

/-- The columns announce those that are flagged. -/
theorem columns_announce (columns : Keyed Column) :
    Announces (columns.map fun entry => entry.2.tokens entry.1)
      (columns.filter fun entry => entry.2.primaryKey).length
      ((columns.filter fun entry => entry.2.primaryKey).map fun entry => entry.1.toText) := by
  induction columns with
  | nil => exact ⟨rfl, rfl⟩
  | cons entry rest inductionHypothesis =>
      have first : Announces [entry.2.tokens entry.1] (if entry.2.primaryKey then 1 else 0)
          (if entry.2.primaryKey then [entry.1.toText] else []) :=
        ⟨by simp [Column.countKey_tokens], by simp [Column.keyNames_tokens]⟩
      have whole := first.append inductionHypothesis
      rw [List.filter_cons]
      cases flagged : entry.2.primaryKey <;> simpa [flagged, Nat.add_comm] using whole

/-- No line of a foreign key announces a primary key. -/
theorem foreignKeys_announce {foreignKeys : List ForeignKey} {keys : List (List Token)}
    (stand : List.Forall₂ KeyTokens foreignKeys keys) : Announces keys 0 [] := by
  induction stand with
  | nil => exact ⟨rfl, rfl⟩
  | cons first _ inductionHypothesis =>
      obtain ⟨sources, table, targets, -, -, -, rfl⟩ := first
      exact (ForeignKey.announces_none sources table.toText targets).append inductionHypothesis

/-- The lines of a table are cut into the tokens of its columns, foreign keys and primary key. -/
theorem definition_lines (words : schema.WordNames)
    (written : schema.tableDefinition = .ok definition) :
    ∃ lines keys primary, definition = .table schema.name.toText lines ∧
      List.Forall₂ KeyTokens schema.foreignKeys keys ∧ schema.PrimaryKeyTokens primary ∧
      List.Forall₂ Scans lines
        ((schema.columns.map fun entry => entry.2.tokens entry.1) ++ keys ++ primary) := by
  obtain ⟨columns, foreignKeys, primaryKey, columnsDone, foreignKeysDone, writes, rfl⟩ :=
    tableDefinition_eq_ok written
  have columnsScan : List.Forall₂ Scans columns
      (schema.columns.map fun entry => entry.2.tokens entry.1) :=
    Outcome.each_of_mapM columnsDone fun entry member text done =>
      Column.line_scans done (words.columns _ (List.mem_map_of_mem member))
        (words.collations entry member)
  obtain ⟨keys, keysScan, keysStand⟩ :=
    Outcome.through_mapM Scans KeyTokens foreignKeysDone
      fun key member text done => by
        obtain ⟨sources, table, targets, source, named, target, scans⟩ :=
          ForeignKey.line_scans done (words.foreignKeys key member)
        exact ⟨_, scans, sources, table, targets, source, named, target, rfl⟩
  have primaryScan : ∃ primary, schema.PrimaryKeyTokens primary ∧
      List.Forall₂ Scans primaryKey primary := by
    rcases writes with ⟨empty, rfl⟩ | ⟨names, key, filled, rfl⟩
    · exact ⟨[], .inl ⟨empty, rfl⟩, .nil⟩
    · have inKey := words.primaryKey
      rw [key] at inKey
      exact ⟨_, .inr ⟨names, key, filled, rfl⟩, .cons (primaryKeyLine_scans (Value.wordNames inKey)) .nil⟩
  obtain ⟨primary, primaryStands, primaryScan⟩ := primaryScan
  exact ⟨_, keys, primary, rfl, keysStand, primaryStands,
    List.rel_append (List.rel_append columnsScan keysScan) primaryScan⟩

/-- The primary key of a table is announced once, if it has one, and names its columns. -/
theorem items_announce (checked : schema.check = .ok schema)
    (texts : ∀ key ∈ schema.columns.keys, ∃ name, key = .text name) {keys primary : List (List Token)}
    (keysStand : List.Forall₂ KeyTokens schema.foreignKeys keys)
    (primaryStands : schema.PrimaryKeyTokens primary) :
    Announces ((schema.columns.map fun entry => entry.2.tokens entry.1) ++ keys ++ primary)
        (if schema.primaryKeyColumns = [] then 0 else 1) (schema.primaryKeyColumns.map Value.toText) ∧
      (schema.primaryKeyColumns.map Value.toText).map Value.text = schema.primaryKeyColumns := by
  have flaggedTexts : (schema.flaggedColumns.map Value.toText).map Value.text = schema.flaggedColumns := by
    refine (Value.map_text_toText fun value member => ?_).symm
    obtain ⟨entry, inside, rfl⟩ := List.mem_map.mp member
    exact texts _ (List.mem_map_of_mem (List.mem_of_mem_filter inside))
  have columns : Announces (schema.columns.map fun entry => entry.2.tokens entry.1)
      schema.flaggedColumns.length (schema.flaggedColumns.map Value.toText) := by
    rw [flaggedColumns, List.length_map, List.map_map]
    exact columns_announce schema.columns
  have whole := columns.append (foreignKeys_announce keysStand)
  rw [Nat.add_zero, List.append_nil] at whole
  rcases primaryStands with ⟨empty, rfl⟩ | ⟨names, key, filled, rfl⟩
  · -- Without a list, the flagged column is the primary key, and there is one at most.
    have same : schema.primaryKeyColumns = schema.flaggedColumns := by
      rw [primaryKeyColumns, empty]
      rfl
    rw [same, List.append_nil]
    refine ⟨?_, flaggedTexts⟩
    rcases check_cases checked with ⟨key, flagged, -⟩ | flagged
    · simpa [flagged] using whole
    · simpa [flagged] using whole
  · -- Beside a list, no column is flagged.
    have same : schema.primaryKeyColumns = names.map Value.text := by
      rw [primaryKeyColumns, key, if_neg (by simpa using filled)]
    have flagged : schema.flaggedColumns = [] :=
      (check_cases checked).resolve_left fun ⟨_, _, empty⟩ => filled (by simpa [key] using empty)
    have written : (names.map Value.text).map Value.toText = names := by
      rw [List.map_map]
      exact List.map_id names
    rw [flagged] at whole
    rw [same, written, if_neg (by simpa using filled)]
    exact ⟨whole.append (primaryKeyTokens_announces names), rfl⟩

/-- Each item begins with a word and keeps its commas in brackets. -/
theorem itemTokens_kept {keys primary : List (List Token)}
    (keysStand : List.Forall₂ KeyTokens schema.foreignKeys keys)
    (primaryStands : schema.PrimaryKeyTokens primary) :
    ∀ item ∈ (schema.columns.map fun entry => entry.2.tokens entry.1) ++ keys ++ primary,
      Statement.KeptWhole item ∧ ∃ word tail, item = .word word :: tail := by
  intro item member
  rcases List.mem_append.mp member with member | member
  · rcases List.mem_append.mp member with member | member
    · obtain ⟨entry, -, rfl⟩ := List.mem_map.mp member
      exact ⟨Statement.keptWhole_tokens (entry.2.tokens_noMark entry.1), _, _, rfl⟩
    · obtain ⟨key, -, sources, table, targets, -, -, -, rfl⟩ := Outcome.standing keysStand member
      exact ⟨ForeignKey.keptWhole_tokens _ _ _, _, _, rfl⟩
  · rcases primaryStands with ⟨-, rfl⟩ | ⟨names, -, -, rfl⟩
    · exact absurd member List.not_mem_nil
    · obtain rfl := List.mem_singleton.mp member
      exact ⟨keptWhole_primaryKeyTokens names, _, _, rfl⟩

/-- The body of a created table falls apart into one item for each column, one for each foreign key and
one for a primary key that is a list, in this order. The primary key is announced once in the whole
statement, if the table has one, and names its columns. -/
theorem definition_itemized (checked : schema.check = .ok schema) (words : schema.WordNames)
    (written : schema.tableDefinition = .ok definition) :
    ∃ columns foreignKeys primaryKey,
      bodyItems? definition.sql.toList = some (columns ++ foreignKeys ++ primaryKey) ∧
      List.Forall₂ ColumnItem schema.columns columns ∧
      List.Forall₂ (fun key item => KeyTokens key (tokens item)) schema.foreignKeys foreignKeys ∧
      schema.PrimaryKeyTokens (primaryKey.map tokens) ∧
      countKey (tokens definition.sql.toList) = (if schema.primaryKeyColumns = [] then 0 else 1) ∧
      ((columns ++ foreignKeys ++ primaryKey).flatMap fun item => keyNames (tokens item)).map
        Value.text = schema.primaryKeyColumns := by
  have texts := tableDefinition_texts written
  obtain ⟨lines, keys, primary, rfl, keysStand, primaryStands, scanned⟩ :=
    definition_lines words written
  have kept := itemTokens_kept keysStand primaryStands
  have announces := items_announce checked texts keysStand primaryStands
  obtain ⟨items, split, same⟩ := Definition.table_items words.table scanned
    (fun item member => (kept item member).1) (fun item member => (kept item member).2)
  have names : (items.flatMap fun item => keyNames (tokens item)).map Value.text =
      schema.primaryKeyColumns := by
    rw [← announces.2, ← announces.1.names, ← same, List.flatMap_map]
  have count : countKey (tokens (Definition.table schema.name.toText lines).sql.toList) =
      if schema.primaryKeyColumns = [] then 0 else 1 :=
    (Definition.table_countKey words.table scanned).trans announces.1.count
  obtain ⟨others, primaryKey, rfl, sameOthers, samePrimary⟩ := List.map_eq_append_iff.mp same
  obtain ⟨columns, foreignKeys, rfl, sameColumns, sameKeys⟩ := List.map_eq_append_iff.mp sameOthers
  refine ⟨columns, foreignKeys, primaryKey, split, ?_, ?_, samePrimary ▸ primaryStands, count, names⟩
  · rw [← List.forall₂_eq_eq_eq, List.forall₂_map_left_iff, List.forall₂_map_right_iff] at sameColumns
    refine sameColumns.flip.imp fun entry item same => ⟨same, ?_⟩
    rw [literals, same, Column.literals_tokens]
  · rwa [← sameKeys, List.forall₂_map_right_iff] at keysStand

def parcels : Schema where
  name := .text "parcels"
  columns := [
    (.text "depot", { storage := .text, notNull := true, default := .text "'', PRIMARY KEY (" }),
    (.text "number", { storage := .integer, default := .int (-1) }),
    (.text "label", { storage := .text, default := .text ")\n'", collation := .text "nocase" })]
  foreignKeys := [{ source := .text "depot", references := [(.text "depots", .text "code")] }]
  primaryKey := some [.text "depot", .text "number"]

def parcelsTable : Definition :=
  .table "parcels" [
    "depot TEXT NOT NULL DEFAULT ''''', PRIMARY KEY ('",
    "number INTEGER DEFAULT -1",
    "label TEXT DEFAULT ')\n''' COLLATE nocase",
    "FOREIGN KEY(depot) REFERENCES depots(code)",
    "PRIMARY KEY (depot, number)"]

/-- The parcels have defaults that look like syntax, and each one stays in its own item. -/
theorem definition_itemized_parcels :
    parcels.check = .ok parcels ∧ parcels.WordNames ∧
      parcels.tableDefinition = .ok parcelsTable ∧
      ∃ columns foreignKeys primaryKey,
        bodyItems? parcelsTable.sql.toList = some (columns ++ foreignKeys ++ primaryKey) ∧
        columns.map literals = [["'', PRIMARY KEY ("], [], [")\n'"]] ∧
        foreignKeys.length = 1 ∧ primaryKey.length = 1 ∧
        countKey (tokens parcelsTable.sql.toList) = 1 := by
  have checked : parcels.check = .ok parcels := by decide
  have reference : ForeignKey.WordNames
      { source := .text "depot", references := [(.text "depots", .text "code")] } := by
    constructor
    · rintro names ⟨⟩; decide
    · rintro name ⟨⟩; decide
    · rintro names ⟨⟩; decide
  have words : parcels.WordNames :=
    ⟨by decide, by decide, by decide, by simpa [parcels] using reference, by decide⟩
  have written : parcels.tableDefinition = .ok parcelsTable := by decide
  obtain ⟨columns, foreignKeys, primaryKey, split, columnsStand, keysStand, primaryStands, count, -⟩ :=
    definition_itemized checked words written
  refine ⟨checked, words, written, columns, foreignKeys, primaryKey, split, ?_,
    keysStand.length_eq.symm, ?_, count⟩
  · have read : columns.map literals =
        parcels.columns.map fun entry => entry.2.default.text?.toList := by
      rw [← List.forall₂_eq_eq_eq, List.forall₂_map_left_iff, List.forall₂_map_right_iff]
      exact columnsStand.flip.imp fun item entry stands => stands.literals
    rw [read]
    decide
  · rcases primaryStands with ⟨none, -⟩ | ⟨names, -, -, one⟩
    · exact absurd none (by decide)
    · simpa using congrArg List.length one

end Schema

end Tabular
