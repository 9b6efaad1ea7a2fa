import Tabular.Proofs.Schema.Declared

/-!
This module tells which declared indices exist after the tables of several schemas were created. The
name of an index joins those of its table and of the index, and a statement whose name is taken does
nothing, so that an index may be hidden by an earlier one.
-/

namespace Tabular

/-! ## The first item with its key -/

section First

variable {α β γ : Type} {key : α → β} {item : α}

/-- An item of a list that comes before all others with its key. -/
def FirstOf (key : α → β) (item : α) : List α → Prop
  | [] => False
  | other :: rest => other = item ∨ key other ≠ key item ∧ FirstOf key item rest

theorem firstOf_append (first second : List α) :
    FirstOf key item (first ++ second) ↔
      FirstOf key item first ∨ (∀ other ∈ first, key other ≠ key item) ∧ FirstOf key item second := by
  induction first with
  | nil => simp [FirstOf]
  | cons other rest inductionHypothesis =>
      rw [List.cons_append, FirstOf, FirstOf, inductionHypothesis, List.forall_mem_cons]
      tauto

/-- The first item of a list of lists is the first in one of them, and no earlier list has its key. -/
theorem firstOf_flatMap (parts : γ → List α) (groups : List γ) :
    FirstOf key item (groups.flatMap parts) ↔
      ∃ before group after, groups = before ++ group :: after ∧
        (∀ earlier ∈ before, ∀ other ∈ parts earlier, key other ≠ key item) ∧
        FirstOf key item (parts group) := by
  induction groups with
  | nil => simp [FirstOf]
  | cons group rest inductionHypothesis =>
      rw [List.flatMap_cons, firstOf_append, inductionHypothesis]
      constructor
      · rintro (found | ⟨absent, before, other, after, rfl, earlier, found⟩)
        · exact ⟨[], group, rest, rfl, List.forall_mem_nil _, found⟩
        · exact ⟨group :: before, other, after, rfl, List.forall_mem_cons.mpr ⟨absent, earlier⟩, found⟩
      · rintro ⟨before, other, after, same, earlier, found⟩
        cases before with
        | nil =>
            obtain ⟨rfl, rfl⟩ := List.cons.inj same
            exact .inl found
        | cons first before =>
            obtain ⟨rfl, rfl⟩ := List.cons.inj same
            obtain ⟨absent, earlier⟩ := List.forall_mem_cons.mp earlier
            exact .inr ⟨absent, before, other, after, rfl, earlier, found⟩

theorem firstOf_map (change : γ → α) (items : List γ) :
    FirstOf key item (items.map change) ↔
      ∃ source, change source = item ∧ FirstOf (fun other => key (change other)) source items := by
  induction items with
  | nil => simp [FirstOf]
  | cons other rest inductionHypothesis =>
      rw [List.map_cons, FirstOf, inductionHypothesis]
      constructor
      · rintro (rfl | ⟨differs, source, rfl, found⟩)
        · exact ⟨other, rfl, .inl rfl⟩
        · exact ⟨source, rfl, .inr ⟨differs, found⟩⟩
      · rintro ⟨source, rfl, rfl | ⟨differs, found⟩⟩
        · exact .inl rfl
        · exact .inr ⟨differs, source, rfl, found⟩

end First

/-! ## Creating indices -/

/-- This function reads a name as the database does, which may take some letters for the same. -/
def Text.folded (fold : Char → Char) (text : String) : List Char := text.toList.map fold

/-- An index that exists, with the written expressions of its columns. -/
structure CreatedIndex where
  name : String
  table : String
  unique : Bool
  expressions : List String
  deriving DecidableEq, Repr

namespace CreatedIndex

/-- The name of an index as it is read. -/
def key (fold : Char → Char) (index : CreatedIndex) : List Char := Text.folded fold index.name

/-- An index is added unless its name is taken. -/
def add (fold : Char → Char) (existing : List CreatedIndex) (index : CreatedIndex) :
    List CreatedIndex :=
  if ∃ other ∈ existing, other.key fold = index.key fold then existing else existing ++ [index]

/-- The indices that exist in the end are the first ones with their names. -/
theorem mem_foldl_add {fold : Char → Char} {index : CreatedIndex}
    (planned existing : List CreatedIndex) :
    index ∈ planned.foldl (add fold) existing ↔
      index ∈ existing ∨ (∀ other ∈ existing, other.key fold ≠ index.key fold) ∧
        FirstOf (key fold) index planned := by
  -- Names that exist already hide later ones, so the induction is over any indices to start with.
  induction planned generalizing existing with
  | nil => simp [FirstOf]
  | cons next rest inductionHypothesis =>
      rw [List.foldl_cons, inductionHypothesis, FirstOf, add]
      split
      · next taken =>
          obtain ⟨other, member, same⟩ := taken
          constructor
          · rintro (present | ⟨free, found⟩)
            · exact .inl present
            · exact .inr ⟨free, .inr ⟨fun alike => free other member (same.trans alike), found⟩⟩
          · rintro (present | ⟨free, rfl | ⟨-, found⟩⟩)
            · exact .inl present
            · exact absurd same (free other member)
            · exact .inr ⟨free, found⟩
      · next free =>
          have untaken : ∀ other ∈ existing, other.key fold ≠ next.key fold :=
            fun other member same => free ⟨other, member, same⟩
          rw [List.mem_append, List.mem_singleton, List.forall_mem_append, List.forall_mem_singleton]
          constructor
          · rintro ((present | rfl) | ⟨⟨apart, differs⟩, found⟩)
            · exact .inl present
            · exact .inr ⟨untaken, .inl rfl⟩
            · exact .inr ⟨apart, .inr ⟨differs, found⟩⟩
          · rintro (present | ⟨apart, rfl | ⟨differs, found⟩⟩)
            · exact .inl (.inl present)
            · exact .inl (.inr rfl)
            · exact .inr ⟨⟨apart, differs⟩, found⟩

end CreatedIndex

/-- This function executes a statement on the indices that exist. -/
def Definition.create (fold : Char → Char) (existing : List CreatedIndex) :
    Definition → List CreatedIndex
  | .table _ _ => existing
  | .index unique name owner expressions =>
      CreatedIndex.add fold existing ⟨name, owner, unique, expressions⟩

/-! ## Names that are read alike -/

/-- Two joined texts are the same where one begins with the other and the mark between. -/
theorem joined_eq_iff {α : Type} {mark : α} {first second tail rest : List α} (differ : first ≠ second) :
    first ++ mark :: tail = second ++ mark :: rest ↔
      (∃ middle, second = first ++ mark :: middle ∧ tail = middle ++ mark :: rest) ∨
        ∃ middle, first = second ++ mark :: middle ∧ rest = middle ++ mark :: tail := by
  constructor
  · intro same
    rcases List.append_eq_append_iff.mp same with ⟨more, longer, tails⟩ | ⟨more, longer, tails⟩
    · cases more with
      | nil => exact absurd (longer.trans (List.append_nil first)).symm differ
      | cons next middle =>
          obtain ⟨rfl, same⟩ := List.cons.inj tails
          exact .inl ⟨middle, longer, same⟩
    · cases more with
      | nil => exact absurd (longer.trans (List.append_nil second)) differ
      | cons next middle =>
          obtain ⟨rfl, same⟩ := List.cons.inj tails
          exact .inr ⟨middle, longer, same⟩
  · rintro (⟨middle, rfl, rfl⟩ | ⟨middle, rfl, rfl⟩) <;> simp

namespace Schema

section Names

variable {fold : Char → Char} {table other name key : Value}

/-- The name of the other table goes on where that of the table ends, and the name of the index goes on
with the rest of it and with the name of the other index. -/
def RunsOver (fold : Char → Char) (table name other key : Value) : Prop :=
  ∃ middle, Text.folded fold other.toText = Text.folded fold table.toText ++ fold '_' :: middle ∧
    Text.folded fold name.toText = middle ++ fold '_' :: Text.folded fold key.toText

theorem folded_indexName : Text.folded fold (indexName table name) =
    Text.folded fold "ix_" ++
      (Text.folded fold table.toText ++ fold '_' :: Text.folded fold name.toText) := by
  simp [indexName, Text.folded]

/-- Indices of different tables have the same name where one of them runs over into the other. -/
theorem indexName_alike_iff (differ : Text.folded fold table.toText ≠ Text.folded fold other.toText) :
    Text.folded fold (indexName table name) = Text.folded fold (indexName other key) ↔
      RunsOver fold table name other key ∨ RunsOver fold other key table name := by
  rw [folded_indexName, folded_indexName, List.append_right_inj, joined_eq_iff differ, RunsOver,
    RunsOver]

end Names

/-! ## The indices that one schema asks for -/

/-- The plan of a column that is flagged for an index. -/
def flaggedPlan (name : Value) (column : Column) : IndexPlan :=
  ⟨{ columns := [name] }, [flaggedExpression name column]⟩

/-- The declared indices by name, and after them the flagged columns whose names no declared index
has. -/
def wanted (schema : Schema) : Keyed IndexPlan :=
  schema.indices.map (fun entry => (entry.1, ⟨entry.2, entry.2.columns⟩)) ++
    (schema.columns.filter fun entry => entry.2.indexed && !schema.indices.has entry.1).map
      fun entry => (entry.1, flaggedPlan entry.1 entry.2)

/-- Columns with different names do not stand in each other's way, so each is added unless an index with
its name was there before. -/
theorem addFlagged_eq {columns : Keyed Column}
    (texts : ∀ key ∈ columns.keys, ∃ name, key = Value.text name) (once : columns.keys.Nodup)
    (plans : Keyed IndexPlan) :
    addFlagged plans columns = plans ++
      (columns.filter fun entry => entry.2.indexed && !plans.has entry.1).map
        fun entry => (entry.1, flaggedPlan entry.1 entry.2) := by
  induction columns generalizing plans with
  | nil => exact (List.append_nil plans).symm
  | cons entry rest inductionHypothesis =>
      obtain ⟨name, column⟩ := entry
      obtain ⟨-, restTexts⟩ := List.forall_mem_cons.mp texts
      obtain ⟨outside, restOnce⟩ := List.nodup_cons.mp once
      have others (entry : Value × Column) (member : entry ∈ rest) :
          Keyed.has (plans ++ [(name, flaggedPlan name column)]) entry.1 = plans.has entry.1 := by
        have key := List.mem_map_of_mem (f := Prod.fst) member
        obtain ⟨word, text⟩ := restTexts entry.1 key
        rw [Bool.eq_iff_iff, text, Keyed.has_text_iff, Keyed.has_text_iff, Keyed.keys, List.map_append,
          List.mem_append, List.map_singleton, List.mem_singleton, or_iff_left]
        · rfl
        · rintro rfl
          exact outside (text ▸ key)
      rw [addFlagged]
      split
      · next added =>
          have free : rest.filter (fun entry => entry.2.indexed &&
              !Keyed.has (plans ++ [(name, flaggedPlan name column)]) entry.1) =
              rest.filter fun entry => entry.2.indexed && !plans.has entry.1 :=
            List.filter_congr fun entry member => by rw [others entry member]
          rw [List.filter_cons, if_pos added, List.map_cons, ← free]
          exact (inductionHypothesis restTexts restOnce _).trans (List.append_assoc ..)
      · next passed =>
          rw [List.filter_cons, if_neg passed, inductionHypothesis restTexts restOnce]

/-- A schema that is rendered has a plan for each index that it asks for. -/
theorem indexPlans_wanted {schema : Schema} {definitions : List Definition}
    (rendered : schema.definitions = .ok definitions) (once : schema.columns.keys.Nodup) :
    ∃ table indices, definitions = table :: indices ∧ (∃ name lines, table = .table name lines) ∧
      schema.wanted.mapM (fun entry => schema.indexDefinition entry.1 entry.2) = .ok indices := by
  have texts := columns_text rendered
  obtain ⟨table, written, done⟩ := Outcome.bind_eq_ok.mp rendered
  obtain ⟨indices, listed, done⟩ := Outcome.bind_eq_ok.mp done
  obtain rfl := Outcome.pure_eq_ok.mp done
  obtain ⟨plans, planned, each⟩ := Outcome.bind_eq_ok.mp listed
  obtain ⟨declared, declares, planned⟩ := Outcome.bind_eq_ok.mp planned
  obtain rfl := Outcome.pure_eq_ok.mp planned
  obtain ⟨columns, foreignKeys, primaryKey, -, -, -, rfl⟩ := tableDefinition_eq_ok written
  refine ⟨_, indices, rfl, ⟨_, _, rfl⟩, ?_⟩
  have named (key : Value) : Keyed.has (schema.indices.map fun entry =>
      (entry.1, IndexPlan.mk entry.2 entry.2.columns)) key = schema.indices.has key := by
    rw [Keyed.has, List.any_map]
    rfl
  rw [addFlagged_eq texts once, declaredPlans_eq_ok declares] at each
  simp only [named] at each
  exact each

/-! ## The indices of several tables -/

/-- The index that a plan is made for. -/
def planned (schema : Schema) (entry : Value × IndexPlan) : CreatedIndex where
  name := indexName schema.name entry.1
  table := schema.name.toText
  unique := entry.2.index.unique
  expressions := entry.2.expressions.map Value.toText

/-- The definitions of plans create their indices in this order. -/
theorem plans_create {schema : Schema} {plans : Keyed IndexPlan} {definitions : List Definition}
    (written : plans.mapM (fun entry => schema.indexDefinition entry.1 entry.2) = .ok definitions)
    (fold : Char → Char) (existing : List CreatedIndex) :
    definitions.foldl (Definition.create fold) existing =
      (plans.map schema.planned).foldl (CreatedIndex.add fold) existing := by
  induction Outcome.mapM_eq_ok.mp written generalizing existing with
  | nil => rfl
  | cons first rest inductionHypothesis =>
      obtain ⟨texts, expressions, done⟩ := Outcome.bind_eq_ok.mp first
      obtain rfl := Outcome.pure_eq_ok.mp done
      have same : (texts.map Value.text).map Value.toText = texts :=
        (List.map_map ..).trans (List.map_id texts)
      rw [List.foldl_cons, List.map_cons, List.foldl_cons,
        ← inductionHypothesis (Outcome.mapM_eq_ok.mpr rest), Definition.create, planned,
        Value.mapM_asText_eq_ok.mp expressions, same]

/-- After all definitions were executed, the indices that the schemas ask for were created in turn. -/
theorem definitions_create {schemas : List Schema} {statements : List (List Definition)}
    (rendered : schemas.mapM definitions = .ok statements)
    (once : ∀ schema ∈ schemas, schema.columns.keys.Nodup) (fold : Char → Char)
    (existing : List CreatedIndex) :
    statements.flatten.foldl (Definition.create fold) existing =
      (schemas.flatMap fun schema => schema.wanted.map schema.planned).foldl (CreatedIndex.add fold)
        existing := by
  induction Outcome.mapM_eq_ok.mp rendered generalizing existing with
  | nil => rfl
  | cons first rest inductionHypothesis =>
      obtain ⟨firstOnce, restOnce⟩ := List.forall_mem_cons.mp once
      obtain ⟨_, indices, rfl, ⟨name, lines, rfl⟩, written⟩ := indexPlans_wanted first firstOnce
      rw [List.flatten_cons, List.flatMap_cons, List.foldl_append, List.foldl_append, List.foldl_cons,
        Definition.create, plans_create written,
        inductionHypothesis (Outcome.mapM_eq_ok.mpr rest) restOnce]

/-- No earlier table and no earlier index of the same table has an index with this name. -/
structure Unshadowed (fold : Char → Char) (before : List Schema) (schema : Schema)
    (entry : Value × IndexPlan) : Prop where
  tables : ∀ earlier ∈ before, ∀ other ∈ earlier.wanted,
    Text.folded fold (indexName earlier.name other.1) ≠ Text.folded fold (indexName schema.name entry.1)
  indices : FirstOf (fun other => Text.folded fold (indexName schema.name other.1)) entry schema.wanted

/-- An index is the declared one: it is on the table, with these columns and this uniqueness. -/
structure Declares (schema : Schema) (declared : Index) (index : CreatedIndex) : Prop where
  table : index.table = schema.name.toText
  unique : index.unique = declared.unique
  columns : index.expressions = declared.columns.map Value.toText

/-- An index of the table has this column as its first one, with or without a collation. -/
structure Leads (schema : Schema) (column : Value) (index : CreatedIndex) : Prop where
  table : index.table = schema.name.toText
  first : ∃ expression rest, index.expressions = expression :: rest ∧
    (expression = column.toText ∨ ∃ collation, expression = column.toText ++ " COLLATE " ++ collation)

/-- Every declared index exists, and every flagged column leads an index. -/
structure Complete (schema : Schema) (existing : List CreatedIndex) : Prop where
  declared : ∀ entry ∈ schema.indices, ∃ index ∈ existing, schema.Declares entry.2 index
  flagged : ∀ entry ∈ schema.columns, entry.2.indexed = true → ∃ index ∈ existing,
    schema.Leads entry.1 index

section Several

variable {fold : Char → Char} {before after : List Schema} {schema : Schema}
  {statements : List (List Definition)}
  (rendered : (before ++ schema :: after).mapM definitions = .ok statements)
  (once : ∀ other ∈ before ++ schema :: after, other.columns.keys.Nodup)
  (distinct : ((before ++ schema :: after).map fun other => Text.folded fold other.name.toText).Nodup)

include distinct in
theorem distinct_apart : ∀ other ∈ before ++ after,
    Text.folded fold other.name.toText ≠ Text.folded fold schema.name.toText := by
  rw [List.map_append, List.map_cons, List.nodup_middle, ← List.map_append, List.nodup_cons] at distinct
  exact fun other member same => distinct.1 (same ▸ List.mem_map_of_mem member)

include rendered once distinct

/-- The indices that a table has in the end are those it asks for and no earlier index hides. -/
theorem exists_index_iff (holds : CreatedIndex → Prop)
    (onTable : ∀ index, holds index → index.table = schema.name.toText) :
    (∃ index ∈ statements.flatten.foldl (Definition.create fold) [], holds index) ↔
      ∃ entry, schema.Unshadowed fold before entry ∧ holds (schema.planned entry) := by
  have exact (index : CreatedIndex) : index ∈ statements.flatten.foldl (Definition.create fold) [] ↔
      ∃ first group rest, before ++ schema :: after = first ++ group :: rest ∧
        (∀ earlier ∈ first, ∀ other ∈ earlier.wanted.map earlier.planned,
          other.key fold ≠ index.key fold) ∧
        ∃ entry, group.planned entry = index ∧
          FirstOf (fun other => (group.planned other).key fold) entry group.wanted := by
    rw [definitions_create rendered once, CreatedIndex.mem_foldl_add, firstOf_flatMap]
    simp only [List.not_mem_nil, false_or, false_implies, implies_true, true_and, firstOf_map]
  constructor
  · rintro ⟨index, member, held⟩
    obtain ⟨first, group, rest, same, earlier, entry, rfl, found⟩ := (exact index).mp member
    -- Distinct names leave only one place where the table of this index can stand.
    have named : group.name.toText = schema.name.toText := onTable _ held
    have outside : group ∉ before ++ after :=
      fun inside => distinct_apart distinct group inside (named ▸ rfl)
    rw [List.mem_append, not_or] at outside
    obtain ⟨rfl, rfl, rfl⟩ := (List.append_cons_inj_of_notMem outside.1 outside.2).mp same
    exact ⟨entry, ⟨fun table inside other asked => earlier table inside _ (List.mem_map_of_mem asked),
      found⟩, held⟩
  · rintro ⟨entry, unshadowed, held⟩
    refine ⟨schema.planned entry, (exact _).mpr ⟨before, schema, after, rfl, ?_, entry, rfl,
      unshadowed.indices⟩, held⟩
    intro earlier inside other member
    obtain ⟨source, asked, rfl⟩ := List.mem_map.mp member
    exact unshadowed.tables earlier inside source asked

/-- A table gets all that it declares exactly where no earlier index hides what it asks for. An index of
another table can hide one only where one of the two names runs over into the other. -/
theorem complete_iff :
    (schema.Complete (statements.flatten.foldl (Definition.create fold) []) ↔
      (∀ entry ∈ schema.indices, ∃ asked, schema.Unshadowed fold before asked ∧
        schema.Declares entry.2 (schema.planned asked)) ∧
      ∀ entry ∈ schema.columns, entry.2.indexed = true → ∃ asked, schema.Unshadowed fold before asked ∧
        schema.Leads entry.1 (schema.planned asked)) ∧
    ∀ other ∈ before ++ after, ∀ name key,
      (Text.folded fold (indexName schema.name name) = Text.folded fold (indexName other.name key) ↔
        RunsOver fold schema.name name other.name key ∨
          RunsOver fold other.name key schema.name name) := by
  have declared (index : Index) := exists_index_iff rendered once distinct
    (schema.Declares index) fun _ declares => declares.table
  have flagged (column : Value) := exists_index_iff rendered once distinct
    (schema.Leads column) fun _ leads => leads.table
  refine ⟨⟨fun complete => ⟨?_, ?_⟩, fun ⟨every, leading⟩ => ⟨?_, ?_⟩⟩, ?_⟩
  · exact fun entry member => (declared entry.2).mp (complete.declared entry member)
  · exact fun entry member indexed => (flagged entry.1).mp (complete.flagged entry member indexed)
  · exact fun entry member => (declared entry.2).mpr (every entry member)
  · exact fun entry member indexed => (flagged entry.1).mpr (leading entry member indexed)
  · exact fun other inside name key =>
      indexName_alike_iff fun same => distinct_apart distinct other inside same.symm

end Several

/-! ## A table whose name begins like the index of another -/

def users : Schema where
  name := .text "user"
  columns := [(.text "id", { storage := .integer, primaryKey := true }),
    (.text "role_name", { storage := .text, indexed := true })]

def roles : Schema where
  name := .text "user_role"
  columns := [(.text "id", { storage := .integer, primaryKey := true }),
    (.text "name", { storage := .text })]
  indices := [(.text "name", { columns := [.text "name"], unique := true })]

/-- An index over the bodies has the name of another column, which is flagged. -/
def articles : Schema where
  name := .text "article"
  columns := [(.text "title", { storage := .text, indexed := true }),
    (.text "body", { storage := .text })]
  indices := [(.text "title", { columns := [.text "body"] })]

/-- The indices that exist after the tables were created, where the case of letters does not count. -/
def createdIndices (schemas : List Schema) : List CreatedIndex :=
  (((schemas.mapM definitions).toOption.getD []).flatten).foldl (Definition.create Char.toLower) []

theorem complete_iff_users :
    (∃ statements, [users, roles].mapM definitions = .ok statements) ∧
      (∀ schema ∈ [users, roles], schema.columns.keys.Nodup) ∧
      ([users, roles].map fun schema => Text.folded Char.toLower schema.name.toText).Nodup ∧
      users.Complete (createdIndices [users, roles]) := by
  obtain ⟨statements, rendered⟩ : ∃ statements, [users, roles].mapM definitions = .ok statements :=
    ⟨_, rfl⟩
  have once : ∀ schema ∈ [users, roles], schema.columns.keys.Nodup := by decide
  have distinct :
      ([users, roles].map fun schema => Text.folded Char.toLower schema.name.toText).Nodup := by decide
  have leading : ∀ entry ∈ users.columns, entry.2.indexed = true →
      ∃ asked, users.Unshadowed Char.toLower [] asked ∧ users.Leads entry.1 (users.planned asked) := by
    intro entry member indexed
    rcases List.mem_pair.mp member with rfl | rfl
    · exact nomatch indexed
    · exact ⟨(.text "role_name", flaggedPlan (.text "role_name") { storage := .text, indexed := true }),
        ⟨nofun, .inl rfl⟩, rfl, "role_name", [], rfl, .inl rfl⟩
  have complete := (@complete_iff Char.toLower [] [roles] users statements rendered once
    distinct).1.mpr ⟨nofun, leading⟩
  rw [createdIndices, rendered]
  exact ⟨⟨statements, rfl⟩, once, distinct, complete⟩

/-- The second table never gets its unique index, since the first table has one of that name. A flagged
column gets no index where a declared one has its name. -/
theorem indices_hidden :
    createdIndices [users, roles] = [⟨"ix_user_role_name", "user", false, ["role_name"]⟩] ∧
      ¬ roles.Complete (createdIndices [users, roles]) ∧
      createdIndices [articles] = [⟨"ix_article_title", "article", false, ["body"]⟩] ∧
      ¬ articles.Complete (createdIndices [articles]) := by
  have clash :
      createdIndices [users, roles] = [⟨"ix_user_role_name", "user", false, ["role_name"]⟩] := by
    decide +kernel
  have taken : createdIndices [articles] = [⟨"ix_article_title", "article", false, ["body"]⟩] := by
    decide +kernel
  refine ⟨clash, ?_, taken, ?_⟩
  · rw [clash]
    intro complete
    obtain ⟨index, member, declares⟩ := complete.declared _ (List.mem_singleton_self _)
    obtain rfl := List.mem_singleton.mp member
    exact absurd declares.table (by decide)
  · rw [taken]
    intro complete
    obtain ⟨index, member, leads⟩ := complete.flagged _ List.mem_cons_self rfl
    obtain rfl := List.mem_singleton.mp member
    obtain ⟨expression, rest, same, named⟩ := leads.first
    obtain ⟨rfl, -⟩ := List.cons.inj same
    rcases named with named | ⟨collation, named⟩
    · exact absurd named (by decide)
    · exact absurd (congrArg (fun text => text.toList.head?) named) (by simp [Value.toText])

end Schema

end Tabular
