import Mathlib.Data.List.Dedup
import Tabular.Proofs.Schema.Reordered
import Tabular.Proofs.Table.Links
import Tabular.Proofs.Table.Reported

/-!
This module rebuilds a table from what is reported of it. The table is found whatever order the rows
come in, and its parts do not depend on that order.
-/

namespace Tabular

open Tabular.Action

variable {σ τ α : Type}

/-! ## Rows in order -/

/-- Items that stand in the order of their different places are the sorted ones. -/
theorem eq_inPlaces {place : α → Int} {items ordered : List α} (perm : ordered.Perm items)
    (inOrder : ordered.Pairwise fun first second => place first ≤ place second)
    (once : (items.map place).Nodup) : ordered = inPlaces place items := by
  have sorted : (inPlaces place items).Pairwise fun first second => place first ≤ place second := by
    refine (List.pairwise_mergeSort ?_ ?_ items).imp of_decide_eq_true
    · intro first second third atMost also
      exact decide_eq_true (Int.le_trans (of_decide_eq_true atMost) (of_decide_eq_true also))
    · intro first second
      rw [Bool.or_eq_true, decide_eq_true_eq, decide_eq_true_eq]
      exact Int.le_total _ _
  have permSorted : (inPlaces place items).Perm items := List.mergeSort_perm items _
  exact Value.eq_of_inOrder (perm.trans permSorted.symm) inOrder sorted
    ((permSorted.map place).nodup_iff.mpr once)

/-- Rows of the chosen items are chosen. -/
theorem Lists.filter {stands : α → Row → Prop} {items : List α} {rows : List Row}
    (lists : Lists stands items rows) {chosen : α → Bool} {chosenRow : Row → Bool}
    (same : ∀ item row, stands item row → chosen item = chosenRow row) :
    Lists stands (items.filter chosen) (rows.filter chosenRow) := by
  obtain ⟨listed, perm, each⟩ := lists
  refine ⟨listed.filter chosen, perm.filter chosen, List.rel_filter ?_ each⟩
  intro item row stand
  exact (congrArg (· = true) (same item row stand)).to_iff

/-! ## The primary key -/

/-- The reported primary key is read in the order of its places. -/
theorem Replies.Distinct.reportedKey {replies : Replies} (distinct : replies.Distinct)
    {rows : List Row} (lists : Lists ColumnReply replies.columns rows) :
    Schema.reportedKey rows = .ok replies.key := by
  obtain ⟨ordered, perm, inOrder, done⟩ := Schema.reportedKey_inOrder
    (fun _ _ stands => stands.place) (fun _ _ stands => stands.name) lists
  rw [done, eq_inPlaces (perm.filter _) (inOrder.filter _) distinct.key]
  rfl

/-! ## Columns -/

/-- A reported column is read. Unique columns may be listed in another order. -/
theorem ColumnReply.read {replies : Replies} {column : ReportedColumn} {row : Row}
    (stands : ColumnReply column row) {unique : List Value}
    (perm : unique.Perm replies.uniqueColumns) :
    Schema.reportedColumn (Schema.onlyColumn replies.key) unique row =
      .ok (replies.entry column) := by
  have storage : Schema.reportedStorage (.orNull column.storage) =
      .ok ((column.storage.map Storage.ofReported).getD .blob) := by
    cases column.storage <;> rfl
  have default : Schema.reportedDefault (.orNull column.default) =
      .ok ((column.default.map readDefault).getD .null) := by
    cases column.default <;> rfl
  rw [Schema.reportedColumn, stands.storage, stands.name, Schema.reportedFlag_int stands.notNull,
    stands.default]
  simp only [Outcome.ok_bind, storage, default, perm.any_eq]
  rfl

theorem reportedColumns_ok {replies : Replies} {rows : List Row}
    (lists : Lists ColumnReply replies.columns rows) {unique : List Value}
    (perm : unique.Perm replies.uniqueColumns) :
    ∃ found, rows.mapM (Schema.reportedColumn (Schema.onlyColumn replies.key) unique) = .ok found ∧
      found.Perm (replies.columns.map replies.entry) := by
  obtain ⟨listed, permListed, each⟩ := lists
  refine ⟨listed.map replies.entry, ?_, permListed.map _⟩
  rw [Outcome.mapM_eq_ok, List.forall₂_map_right_iff]
  exact each.flip.imp fun row column stands => stands.read perm

/-! ## Indices -/

theorem IndexReply.flag {index : ReportedIndex} {row : Row} (stands : IndexReply index row) :
    Schema.reportedFlag row "unique" = .ok (decide (index.unique ≠ 0)) :=
  Schema.reportedFlag_int stands.unique

/-- The rows tell which indices were made by constraints. -/
theorem IndexReply.isConstraint {index : ReportedIndex} {row : Row}
    (stands : IndexReply index row) :
    Schema.isConstraintIndex row = .ok (decide (index.origin = "u" ∧ index.unique ≠ 0)) := by
  rw [Schema.isConstraintIndex, stands.origin, Outcome.ok_bind, Value.same_text_text]
  by_cases constraint : index.origin = "u"
  · rw [if_pos (by simpa using constraint), stands.flag]
    simp [constraint]
  · rw [if_neg (by simpa using constraint)]
    simp [constraint]
    rfl

/-- The rows tell under which names indices were created. -/
theorem IndexReply.declaredName {index : ReportedIndex} {row : Row} (stands : IndexReply index row)
    (schema : Schema) : Schema.declaredIndexName schema row = .ok (index.declaredName? schema) := by
  rw [Schema.declaredIndexName, stands.origin, Outcome.ok_bind, Value.same_text_text, stands.name,
    ReportedIndex.declaredName?]
  by_cases created : index.origin = "c"
  · rw [if_pos (by simpa using created), Outcome.ok_bind]
    by_cases starts : schema.indexStart.toList <+: index.name.toList
    · simp only [List.isPrefixOf_iff_prefix.mpr starts, created, starts, and_self, if_true]
      rfl
    · simp only [starts, mt List.isPrefixOf_iff_prefix.mp starts, and_false, if_false]
      rfl
  · rw [if_neg (by simpa using created)]
    simp only [created, false_and, if_false]
    rfl

theorem ReportedIndex.name_eq {schema : Schema} {index : ReportedIndex} {name : String}
    (declared : index.declaredName? schema = some name) :
    index.name = schema.indexStart ++ name := by
  rw [declaredName?] at declared
  split at declared
  · next both =>
      obtain ⟨rest, whole⟩ := both.2
      rw [← whole, List.drop_left] at declared
      rw [← Option.some.inj declared, ← String.toList_inj, String.toList_append,
        String.toList_ofList, whole]
  · exact nomatch declared

/-- Indices with different names are declared under different names. -/
theorem Replies.Distinct.declaredOnce {replies : Replies} (distinct : replies.Distinct)
    (schema : Schema) :
    (Keyed.keys (replies.indices.filterMap (ReportedIndex.declared? schema))).Nodup := by
  rw [Keyed.keys, List.map_filterMap, List.Nodup, List.pairwise_filterMap]
  refine (List.pairwise_map.mp distinct.indices).imp fun {first second} differ => ?_
  have keys (index : ReportedIndex) : (index.declared? schema).map Prod.fst =
      (index.declaredName? schema).map Value.text := by
    rw [ReportedIndex.declared?, Option.map_map]
    rfl
  rw [keys, keys]
  intro key found other otherFound same
  obtain ⟨name, declared, rfl⟩ := Option.map_eq_some_iff.mp found
  obtain ⟨also, declaredToo, rfl⟩ := Option.map_eq_some_iff.mp otherFound
  obtain rfl := Value.text.inj same
  exact differ (ReportedIndex.name_eq declared |>.trans (ReportedIndex.name_eq declaredToo).symm)

section Indices

variable {engine : Engine τ} {connection : Connection} {valid : τ → Prop} {schema : Schema}
  {replies : Replies} {database : Database}
  (reports : Reporting engine connection valid schema replies) (distinct : replies.Distinct)
  (opened : database.connection = some connection)

include reports distinct opened

/-- The columns of an index are read in their order. -/
theorem Reporting.finds_indexColumns {index : ReportedIndex} (member : index ∈ replies.indices) :
    Finds engine valid (Schema.indexColumns database (.text index.name) : Action σ (List Value))
      (· = index.columns) := by
  refine (Database.finds_all reports.accepts opened (reports.parts index member)).bind
    fun rows lists => ?_
  obtain ⟨placed, sorted, ordered, placedDone, sortedDone, each, perm, inOrder⟩ :=
    lists.sorted fun _ _ stands => stands.place
  refine Finds.lift ?_ rfl
  rw [placedDone, Outcome.ok_bind, sortedDone, Outcome.ok_bind, Outcome.mapM_eq_ok,
    ReportedIndex.columns, ← eq_inPlaces perm inOrder (distinct.parts index member),
    List.forall₂_map_right_iff]
  exact each.flip.imp fun row part stands => stands.name

/-- The columns of constraint indices are found in the order of the rows. -/
theorem Reporting.finds_uniqueFrom {listed : List ReportedIndex} {rows : List Row}
    (each : List.Forall₂ IndexReply listed rows)
    (among : ∀ index ∈ listed, index ∈ replies.indices) :
    Finds engine valid (Schema.uniqueFrom database rows : Action σ (List Value))
      (· = listed.filterMap ReportedIndex.uniqueColumn?) := by
  induction each with
  | nil => exact .pure rfl
  | @cons index row listed rows stands _ inductionHypothesis =>
      obtain ⟨member, amongRest⟩ := List.forall_mem_cons.mp among
      have others := inductionHypothesis amongRest
      refine Finds.lifted stands.isConstraint ?_
      rw [List.filterMap_cons, ReportedIndex.uniqueColumn?]
      by_cases constraint : index.origin = "u" ∧ index.unique ≠ 0
      · rw [if_pos constraint, if_pos (decide_eq_true constraint)]
        refine Finds.lifted stands.name
          ((reports.finds_indexColumns distinct opened member).bind ?_)
        rintro _ rfl
        refine others.bind ?_
        rintro _ rfl
        match index.columns with
        | [] => exact .pure rfl
        | [column] => exact .pure rfl
        | _ :: _ :: _ => exact .pure rfl
      · rw [if_neg constraint, decide_eq_false constraint, if_neg Bool.false_ne_true]
        exact others

/-- The created indices are found in the order of the rows. -/
theorem Reporting.finds_explicitFrom {listed : List ReportedIndex} {rows : List Row}
    (each : List.Forall₂ IndexReply listed rows) (among : ∀ index ∈ listed, index ∈ replies.indices)
    (found : Keyed Index)
    (once : (found ++ listed.filterMap (ReportedIndex.declared? schema)).keys.Nodup) :
    Finds engine valid (Schema.explicitFrom schema database rows found : Action σ (Keyed Index))
      (· = found ++ listed.filterMap (ReportedIndex.declared? schema)) := by
  induction each generalizing found with
  | nil => exact .pure (List.append_nil found).symm
  | @cons index row listed rows stands _ inductionHypothesis =>
      obtain ⟨member, amongRest⟩ := List.forall_mem_cons.mp among
      refine Finds.lifted (stands.declaredName schema) ?_
      rw [List.filterMap_cons, ReportedIndex.declared?] at once ⊢
      cases declared : index.declaredName? schema with
      | none =>
          rw [declared] at once
          exact inductionHypothesis amongRest found once
      | some name =>
          rw [declared] at once
          simp only [Option.map_some] at once ⊢
          rw [List.append_cons] at once ⊢
          refine Finds.lifted stands.name
            ((reports.finds_indexColumns distinct opened member).bind ?_)
          rintro _ rfl
          refine Finds.lifted stands.flag ?_
          rw [Keyed.put_fresh once]
          exact inductionHypothesis amongRest _ once

/-- The rows of all indices tell which columns are unique. -/
theorem Reporting.finds_uniqueColumns :
    Finds engine valid (Schema.uniqueColumns schema database : Action σ (List Value))
      fun unique => unique.Perm replies.uniqueColumns := by
  refine (Database.finds_all reports.accepts opened reports.indices).bind fun rows lists => ?_
  obtain ⟨listed, perm, each⟩ := lists
  refine (reports.finds_uniqueFrom distinct opened each fun index => perm.mem_iff.mp).mono ?_
  rintro _ rfl
  exact perm.filterMap _

theorem Reporting.finds_explicitIndices :
    Finds engine valid (Schema.explicitIndices schema database : Action σ (Keyed Index))
      fun indices => indices.Perm (replies.indices.filterMap (ReportedIndex.declared? schema)) := by
  refine (Database.finds_all reports.accepts opened reports.indices).bind fun rows lists => ?_
  obtain ⟨listed, perm, each⟩ := lists
  have once := ((perm.filterMap (ReportedIndex.declared? schema)).map Prod.fst).nodup_iff.mpr
    (distinct.declaredOnce schema)
  have found := reports.finds_explicitFrom (σ := σ) distinct opened each
    (fun index => perm.mem_iff.mp) [] once
  refine found.mono ?_
  rintro _ rfl
  exact perm.filterMap _

end Indices

/-! ## Foreign keys -/

/-- Targets that are left out are not read. -/
theorem filter_orNull (links : List ReportedLink) :
    (links.map fun link => Value.orNull link.target).filter (fun value => !value.isNull) =
      (links.filterMap ReportedLink.target).map Value.text := by
  induction links with
  | nil => rfl
  | cons link rest inductionHypothesis =>
      rw [List.map_cons, List.filter_cons, List.filterMap_cons, inductionHypothesis]
      cases link.target <;> rfl

/-- The rows of one foreign key are read in the order of their places. -/
theorem reportedForeignKey_ok {links : List ReportedLink} {rows : List Row}
    (lists : Lists LinkReply links rows) (once : (links.map ReportedLink.place).Nodup)
    (filled : links ≠ []) : ∃ key, ReportedLink.foreignKey? links = some key ∧
      Schema.reportedForeignKey rows = .ok key := by
  obtain ⟨placed, sorted, ordered, placedDone, sortedDone, each, perm, inOrder⟩ :=
    lists.sorted fun _ _ stands => stands.place
  have sources : (sorted.mapM fun row => row.column "from") =
      .ok ((ordered.map ReportedLink.source).map Value.text) := by
    rw [Outcome.mapM_eq_ok, List.map_map, List.forall₂_map_right_iff]
    exact each.flip.imp fun row link stands => stands.source
  have targets : (sorted.mapM fun row => row.column "to") =
      .ok (ordered.map fun link => .orNull link.target) := by
    rw [Outcome.mapM_eq_ok, List.forall₂_map_right_iff]
    exact each.flip.imp fun row link stands => stands.target
  rw [ReportedLink.foreignKey?, ← eq_inPlaces perm inOrder once, Schema.reportedForeignKey,
    placedDone, Outcome.ok_bind, sortedDone]
  simp only [Outcome.ok_bind, sources, targets, filter_orNull]
  cases each with
  | nil => exact absurd perm.nil_eq.symm filled
  | @cons first row _ _ stands _ =>
      refine ⟨_, rfl, ?_⟩
      simp only [stands.table]
      rfl

/-- A foreign key that is read names its columns and one table. -/
theorem ReportedLink.foreignKey?_named {links : List ReportedLink} {key : ForeignKey}
    (described : ReportedLink.foreignKey? links = some key) : key.Named := by
  have texts (names : List String) :
      (Schema.oneOrTuple (names.map Value.text)).nameList = .ok (names.map Value.text) := by
    refine Schema.nameList_oneOrTuple fun name member => ?_
    obtain ⟨content, -, rfl⟩ := List.mem_map.mp member
    exact ⟨content, rfl⟩
  obtain ⟨first, -, rfl⟩ := Option.map_eq_some_iff.mp described
  exact ⟨⟨_, texts _⟩, ⟨first.table, rfl⟩, ⟨_, texts _⟩⟩

/-- Items whose choices are known are chosen in their order. -/
theorem filterMap_chosen {β : Type} {choose : α → Option β} {items : List α} {chosen : List β}
    (each : List.Forall₂ (fun item result => choose item = some result) items chosen) :
    items.filterMap choose = chosen := by
  induction each with
  | nil => rfl
  | cons first _ inductionHypothesis => rw [List.filterMap_cons, first, inductionHypothesis]

section Links

variable {replies : Replies} (distinct : replies.Distinct)

include distinct in
theorem Replies.Distinct.linksOnce (number : Int) :
    ((replies.linksOf number).map ReportedLink.place).Nodup := by
  refine List.pairwise_map.mpr (List.pairwise_filter.mpr ?_)
  refine (List.pairwise_map.mp distinct.links).imp fun {first second} differ chosen also same => ?_
  have numbers : first.number = second.number :=
    (of_decide_eq_true chosen).trans (of_decide_eq_true also).symm
  exact differ (Prod.ext numbers same)

include distinct in
/-- The rows of all foreign keys are read. -/
theorem reportedForeignKeys_ok {rows : List Row} (lists : Lists LinkReply replies.links rows) :
    ∃ groups found, Schema.groupRows rows [] = .ok groups ∧
      (groups.mapM fun group => Schema.reportedForeignKey group.2) = .ok found ∧
      found.Perm replies.foreignKeys := by
  have numbered : ∀ row ∈ rows, ∃ number, row.column "id" = .ok (.int number) := by
    obtain ⟨listed, -, each⟩ := lists
    intro row member
    obtain ⟨link, -, stands⟩ := Outcome.standing each member
    exact ⟨_, stands.number⟩
  have numbers : (rows.map (placeOf "id")).Perm (replies.links.map ReportedLink.number) := by
    obtain ⟨listed, perm, each⟩ := lists
    have same : rows.map (placeOf "id") = listed.map ReportedLink.number := by
      rw [← List.forall₂_eq_eq_eq, List.forall₂_map_left_iff, List.forall₂_map_right_iff]
      exact each.flip.imp fun row link stands => placeOf_eq stands.number
    exact same ▸ perm.map _
  obtain ⟨all, onceAll, memberAll, grouped⟩ := Schema.groupRows_numbered numbered
  -- The groups have the numbers of the links, each one once.
  have permAll : all.Perm (replies.links.map ReportedLink.number).dedup := by
    rw [List.perm_ext_iff_of_nodup onceAll (List.nodup_dedup _)]
    intro number
    rw [memberAll, List.mem_dedup, numbers.mem_iff]
  have each : ∀ number ∈ all, ∃ key, ReportedLink.foreignKey? (replies.linksOf number) = some key ∧
      Schema.reportedForeignKey (rows.filter fun row => placeOf "id" row = number) = .ok key := by
    intro number member
    refine reportedForeignKey_ok (lists.filter fun link row stands => ?_)
      (distinct.linksOnce number) ?_
    · rw [placeOf_eq stands.number]
    · obtain ⟨link, inside, same⟩ := List.mem_map.mp (List.mem_dedup.mp (permAll.subset member))
      exact List.ne_nil_of_mem (List.mem_filter.mpr ⟨inside, decide_eq_true same⟩)
  have groups : List.Forall₂ (fun number group => number ∈ all ∧
      group = (Value.int number, rows.filter fun row => placeOf "id" row = number)) all
      (Schema.collected all fun number => rows.filter fun row => placeOf "id" row = number) := by
    rw [Schema.collected, List.forall₂_map_right_iff, List.forall₂_same]
    exact fun number member => ⟨member, rfl⟩
  have read : ∃ found, (Schema.collected all fun number =>
        rows.filter fun row => placeOf "id" row = number).mapM
          (fun group => Schema.reportedForeignKey group.2) = .ok found ∧
      List.Forall₂ (fun number key => ReportedLink.foreignKey? (replies.linksOf number) = some key)
        all found := by
    refine Outcome.mapM_along groups ?_
    rintro number - _ ⟨member, rfl⟩
    obtain ⟨key, described, read⟩ := each number member
    exact ⟨key, read, described⟩
  obtain ⟨found, done, described⟩ := read
  refine ⟨_, found, grouped, done, ?_⟩
  rw [← filterMap_chosen described]
  exact permAll.filterMap _

end Links

/-! ## The table -/

namespace Replies.Describes

variable {replies : Replies} {schema found : Schema} (describes : replies.Describes schema found)

include describes

theorem keys_perm : found.columns.keys.Perm
    ((replies.columns.map ReportedColumn.name).map Value.text) := by
  have names := describes.columns.map Prod.fst
  rw [List.map_map] at names ⊢
  exact names

theorem texts : ∀ key ∈ found.columns.keys, ∃ name, key = Value.text name := by
  intro key member
  obtain ⟨name, -, rfl⟩ := List.mem_map.mp (describes.keys_perm.subset member)
  exact ⟨name, rfl⟩

theorem named : ∀ key ∈ found.foreignKeys, key.Named := by
  intro key member
  obtain ⟨number, -, described⟩ := List.mem_filterMap.mp (describes.foreignKeys.subset member)
  exact ReportedLink.foreignKey?_named described

variable (distinct : replies.Distinct)

include distinct

theorem once : found.columns.keys.Nodup :=
  describes.keys_perm.nodup_iff.mpr
    (distinct.columns.map fun _ _ => Value.text.inj)

theorem hasKey : found.HasKey replies.key where
  texts := describes.texts
  once := describes.once distinct
  flags := by
    intro entry member
    obtain ⟨column, -, rfl⟩ := List.mem_map.mp (describes.columns.subset member)
    rfl
  among := by
    intro name member
    obtain ⟨column, inside, rfl⟩ := List.mem_map.mp member
    have reported := (List.mem_filter.mp ((List.mergeSort_perm _ _).subset inside)).1
    exact describes.keys_perm.symm.subset (List.mem_map_of_mem (List.mem_map_of_mem reported))
  primaryKey := describes.primaryKey

omit distinct in
/-- Two tables that the replies describe are the same. -/
theorem sameTable (distinct : replies.Distinct) {other : Schema}
    (also : replies.Describes schema other) : found.SameTable other where
  name := describes.name.trans also.name.symm
  primaryKey := (describes.hasKey distinct).primaryKeyColumns_eq.trans
    (also.hasKey distinct).primaryKeyColumns_eq.symm
  columns := describes.columns.trans also.columns.symm
  indices := describes.indices.trans also.indices.symm
  foreignKeys := describes.foreignKeys.trans also.foreignKeys.symm

end Replies.Describes

/-- The table that is found is the one that the replies describe. -/
theorem Reporting.finds_introspect {engine : Engine τ} {connection : Connection} {valid : τ → Prop}
    {schema : Schema} {replies : Replies} {database : Database}
    (reports : Reporting engine connection valid schema replies) (distinct : replies.Distinct)
    (opened : database.connection = some connection) :
    Finds engine valid (schema.introspect database : Action σ Schema)
      (replies.Describes schema) := by
  refine (Database.finds_all reports.accepts opened reports.columns).bind fun rows lists => ?_
  refine Finds.lifted (distinct.reportedKey lists) ?_
  refine (reports.finds_uniqueColumns distinct opened).bind fun unique uniquePerm => ?_
  obtain ⟨columns, columnsDone, columnsPerm⟩ := reportedColumns_ok lists uniquePerm
  refine Finds.lifted columnsDone ?_
  refine (reports.finds_explicitIndices distinct opened).bind fun indices indicesPerm => ?_
  have keys : Finds engine valid (schema.reportedForeignKeys database : Action σ (List ForeignKey))
      fun keys => keys.Perm replies.foreignKeys := by
    refine (Database.finds_all reports.accepts opened reports.links).bind fun rows lists => ?_
    obtain ⟨groups, found, grouped, done, perm⟩ := reportedForeignKeys_ok distinct lists
    refine Finds.lift ?_ perm
    rw [grouped]
    exact done
  refine keys.bind fun foreignKeys keysPerm => ?_
  let found : Schema := {
    name := schema.name
    columns := columns
    indices := indices
    foreignKeys := foreignKeys
    primaryKey := if 1 < replies.key.length then some replies.key else none }
  have describes : replies.Describes schema found := ⟨rfl, columnsPerm, indicesPerm, keysPerm, rfl⟩
  -- The names of the columns differ, so that no entry is set twice.
  have entries : Keyed.ofEntries columns = columns :=
    Keyed.ofEntries_texts describes.texts (describes.once distinct)
  rw [entries]
  exact Finds.lift (describes.hasKey distinct).check_ok describes

end Tabular
