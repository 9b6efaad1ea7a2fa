import Tabular.Proofs.Sql.Store

/-!
This module replaces a table by a new one that keeps its rows. The old table is renamed, its indices
are dropped, the new table and its indices are created, rows are copied, and the old table is
dropped.
-/

namespace Tabular.Sql

variable {Cell : Type} (fill : Option Token → Cell)

/-! ## Runs over several indices -/

/-- Indices that exist are dropped one by one, and nothing else changes. -/
theorem runAll_dropIndices {names : List String} (distinct : names.Nodup) (store : Store Cell)
    (present : ∀ name ∈ names, (store.indices name).isSome = true) :
    Statement.runAll fill (names.map .dropIndex) store =
      some { store with
        indices := fun index => if index ∈ names then none else store.indices index } := by
  induction names generalizing store with
  | nil => simp [Statement.runAll]
  | cons name names inductionHypothesis =>
      obtain ⟨fresh, distinct⟩ := List.nodup_cons.mp distinct
      have here := present name (by simp)
      have others : ∀ other ∈ names, ((store.setIndex name none).indices other).isSome = true := by
        intro other member
        have differ : other ≠ name := by rintro rfl; exact fresh member
        rw [store.setIndex_other differ]
        exact present other (by simp [member])
      rw [List.map_cons, Statement.runAll, Statement.run, if_pos here, Option.bind_some,
        inductionHypothesis distinct _ others]
      congr 2
      funext index
      by_cases same : index = name
      · simp [same]
      · simp [same, Store.setIndex_other]

/-- An index to create with its name. -/
abbrev NamedIndex := String × TableIndex

def NamedIndex.statement (entry : NamedIndex) : Statement :=
  .createIndex entry.2.unique entry.1 entry.2.table entry.2.columns

theorem lookup_fresh {name : String} {entries : List NamedIndex}
    (fresh : name ∉ entries.map Prod.fst) : entries.lookup name = none := by
  rw [List.lookup_eq_none_iff]
  intro other member
  rw [bne_iff_ne]
  rintro rfl
  exact fresh (List.mem_map_of_mem member)

theorem lookup_member {entries : List NamedIndex} (distinct : (entries.map Prod.fst).Nodup)
    {entry : NamedIndex} (member : entry ∈ entries) : entries.lookup entry.1 = some entry.2 := by
  induction entries with
  | nil => exact absurd member List.not_mem_nil
  | cons first entries inductionHypothesis =>
      obtain ⟨fresh, distinct⟩ := List.nodup_cons.mp distinct
      rw [List.lookup_cons]
      rcases List.mem_cons.mp member with rfl | member
      · rw [beq_self_eq_true]
      · have differ : entry.1 ≠ first.1 := fun same => fresh (same ▸ List.mem_map_of_mem member)
        rw [beq_false_of_ne differ]
        exact inductionHypothesis distinct member

/-- Indices with free names are created one by one, and nothing else changes. -/
theorem runAll_createIndices {entries : List NamedIndex}
    (distinct : (entries.map Prod.fst).Nodup) (store : Store Cell)
    (free : ∀ entry ∈ entries, store.indices entry.1 = none)
    (placed : ∀ entry ∈ entries, ∃ content, store.tables entry.2.table = some content ∧
      ∀ column ∈ entry.2.columns, column ∈ content.names) :
    Statement.runAll fill (entries.map NamedIndex.statement) store =
      some { store with
        indices := fun index => (entries.lookup index).or (store.indices index) } := by
  induction entries generalizing store with
  | nil => simp [Statement.runAll]
  | cons entry entries inductionHypothesis =>
      obtain ⟨fresh, distinct⟩ := List.nodup_cons.mp distinct
      obtain ⟨content, existing, columns⟩ := placed entry (by simp)
      have others : ∀ other ∈ entries,
          (store.setIndex entry.1 (some entry.2)).indices other.1 = none := by
        intro other member
        have differ : other.1 ≠ entry.1 := by
          intro same
          exact fresh (same ▸ List.mem_map_of_mem member)
        rw [store.setIndex_other differ]
        exact free other (by simp [member])
      rw [List.map_cons, Statement.runAll, NamedIndex.statement, Statement.run,
        free entry (by simp), existing]
      simp only [Option.isSome_none, Bool.false_eq_true, if_false, if_pos columns, Option.bind_some]
      rw [inductionHypothesis distinct _ others fun other member => placed other (by simp [member])]
      congr 2
      funext index
      rw [List.lookup_cons]
      by_cases same : index = entry.1
      · rw [same, lookup_fresh fresh, beq_self_eq_true]
        simp
      · rw [store.setIndex_other same, beq_false_of_ne same]

/-! ## The replacement -/

/-- The statements of a replacement. Nothing is copied when no column is shared. -/
def replacement (name backup : String) (dropped : List String) (columns : List ColumnClause)
    (created : List NamedIndex) (shared : List String) : List Statement :=
  [.rename name backup] ++ dropped.map .dropIndex ++
    .createTable name columns :: created.map NamedIndex.statement ++
    (if shared = [] then [] else [.copy name shared backup shared]) ++ [.dropTable backup]

/-- The rows that a table gets from an old one. -/
def copiedRows (columns : List ColumnClause) (shared : List String) (rows : List (Record Cell)) :
    List (Record Cell) :=
  if shared = [] then [] else rows.map (copiedRow fill columns shared shared)

/-- A store in which one table has been replaced along with its indices. -/
def Store.replaced (store : Store Cell) (name : String) (table : Table Cell)
    (created : List NamedIndex) : Store Cell where
  tables := Function.update store.tables name (some table)
  indices index :=
    (created.lookup index).or ((store.indices index).filter fun entry => entry.table ≠ name)

/-- What a replacement needs of the store in which it runs. -/
structure Replaceable (store : Store Cell) (name backup : String) (content : Table Cell)
    (dropped : List String) (columns : List ColumnClause) (created : List NamedIndex)
    (shared : List String) : Prop where
  attached : ∀ index entry, store.indices index = some entry →
    (store.tables entry.table).isSome = true
  existing : store.tables name = some content
  unused : store.tables backup = none
  droppedOnce : dropped.Nodup
  droppedAll : ∀ index, index ∈ dropped ↔ ∃ entry, store.indices index = some entry ∧
    entry.table = name
  columnsFilled : columns ≠ []
  columnsOnce : (columns.map ColumnClause.name).Nodup
  createdOnce : (created.map Prod.fst).Nodup
  createdHere : ∀ entry ∈ created, entry.2.table = name ∧
    ∀ column ∈ entry.2.columns, column ∈ columns.map ColumnClause.name
  createdFree : ∀ entry ∈ created, ∀ index, store.indices entry.1 = some index →
    index.table = name
  sharedOld : ∀ column ∈ shared, column ∈ content.names
  sharedNew : ∀ column ∈ shared, column ∈ columns.map ColumnClause.name

namespace Replaceable

variable {store : Store Cell} {name backup : String} {content : Table Cell} {dropped : List String}
  {columns : List ColumnClause} {created : List NamedIndex} {shared : List String}

theorem differ (ready : Replaceable store name backup content dropped columns created shared) :
    name ≠ backup := by
  rintro rfl
  exact absurd (ready.existing.symm.trans ready.unused) (by simp)

/-- The dropped indices are those of the table. -/
theorem kept_indices (ready : Replaceable store name backup content dropped columns created shared)
    (index : String) :
    ((store.indices index).filter fun entry => entry.table ≠ name) =
      if index ∈ dropped then none else store.indices index := by
  split
  · next member =>
      obtain ⟨entry, found, owner⟩ := (ready.droppedAll index).mp member
      simp [found, owner, Option.filter_some]
  · next kept =>
      cases found : store.indices index with
      | none => rfl
      | some entry =>
          have other : entry.table ≠ name := fun owner =>
            kept ((ready.droppedAll index).mpr ⟨entry, found, owner⟩)
          exact Option.filter_some_pos (by simpa using other)

/-- The store when the old table has its new name and its indices are dropped. -/
def cleared (store : Store Cell) (name backup : String) (content : Table Cell) : Store Cell where
  tables := Function.update (Function.update store.tables name none) backup (some content)
  indices index := (store.indices index).filter fun entry => entry.table ≠ name

theorem run_cleared
    (ready : Replaceable store name backup content dropped columns created shared) :
    Statement.runAll fill ([.rename name backup] ++ dropped.map .dropIndex) store =
      some (cleared store name backup content) := by
  let renamed := ((store.setTable name none).setTable backup (some content)).moveIndices name backup
  have first : (Statement.rename name backup).run fill store = some renamed := by
    rw [Statement.run, ready.existing, ready.unused]
  have present : ∀ index ∈ dropped, (renamed.indices index).isSome = true := by
    intro index member
    obtain ⟨entry, found, -⟩ := (ready.droppedAll index).mp member
    simp [renamed, Store.moveIndices, found]
  rw [List.singleton_append, Statement.runAll, first, Option.bind_some,
    runAll_dropIndices fill ready.droppedOnce renamed present]
  congr 2
  funext index
  rw [ready.kept_indices]
  split
  · rfl
  · next kept =>
      simp only [renamed, Store.moveIndices, Store.setTable_indices]
      cases found : store.indices index with
      | none => rfl
      | some entry =>
          have other : entry.table ≠ name := fun owner =>
            kept ((ready.droppedAll index).mpr ⟨entry, found, owner⟩)
          simp [other]

/-- The store when the new table and its indices are created. -/
def rebuilt (store : Store Cell) (name backup : String) (content : Table Cell)
    (columns : List ColumnClause) (created : List NamedIndex) (rows : List (Record Cell)) :
    Store Cell where
  tables := Function.update (Function.update store.tables name (some ⟨columns, rows⟩)) backup
    (some content)
  indices index :=
    (created.lookup index).or ((store.indices index).filter fun entry => entry.table ≠ name)

theorem rebuilt_new (ready : Replaceable store name backup content dropped columns created shared)
    (rows : List (Record Cell)) :
    (rebuilt store name backup content columns created rows).tables name = some ⟨columns, rows⟩ :=
  (Function.update_of_ne ready.differ ..).trans (Function.update_self ..)

theorem rebuilt_old (rows : List (Record Cell)) :
    (rebuilt store name backup content columns created rows).tables backup = some content :=
  Function.update_self ..

/-- The new rows take the place of the old ones. -/
theorem rebuilt_setTable (differ : name ≠ backup) (rows others : List (Record Cell)) :
    (rebuilt store name backup content columns created rows).setTable name
      (some ⟨columns, others⟩) = rebuilt store name backup content columns created others := by
  rw [Store.setTable, rebuilt, rebuilt, Function.update_comm differ.symm, Function.update_idem]

theorem run_rebuilt
    (ready : Replaceable store name backup content dropped columns created shared) :
    Statement.runAll fill (.createTable name columns :: created.map NamedIndex.statement)
        (cleared store name backup content) =
      some (rebuilt store name backup content columns created []) := by
  let opened := (cleared store name backup content).setTable name (some ⟨columns, []⟩)
  have unnamed : (cleared store name backup content).tables name = none :=
    (Function.update_of_ne ready.differ ..).trans (Function.update_self ..)
  have first : (Statement.createTable name columns).run fill (cleared store name backup content) =
      some opened := by
    rw [Statement.run, unnamed, if_pos ⟨rfl, ready.columnsFilled, ready.columnsOnce⟩]
  have free : ∀ entry ∈ created, opened.indices entry.1 = none := by
    intro entry member
    change (store.indices entry.1).filter _ = none
    cases found : store.indices entry.1 with
    | none => rfl
    | some index => simp [ready.createdFree entry member index found, Option.filter_some]
  have placed : ∀ entry ∈ created, ∃ content, opened.tables entry.2.table = some content ∧
      ∀ column ∈ entry.2.columns, column ∈ content.names := by
    intro entry member
    obtain ⟨owner, inside⟩ := ready.createdHere entry member
    exact ⟨⟨columns, []⟩, by rw [owner]; exact Function.update_self .., inside⟩
  rw [Statement.runAll, first, Option.bind_some,
    runAll_createIndices fill ready.createdOnce opened free placed]
  congr 2
  change Function.update (Function.update (Function.update _ _ _) _ _) _ _ = _
  rw [Function.update_comm ready.differ, Function.update_idem,
    Function.update_comm ready.differ.symm]

theorem run_copied
    (ready : Replaceable store name backup content dropped columns created shared) :
    Statement.runAll fill (if shared = [] then [] else [.copy name shared backup shared])
        (rebuilt store name backup content columns created []) =
      some (rebuilt store name backup content columns created
        (copiedRows fill columns shared content.rows)) := by
  rw [copiedRows]
  split
  · rfl
  · rw [Statement.runAll, Statement.run, rebuilt_new ready, rebuilt_old]
    simp only [Statement.runAll]
    rw [if_pos ⟨trivial, ready.sharedNew, ready.sharedOld⟩, Option.bind_some,
      rebuilt_setTable ready.differ, List.nil_append]

/-- Neither a new index nor one that was kept belongs to the old table. -/
theorem rebuilt_owner (ready : Replaceable store name backup content dropped columns created shared)
    {rows : List (Record Cell)} {index : String} {entry : TableIndex}
    (found : (rebuilt store name backup content columns created rows).indices index = some entry) :
    entry.table ≠ backup := by
  rcases Option.or_eq_some_iff.mp found with new | ⟨-, kept⟩
  · obtain ⟨before, after, split, -⟩ := List.lookup_eq_some_iff.mp new
    have owner := (ready.createdHere (index, entry) (by simp [split])).1
    exact fun same => ready.differ (owner.symm.trans same)
  · have attached := ready.attached index entry (Option.filter_eq_some_iff.mp kept).1
    rintro same
    simp [same, ready.unused] at attached

theorem run_dropTable
    (ready : Replaceable store name backup content dropped columns created shared)
    (rows : List (Record Cell)) :
    Statement.runAll fill [.dropTable backup]
        (rebuilt store name backup content columns created rows) =
      some (store.replaced name ⟨columns, rows⟩ created) := by
  have unused : Function.update store.tables backup none = store.tables := by
    rw [← ready.unused, Function.update_eq_self]
  have tables : Function.update (rebuilt store name backup content columns created rows).tables
      backup none = Function.update store.tables name (some ⟨columns, rows⟩) := by
    rw [rebuilt, Function.update_idem, Function.update_comm ready.differ, unused]
  have indices (index : String) :
      ((rebuilt store name backup content columns created rows).indices index).filter
          (fun entry => entry.table ≠ backup) =
        (rebuilt store name backup content columns created rows).indices index := by
    cases found : (rebuilt store name backup content columns created rows).indices index with
    | none => rfl
    | some entry => exact Option.filter_some_pos (by simpa using rebuilt_owner ready found)
  rw [Statement.runAll, Statement.run, rebuilt_old]
  simp only [Statement.runAll, Option.bind_some]
  refine congrArg some ?_
  rw [Store.setTable, tables, Store.dropIndicesOf, funext indices]
  rfl

theorem replaced_created
    (ready : Replaceable store name backup content dropped columns created shared)
    (table : Table Cell) {entry : NamedIndex} (member : entry ∈ created) :
    (store.replaced name table created).indices entry.1 = some entry.2 := by
  change (created.lookup entry.1).or _ = _
  rw [lookup_member ready.createdOnce member, Option.some_or]

theorem replaced_other
    (ready : Replaceable store name backup content dropped columns created shared)
    (table : Table Cell) {index : String} (fresh : index ∉ created.map Prod.fst) :
    (store.replaced name table created).indices index =
      if index ∈ dropped then none else store.indices index := by
  change (created.lookup index).or _ = _
  rw [lookup_fresh fresh, Option.none_or, ready.kept_indices]

end Replaceable

/-- A replacement never fails and leaves the store with the new table in place of the old one. -/
theorem runAll_replacement {store : Store Cell} {name backup : String} {content : Table Cell}
    {dropped : List String} {columns : List ColumnClause} {created : List NamedIndex}
    {shared : List String}
    (ready : Replaceable store name backup content dropped columns created shared) :
    Statement.runAll fill (replacement name backup dropped columns created shared) store =
      some (store.replaced name ⟨columns, copiedRows fill columns shared content.rows⟩ created) := by
  rw [replacement, Statement.runAll_append, Statement.runAll_append, Statement.runAll_append,
    ready.run_cleared, Option.bind_some, ready.run_rebuilt, Option.bind_some, ready.run_copied,
    Option.bind_some, ready.run_dropTable]

end Tabular.Sql
