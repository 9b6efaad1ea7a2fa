import Tabular.Proofs.Outcome
import Tabular.Proofs.Value.Sameness
import Tabular.Schema.Drift

/-!
This module compares a declaration with tables that differ in the order of their columns, indices
and foreign keys. The verdict and the failure do not depend on that order.
-/

namespace Tabular

namespace Keyed

variable {α : Type} {entries others : Keyed α}

/-- Entries with different text keys are what lookups find. -/
theorem get?_eq_some_iff (texts : ∀ key ∈ entries.keys, ∃ name, key = Value.text name)
    (once : entries.keys.Nodup) {key : Value} {value : α} :
    entries.get? key = some value ↔ (key, value) ∈ entries := by
  constructor
  · intro found
    obtain ⟨entry, first, rfl⟩ := Option.map_eq_some_iff.mp found
    have member := List.mem_of_find?_eq_some first
    have same := List.find?_some first
    obtain ⟨name, text⟩ := texts entry.1 (List.mem_map_of_mem member)
    rw [text, Value.same_iff_text, ← text] at same
    rwa [same]
  · intro member
    obtain ⟨name, rfl⟩ := texts key (List.mem_map_of_mem (f := Prod.fst) member)
    exact get?_of_mem once member

theorem get?_perm (perm : entries.Perm others)
    (texts : ∀ key ∈ entries.keys, ∃ name, key = Value.text name) (once : entries.keys.Nodup)
    (key : Value) : entries.get? key = others.get? key := by
  have keys : entries.keys.Perm others.keys := perm.map Prod.fst
  ext value
  rw [get?_eq_some_iff texts once, perm.mem_iff,
    get?_eq_some_iff (fun key member => texts key (keys.symm.subset member)) (keys.nodup once)]

theorem has_perm (perm : entries.Perm others) (key : Value) : entries.has key = others.has key :=
  perm.any_eq

theorem sameKeys_reordered {β : Type} (declared : Keyed β) (perm : entries.Perm others) :
    sameKeys declared entries = sameKeys declared others := by
  have found : (fun entry : Value × β => entries.has entry.1) = fun entry => others.has entry.1 :=
    funext fun entry => has_perm perm entry.1
  rw [sameKeys, sameKeys, found, perm.all_eq]

end Keyed

/-- A foreign key names its columns and one table. -/
structure ForeignKey.Named (key : ForeignKey) : Prop where
  source : ∃ columns, key.sourceColumns = .ok columns
  table : ∃ name, key.table = .ok (.text name)
  target : ∃ columns, key.targetColumns = .ok columns

namespace Schema

/-- Two tables have the same columns, indices and foreign keys in any order, and the same primary
key. -/
structure SameTable (first second : Schema) : Prop where
  name : first.name = second.name
  primaryKey : first.primaryKeyColumns = second.primaryKeyColumns
  columns : first.columns.Perm second.columns
  indices : first.indices.Perm second.indices
  foreignKeys : first.foreignKeys.Perm second.foreignKeys

/-! ## Columns -/

section Columns

variable {declared first second : Schema} (same : first.SameTable second)
  (texts : ∀ key ∈ first.columns.keys, ∃ name, key = Value.text name)
  (once : first.columns.keys.Nodup)

include same in
theorem SameTable.isNotNull_eq (name : Value) (column : Column) :
    first.isNotNull name column = second.isNotNull name column := by
  rw [isNotNull, isNotNull, isPrimaryKey, isPrimaryKey, same.primaryKey]

include same texts once in
theorem SameTable.columnsAgree_eq (columns : Keyed Column) :
    columnsAgree declared first columns = columnsAgree declared second columns := by
  induction columns with
  | nil => rfl
  | cons entry rest inductionHypothesis =>
      rw [columnsAgree, columnsAgree, inductionHypothesis, Keyed.get?_perm same.columns texts once]
      simp only [same.isNotNull_eq]

end Columns

/-! ## Foreign keys -/

section Keys

variable {declared : List ForeignKey} (named : ∀ key ∈ declared, key.Named)

include named in
/-- The search for a counterpart succeeds, and it finds a declared foreign key or none. -/
theorem counterpart_ok {old : ForeignKey} (oldNamed : old.Named) :
    ∃ found, counterpart old declared = .ok found ∧ ∀ key ∈ found, key ∈ declared := by
  obtain ⟨wanted, wantedDone⟩ := oldNamed.source
  induction declared with
  | nil => exact ⟨none, rfl, nofun⟩
  | cons key rest inductionHypothesis =>
      obtain ⟨first, namedRest⟩ := List.forall_mem_cons.mp named
      obtain ⟨columns, columnsDone⟩ := first.source
      rw [counterpart, columnsDone, wantedDone, Outcome.ok_bind, Outcome.ok_bind]
      split
      · exact ⟨some key, rfl, fun found same => Option.mem_some.mp same ▸ List.mem_cons_self⟩
      · obtain ⟨found, done, inside⟩ := inductionHypothesis namedRest
        exact ⟨found, done, fun key member => List.mem_cons_of_mem _ (inside key member)⟩

theorem sameTarget_ok {key old : ForeignKey} (keyNamed : key.Named) (oldNamed : old.Named) :
    ∃ verdict, sameTarget key old = .ok verdict := by
  obtain ⟨table, tableDone⟩ := keyNamed.table
  obtain ⟨oldTable, oldTableDone⟩ := oldNamed.table
  obtain ⟨columns, columnsDone⟩ := keyNamed.target
  obtain ⟨oldColumns, oldColumnsDone⟩ := oldNamed.target
  rw [sameTarget, tableDone, oldTableDone, columnsDone, oldColumnsDone]
  simp only [Outcome.ok_bind, lowerName, pure_bind]
  split
  · exact ⟨_, rfl⟩
  · exact ⟨_, rfl⟩

/-- Stored foreign keys are judged one by one. -/
theorem foreignKeysAgree_cons (old : ForeignKey) (rest : List ForeignKey) :
    foreignKeysAgree declared (old :: rest) =
      foreignKeysAgree declared [old] >>= fun verdict =>
        if verdict then foreignKeysAgree declared rest else pure false := by
  rw [foreignKeysAgree, foreignKeysAgree, bind_assoc]
  congr 1
  funext found
  cases found with
  | none => rfl
  | some key =>
      dsimp only
      rw [bind_assoc]
      congr 1
      funext verdict
      cases verdict <;> rfl

include named in
theorem foreignKeysAgree_single {old : ForeignKey} (oldNamed : old.Named) :
    ∃ verdict, foreignKeysAgree declared [old] = .ok verdict := by
  obtain ⟨found, done, inside⟩ := counterpart_ok named oldNamed
  rw [foreignKeysAgree, done, Outcome.ok_bind]
  cases found with
  | none => exact ⟨false, rfl⟩
  | some key =>
      obtain ⟨verdict, judged⟩ := sameTarget_ok (named key (inside key rfl)) oldNamed
      dsimp only
      rw [judged]
      cases verdict
      · exact ⟨false, rfl⟩
      · exact ⟨true, rfl⟩

theorem foreignKeysAgree_judged {old : ForeignKey} {verdict : Bool}
    (judged : foreignKeysAgree declared [old] = .ok verdict) (rest : List ForeignKey) :
    foreignKeysAgree declared (old :: rest) =
      if verdict then foreignKeysAgree declared rest else .ok false := by
  rw [foreignKeysAgree_cons, judged]
  rfl

include named in
/-- The order in which stored foreign keys are judged does not count. -/
theorem foreignKeysAgree_perm {keys others : List ForeignKey} (perm : keys.Perm others)
    (stored : ∀ key ∈ keys, key.Named) :
    foreignKeysAgree declared keys = foreignKeysAgree declared others := by
  induction perm with
  | nil => rfl
  | cons key _ inductionHypothesis =>
      rw [foreignKeysAgree_cons, inductionHypothesis (List.forall_mem_cons.mp stored).2,
        ← foreignKeysAgree_cons]
  | swap first second rest =>
      -- Both verdicts are reached, so none of them hides a failure of the other.
      obtain ⟨secondNamed, storedRest⟩ := List.forall_mem_cons.mp stored
      obtain ⟨firstNamed, -⟩ := List.forall_mem_cons.mp storedRest
      obtain ⟨verdict, judged⟩ := foreignKeysAgree_single named firstNamed
      obtain ⟨also, judgedToo⟩ := foreignKeysAgree_single named secondNamed
      rw [foreignKeysAgree_judged judged, foreignKeysAgree_judged judgedToo,
        foreignKeysAgree_judged judged, foreignKeysAgree_judged judgedToo]
      cases verdict <;> cases also <;> rfl
  | trans perm _ first second =>
      rw [first stored, second fun key member => stored key (perm.symm.subset member)]

end Keys

/-! ## Agreement -/

/-- A declaration agrees with a table as it does with the same table in another order. -/
theorem SameTable.agrees_eq {declared first second : Schema} (same : first.SameTable second)
    (texts : ∀ key ∈ first.columns.keys, ∃ name, key = Value.text name)
    (once : first.columns.keys.Nodup) (named : ∀ key ∈ declared.foreignKeys, key.Named)
    (stored : ∀ key ∈ first.foreignKeys, key.Named) :
    declared.agrees first = declared.agrees second := by
  rw [agrees, agrees, Keyed.sameKeys_reordered declared.columns same.columns,
    same.columnsAgree_eq texts once, same.foreignKeys.length_eq,
    foreignKeysAgree_perm named same.foreignKeys stored]

end Schema

end Tabular
