import Tabular.Proofs.Table.Columns
import Tabular.Proofs.Table.Indices
import Tabular.Proofs.Table.Links

/-!
This module shows that a table that was created for a declaration needs no change. What is read from
its catalogue agrees with the declaration, and its created indices are the planned ones.
-/

namespace Tabular

open Tabular.Action

variable {σ τ : Type}

namespace Schema

/-- A declaration that can be compared with its table. Its names differ, its foreign keys have
different columns and pair them with columns of another table, and its numeric defaults are finite. -/
structure Reconcilable (schema : Schema) : Prop where
  checked : schema.check = .ok schema
  columnsOnce : schema.columns.keys.Nodup
  indicesOnce : schema.indices.keys.Nodup
  indices : ∀ name ∈ schema.indices.keys, name.isText = true
  keyOnce : schema.compositeKey.Nodup
  keyDeclared : ∀ name ∈ schema.compositeKey, name ∈ schema.columns.keys
  tables : ∀ key ∈ schema.foreignKeys, ∀ table, key.table = .ok table → table.isText = true
  paired : ∀ key ∈ schema.foreignKeys, ∀ source target, key.sourceColumns = .ok source →
    key.targetColumns = .ok target → source ≠ [] ∧ source.length = target.length
  apart : schema.foreignKeys.Pairwise fun first second => first.sourceColumns ≠ second.sourceColumns
  convertible : ∀ entry ∈ schema.columns, entry.2.default.isConvertible = true

/-- The engine reports that it does not enforce foreign keys. -/
def Unenforced (answers : Answers) : Prop :=
  ∃ column rest, answers "PRAGMA foreign_keys" (.tuple []) = some [(column, .int 0) :: rest]

variable {schema : Schema} {definitions : List Definition} {plans : Keyed IndexPlan}

theorem Reconcilable.keyedColumns (sound : schema.Reconcilable)
    (rendered : schema.definitions = .ok definitions) : schema.KeyedColumns where
  texts := columns_text rendered
  once := sound.columnsOnce
  checked := sound.checked
  keyOnce := sound.keyOnce
  keyDeclared := sound.keyDeclared

/-- A described foreign key of a schema that is rendered is sound. -/
theorem Reconcilable.key_sound (sound : schema.Reconcilable)
    (rendered : schema.definitions = .ok definitions) {declared : ForeignKey}
    (member : declared ∈ schema.foreignKeys) {key : NumberedKey}
    (describes : NumberedKey.Describes declared key) : key.Sound := by
  obtain ⟨table, written, -⟩ := Outcome.bind_eq_ok.mp rendered
  obtain ⟨columns, foreignKeys, primaryKey, -, foreignKeysDone, -⟩ := tableDefinition_eq_ok written
  obtain ⟨line, done⟩ := Outcome.item_of_mapM foreignKeysDone member
  rw [ForeignKey.line, describes.source, describes.table, describes.target] at done
  simp only [Outcome.ok_bind] at done
  obtain ⟨source, sourceDone, done⟩ := Outcome.bind_eq_ok.mp done
  obtain ⟨target, targetDone, done⟩ := Outcome.bind_eq_ok.mp done
  obtain ⟨sources, sourceTexts, -⟩ := Value.commaList_eq_ok.mp sourceDone
  obtain ⟨targets, targetTexts, -⟩ := Value.commaList_eq_ok.mp targetDone
  obtain ⟨filled, paired⟩ := sound.paired declared member _ _ describes.source describes.target
  refine ⟨?_, ?_, Value.isText_iff.mp (sound.tables declared member _ describes.table), filled,
    paired⟩
  · rw [sourceTexts]
    intro name inside
    obtain ⟨content, -, rfl⟩ := List.mem_map.mp inside
    exact ⟨content, rfl⟩
  · rw [targetTexts]
    intro name inside
    obtain ⟨content, -, rfl⟩ := List.mem_map.mp inside
    exact ⟨content, rfl⟩

/-- The table that was read agrees with its declaration. -/
theorem agrees_ok {actual : Schema} {key : List Value} (columns : schema.KeyedColumns)
    (reads : ReadsColumns schema actual key) {keys : List NumberedKey}
    (described : List.Forall₂ NumberedKey.Describes schema.foreignKeys keys)
    (sound : ∀ key ∈ keys, key.Sound)
    (apart : schema.foreignKeys.Pairwise fun first second =>
      first.sourceColumns ≠ second.sourceColumns)
    (perm : actual.foreignKeys.Perm (keys.map NumberedKey.read)) :
    schema.agrees actual = .ok true := by
  have readRefers : List.Forall₂ ForeignKey.Refers (keys.map NumberedKey.read)
      (keys.map NumberedKey.reference) := by
    rw [List.forall₂_map_left_iff, List.forall₂_map_right_iff, List.forall₂_same]
    exact fun key member => described_refers (sound key member) (read_describes (sound key member))
  obtain ⟨others, stored, permOthers⟩ := List.perm_comp_forall₂ perm readRefers
  have counterparts := (counterparts_perm permOthers.symm).mpr
    (described_singleSourced described sound apart)
  rw [(reads.sameColumns columns).agrees_refers (described_references described sound) stored,
    decide_eq_true counterparts]

section Reading

variable {engine : Engine τ} {connection : Connection} {answers : Answers} {valid : τ → Prop}
  {database : Database} (laws : Answering engine connection answers valid)
  (opened : database.connection = some connection) (sound : schema.Reconcilable)
  (rendered : schema.definitions = .ok definitions) (planned : schema.indexPlans = .ok plans)
  (reports : Reports answers schema plans)

include laws opened reports

theorem gives_exists : Gives engine valid (schema.exists? database : Action σ Bool) true := by
  obtain ⟨row, answered, count⟩ := reports.counted
  have positive : Value.isPositive (.int 1) = .ok true := by
    have above : (0 : Int) < 1 * Binary64.unit := by decide +kernel
    exact congrArg Except.ok (decide_eq_true above)
  have counted : (do (← row.column "count").isPositive : Except Failure Bool) = .ok true := by
    rw [count, Outcome.ok_bind, positive]
  refine (Database.gives_first laws opened answered).bind ?_
  cases row with
  | nil => exact nomatch count
  | cons entry rest => exact Gives.lift counted

omit reports in
theorem gives_foreignKeysEnabled (unenforced : Unenforced answers) :
    Gives engine valid (database.foreignKeysEnabled : Action σ Bool) false := by
  obtain ⟨column, rest, answered⟩ := unenforced
  have read : Gives engine valid (database.pragma "foreign_keys" : Action σ Value) (.int 0) :=
    (Database.gives_first laws opened answered).bind (Gives.pure (Value.int 0))
  exact read.bind (Gives.pure false)

include sound rendered planned

/-- What is read agrees with the declaration, and the planned indices are found. -/
theorem gives_introspect :
    ∃ actual, Gives engine valid (schema.introspect database : Action σ Schema) actual ∧
      schema.agrees actual = .ok true ∧ actual.indices.Perm (plans.map plannedIndex) := by
  have columns := sound.keyedColumns rendered
  have texts : ∀ key ∈ schema.indices.keys, ∃ name, key = Value.text name :=
    fun key member => Value.isText_iff.mp (sound.indices key member)
  obtain ⟨planTexts, planOnce⟩ := indexPlans_named planned columns.texts texts sound.indicesOnce
  obtain ⟨rows, answeredRows, lists⟩ := reports.columns
  obtain ⟨linkRows, keys, answeredLinks, described, keysOnce, links⟩ := reports.foreignKeys
  obtain ⟨indexRows, listed, answeredIndices, each, permPlans⟩ := reports.indices
  have keysSound : ∀ key ∈ keys, key.Sound := by
    intro key member
    obtain ⟨declared, inside, describes⟩ := Outcome.standing described member
    exact sound.key_sound rendered inside describes
  obtain ⟨key, keyDone, keyPerm⟩ := reportedKey_ok columns lists
  obtain ⟨unique, givesUnique⟩ := gives_uniqueFrom (σ := σ) laws opened each
  obtain ⟨found, foundDone, listedColumns, permColumns, same⟩ :=
    reportedColumns_ok columns sound.convertible lists (onlyColumn key) unique
  obtain ⟨groups, foreignKeys, grouped, read, permKeys⟩ :=
    readForeignKeys_ok keysSound keysOnce links
  have givesIndices := gives_explicitFrom (σ := σ) laws opened each
    (fun entry member => planTexts entry.1 (List.mem_map_of_mem (permPlans.subset member)))
    [] (by
      rw [List.nil_append, Keyed.keys, List.map_map]
      exact (permPlans.map Prod.fst).nodup_iff.mpr planOnce)
  -- The parts that were read make the declaration that is reported.
  let actual : Schema := {
    name := schema.name
    columns := found
    indices := listed.reduceOption.map plannedIndex
    foreignKeys := foreignKeys
    primaryKey := if 1 < key.length then some key else none }
  have reads : ReadsColumns schema actual key :=
    ⟨keyPerm, rfl, listedColumns, permColumns, same⟩
  have kept : Keyed.ofEntries found = found :=
    Keyed.ofEntries_texts
      (fun name member => columns.texts name (reads.keys_perm.subset member))
      (reads.keys_perm.nodup_iff.mpr columns.once)
  refine ⟨actual, ?_, ?_, permPlans.map _⟩
  · have checked : check { actual with columns := Keyed.ofEntries found } = .ok actual := by
      rw [kept]
      exact reads.check_ok columns
    have foreign : (do (← groupRows linkRows []).mapM fun group => reportedForeignKey group.2) =
        Except.ok foreignKeys := by
      rw [grouped, Outcome.ok_bind, read]
    exact (Database.gives_all laws opened answeredRows).bind ((Gives.lift keyDone).bind
      (((Database.gives_all laws opened answeredIndices).bind givesUnique).bind
        ((Gives.lift foundDone).bind
          (((Database.gives_all laws opened answeredIndices).bind givesIndices).bind
            (((Database.gives_all laws opened answeredLinks).bind (Gives.lift foreign)).bind
              (Gives.lift checked))))))
  · exact agrees_ok columns reads described keysSound sound.apart permKeys

/-- The table is there as it is declared, and nothing is done. -/
theorem gives_createIfAbsent :
    Gives engine valid (schema.createIfAbsent database : Action σ SyncResult)
      { wasCreated := false } := by
  obtain ⟨actual, introspected, agree, -⟩ :=
    gives_introspect (σ := σ) laws opened sound rendered planned reports
  exact (gives_exists laws opened reports).bind
    ((introspected.bind (Gives.lift agree)).bind (Gives.pure (SyncResult.mk false false)))

/-- Where foreign keys are not enforced, a declared table that is there is not migrated. -/
theorem gives_createOrUpdate (unenforced : Unenforced answers) :
    Gives engine valid (schema.createOrUpdate database : Action σ SyncResult)
      { wasCreated := false } := by
  obtain ⟨actual, introspected, agree, -⟩ :=
    gives_introspect (σ := σ) laws opened sound rendered planned reports
  exact (gives_foreignKeysEnabled laws opened unenforced).bind
    ((gives_exists laws opened reports).bind
      (introspected.bind ((Gives.lift agree).bind (Gives.pure (SyncResult.mk false false)))))

end Reading

/-- A table that was created for a declaration agrees with it. It needs no change at any start, and
its created indices are the planned ones. -/
theorem reconciliation_converges {engine : Engine τ} {connection : Connection} {answers : Answers}
    {valid : τ → Prop} {database : Database} (laws : Answering engine connection answers valid)
    (opened : database.connection = some connection) (sound : schema.Reconcilable)
    (rendered : schema.definitions = .ok definitions) (planned : schema.indexPlans = .ok plans)
    (reports : Reports answers schema plans) :
    ∃ actual, Gives engine valid (schema.introspect database : Action σ Schema) actual ∧
      schema.agrees actual = .ok true ∧
      actual.indices.Perm (plans.map plannedIndex) ∧
      Gives engine valid (schema.createIfAbsent database : Action σ SyncResult)
        { wasCreated := false } ∧
      (Unenforced answers →
        Gives engine valid (schema.createOrUpdate database : Action σ SyncResult)
          { wasCreated := false, wasUpdated := false }) := by
  obtain ⟨actual, introspected, agree, indices⟩ :=
    gives_introspect (σ := σ) laws opened sound rendered planned reports
  exact ⟨actual, introspected, agree, indices,
    gives_createIfAbsent laws opened sound rendered planned reports,
    gives_createOrUpdate laws opened sound rendered planned reports⟩

/-- Orders of shops belong to a stock, have a quoted default and an index of their own. -/
def orders : Schema where
  name := .text "orders"
  columns := [(.text "shop", { storage := .integer }),
    (.text "number", { storage := .integer, notNull := true }),
    (.text "note", { storage := .text, notNull := true, default := .text "it's new" }),
    (.text "code", { storage := .text, unique := true, indexed := true, collation := .text "nocase" }),
    (.text "paid", { storage := .real, default := .bool false })]
  indices := [(.text "by_note", { columns := [.text "note", .text "shop"], unique := true })]
  foreignKeys := [⟨.list [.text "shop", .text "code"],
    [(.text "Stock", .list [.text "place", .text "code"])]⟩]
  primaryKey := some [.text "number", .text "shop"]

/-- A row of an answer from the texts of its columns. -/
def answerRow (entries : List (String × Value)) : Row :=
  entries.map fun entry => (.text entry.1, entry.2)

/-- This row reports a column. -/
def orderColumn (name storage : String) (notNull : Int) (default : Value) (place : Int) : Row :=
  answerRow [("name", .text name), ("type", .text storage), ("notnull", .int notNull),
    ("dflt_value", default), ("pk", .int place)]

/-- This row reports an index. -/
def orderIndex (name origin : String) (unique : Int) : Row :=
  answerRow [("name", .text name), ("origin", .text origin), ("unique", .int unique)]

/-- This row reports a column of an index. -/
def orderPlace (place : Int) (name : String) : Row :=
  answerRow [("seqno", .int place), ("name", .text name)]

/-- What is reported of orders. The rows are not listed in the declared order. -/
def ordersAnswers : Answers := fun sql _ =>
  [(countTableText, [answerRow [("count", .int 1)]]),
    ("PRAGMA foreign_keys", [answerRow [("foreign_keys", .int 0)]]),
    ("PRAGMA table_info(orders)", [orderColumn "code" "TEXT" 0 .null 0,
      orderColumn "shop" "INTEGER" 0 .null 2, orderColumn "number" "INTEGER" 1 .null 1,
      orderColumn "note" "TEXT" 1 (.text "'it''s new'") 0, orderColumn "paid" "REAL" 0 (.text "0") 0]),
    ("PRAGMA foreign_key_list(orders)",
      [answerRow [("id", .int 0), ("seq", .int 1), ("table", .text "Stock"), ("from", .text "code"),
        ("to", .text "code")],
      answerRow [("id", .int 0), ("seq", .int 0), ("table", .text "Stock"), ("from", .text "shop"),
        ("to", .text "place")]]),
    ("PRAGMA index_list(orders)", [orderIndex "ix_orders_code" "c" 0,
      orderIndex "ix_orders_by_note" "c" 1, orderIndex "sqlite_autoindex_orders_2" "pk" 1,
      orderIndex "sqlite_autoindex_orders_1" "u" 1]),
    ("PRAGMA index_info(ix_orders_code)", [orderPlace 0 "code"]),
    ("PRAGMA index_info(ix_orders_by_note)", [orderPlace 1 "shop", orderPlace 0 "note"]),
    ("PRAGMA index_info(sqlite_autoindex_orders_1)", [orderPlace 0 "code"]),
    ("PRAGMA index_info(sqlite_autoindex_orders_2)", [orderPlace 0 "number", orderPlace 1 "shop"])
  ].lookup sql

/-- The declared index and the one of a flagged column are created. -/
def ordersPlans : Keyed IndexPlan :=
  [(.text "by_note", ⟨⟨[.text "note", .text "shop"], true⟩, [.text "note", .text "shop"]⟩),
    (.text "code", ⟨⟨[.text "code"], false⟩, [.text "code COLLATE nocase"]⟩)]

def ordersDatabase : Database := { path := "orders.db", settings := {}, connection := some ⟨0⟩ }

theorem orders_reconcilable : orders.Reconcilable where
  checked := rfl
  columnsOnce := by decide
  indicesOnce := by decide
  indices := by decide
  keyOnce := by decide
  keyDeclared := by decide
  tables := by
    intro key member table done
    obtain rfl := List.mem_singleton.mp member
    obtain rfl := Except.ok.inj done
    rfl
  paired := by
    intro key member source target sourceDone targetDone
    obtain rfl := List.mem_singleton.mp member
    obtain rfl := Except.ok.inj sourceDone
    obtain rfl := Except.ok.inj targetDone
    exact ⟨nofun, rfl⟩
  apart := List.pairwise_singleton _ _
  convertible := by decide

theorem orders_reports : Reports ordersAnswers orders ordersPlans where
  counted := ⟨_, rfl, rfl⟩
  columns := by
    refine ⟨_, rfl, [orders.columns[3], orders.columns[0], orders.columns[1], orders.columns[2],
      orders.columns[4]], by decide, ?_⟩
    refine .cons ?_ (.cons ?_ (.cons ?_ (.cons ?_ (.cons ?_ .nil))))
    · exact ⟨rfl, rfl, ⟨false, rfl, by decide⟩, .inl ⟨rfl, rfl⟩, rfl⟩
    · exact ⟨rfl, rfl, ⟨false, rfl, by decide⟩, .inl ⟨rfl, rfl⟩, rfl⟩
    · exact ⟨rfl, rfl, ⟨true, rfl, by decide⟩, .inl ⟨rfl, rfl⟩, rfl⟩
    · exact ⟨rfl, rfl, ⟨true, rfl, by decide⟩, .inr ⟨_, rfl, rfl⟩, rfl⟩
    · exact ⟨rfl, rfl, ⟨false, rfl, by decide⟩, .inr ⟨_, rfl, rfl⟩, rfl⟩
  foreignKeys := by
    refine ⟨_, [⟨0, [.text "shop", .text "code"], .text "Stock", [.text "place", .text "code"]⟩],
      rfl, .cons ⟨rfl, rfl, rfl⟩ .nil, List.nodup_singleton _, _, .swap _ _ _, ?_⟩
    exact .cons ⟨rfl, rfl, rfl, rfl, rfl⟩ (.cons ⟨rfl, rfl, rfl, rfl, rfl⟩ .nil)
  indices := by
    refine ⟨_, [some ordersPlans[1], some ordersPlans[0], none, none], rfl, ?_, .swap _ _ _⟩
    have code : AnswersIndex ordersAnswers (.text "ix_orders_code") [.text "code"] :=
      ⟨_, rfl, _, .rfl, .cons ⟨rfl, rfl⟩ .nil⟩
    have note : AnswersIndex ordersAnswers (.text "ix_orders_by_note")
        [.text "note", .text "shop"] :=
      ⟨_, rfl, _, .swap _ _ _, .cons ⟨rfl, rfl⟩ (.cons ⟨rfl, rfl⟩ .nil)⟩
    have unique : AnswersIndex ordersAnswers (.text "sqlite_autoindex_orders_1") [.text "code"] :=
      ⟨_, rfl, _, .rfl, .cons ⟨rfl, rfl⟩ .nil⟩
    have key : AnswersIndex ordersAnswers (.text "sqlite_autoindex_orders_2")
        [.text "number", .text "shop"] :=
      ⟨_, rfl, _, .rfl, .cons ⟨rfl, rfl⟩ (.cons ⟨rfl, rfl⟩ .nil)⟩
    exact .cons ⟨rfl, rfl, rfl, code⟩ (.cons ⟨rfl, rfl, rfl, note⟩
      (.cons ⟨.inr rfl, rfl, _, _, rfl, key⟩ (.cons ⟨.inl rfl, rfl, _, _, rfl, unique⟩ .nil)))

theorem reconciliation_converges_orders :
    ∃ actual, Gives ordersAnswers.engine (fun _ => True)
        (orders.introspect ordersDatabase : Action Unit Schema) actual ∧
      orders.agrees actual = .ok true ∧
      actual.indices.Perm [(.text "by_note", ⟨[.text "note", .text "shop"], true⟩),
        (.text "code", ⟨[.text "code"], false⟩)] ∧
      Gives ordersAnswers.engine (fun _ => True)
        (orders.createIfAbsent ordersDatabase : Action Unit SyncResult) { wasCreated := false } ∧
      Gives ordersAnswers.engine (fun _ => True)
        (orders.createOrUpdate ordersDatabase : Action Unit SyncResult)
        { wasCreated := false, wasUpdated := false } := by
  have opened : ordersDatabase.connection = some ⟨0⟩ := rfl
  have planned : orders.indexPlans = .ok ordersPlans := rfl
  obtain ⟨definitions, rendered⟩ : ∃ definitions, orders.definitions = .ok definitions := ⟨_, rfl⟩
  obtain ⟨actual, introspected, agree, indices, absent, unenforced⟩ :=
    reconciliation_converges (σ := Unit) (ordersAnswers.answering ⟨0⟩) opened orders_reconcilable
      rendered planned orders_reports
  exact ⟨actual, introspected, agree, indices, absent, unenforced ⟨_, _, rfl⟩⟩

end Schema

end Tabular
