import Tabular.Proofs.Engine.Yielding
import Tabular.Proofs.Table.Keying
import Tabular.Proofs.Table.Writing

/-!
This module follows an upsert on an engine that stores what its statements bind. A row is looked up among
the stored ones, and where the upsert returns, one row was added or the row that was found was updated.
-/

namespace Tabular

open Tabular.Action

variable {σ τ : Type}

/-! ## Rows and columns -/

namespace RunResult

/-- The number of a new row. -/
def number (result : RunResult) : Value := (result.lastInsertId.map .int).getD .null

theorem number_isSqlite (result : RunResult) : result.number.isSqlite = true := by
  obtain ⟨inserted, changes⟩ := result
  cases inserted <;> rfl

end RunResult

namespace Keyed

variable {entries : Row}

/-- The values of a mapping come from a table. -/
def IsSqlite (entries : Row) : Prop := ∀ entry ∈ entries, entry.2.isSqlite = true

theorem IsSqlite.get? (sqlite : IsSqlite entries) {key value : Value}
    (has : entries.get? key = some value) : value.isSqlite = true := by
  obtain ⟨entry, member, rfl⟩ := get?_eq_some has
  exact sqlite entry member

/-- This function gives the row of the columns of a statement. -/
def ofColumns (columns : List (String × Value)) : Row :=
  columns.map fun column => (.text column.1, column.2)

theorem get?_ofColumns_mem {columns : List (String × Value)} (once : (columns.map Prod.fst).Nodup)
    {name : String} {value : Value} (member : (name, value) ∈ columns) :
    (ofColumns columns).get? (.text name) = some value := by
  refine get?_of_mem ?_ (List.mem_map_of_mem (f := fun column => (Value.text column.1, column.2)) member)
  have texts := once.map (f := Value.text) fun _ _ same => Value.text.inj same
  rw [List.map_map] at texts
  rw [keys, ofColumns, List.map_map]
  exact texts

/-- A value of a row is bound in its stored form. -/
theorem get?_ofColumns {columns : List (String × Value)} (each : List.Forall₂ Query.Keeps entries columns)
    (name : String) : (entries.get? (.text name) = none ∧ (ofColumns columns).get? (.text name) = none) ∨
      ∃ value form, entries.get? (.text name) = some value ∧ value.stored = .ok form ∧
        (ofColumns columns).get? (.text name) = some form ∧ (name, form) ∈ columns := by
  induction each with
  | nil => exact .inl ⟨rfl, rfl⟩
  | @cons entry column entries columns first rest inductionHypothesis =>
      obtain ⟨key, value⟩ := entry
      obtain ⟨same, kept⟩ := first
      obtain rfl := same
      rw [ofColumns, List.map_cons, get?_cons, get?_cons, Value.same_text_text]
      by_cases same : name = column.1
      · obtain rfl := same
        refine .inr ⟨value, column.2, ?_, kept, ?_, List.mem_cons_self⟩ <;>
          rw [beq_self_eq_true, if_pos rfl]
      · rw [beq_false_of_ne same, if_neg Bool.false_ne_true, if_neg Bool.false_ne_true]
        refine inductionHypothesis.imp id ?_
        rintro ⟨value, form, has, kept, bound, member⟩
        exact ⟨value, form, has, kept, bound, List.mem_cons_of_mem _ member⟩

end Keyed

/-! ## Tables that store what is bound -/

/-- A statement succeeds with a result and takes the engine from one state to another. -/
def Engine.Executes (engine : Engine τ) (before : τ) (made : RunResult) (final : τ) : Prop :=
  ∃ cursor sql parameters, engine.answer (.execute cursor sql parameters) before = (.ok made, final)

/-- A table as it is seen from outside: its rows, the rows that a cursor holds, which values are equal to
the engine, and the value of a column that an insertion does not name. -/
structure RowStore (τ : Type) where
  rows : τ → List Row
  held : τ → Cursor → List Row
  equal : Value → Value → Bool
  unnamed : τ → Value → Value

namespace RowStore

/-- A row has a value in a column, as the engine compares them. -/
def matching (store : RowStore τ) (column : String) (content : Value) (row : Row) : Bool :=
  (row.get? (.text column)).any fun value => store.equal value content

/-- A row with this value in this column gets new values in other columns. -/
def set (store : RowStore τ) (column : String) (content : Value) (columns : List (String × Value))
    (row : Row) : Row :=
  if store.matching column content row then Keyed.merge row (Keyed.ofColumns columns) else row

/-- A stored row has a value in a column, provided that the value can be kept. -/
def Finds (store : RowStore τ) (state : τ) (column value : Value) (found : Row) : Prop :=
  ∀ form, value.stored = .ok form → found ∈ store.rows state ∧
    ∃ name, column = .text name ∧ store.matching name form found = true

end RowStore

namespace Schema

/-- The primary key that is the number of its row. -/
def rowNumber? (schema : Schema) : Option Value :=
  schema.keyColumn?.filter fun key => (schema.columns.get? key).any fun column => column.storage == .integer

/-- The columns of a statement are declared, and each is named once. -/
structure Settable (schema : Schema) (columns : List (String × Value)) : Prop where
  once : (columns.map Prod.fst).Nodup
  declared : ∀ column ∈ columns, schema.columns.has (.text column.1) = true

/-- A new row has what is bound to its columns. Where the integer key is missing, it has the number of the
row, and what the engine has for it in any other column. -/
structure Inserted (schema : Schema) (store : RowStore τ) (columns : List (String × Value))
    (made : RunResult) (before : τ) (row : Row) : Prop where
  named : ∀ column ∈ columns, row.get? (.text column.1) = some column.2
  numbered : ∀ key, schema.rowNumber? = some key → (Keyed.ofColumns columns).has key = false →
    row.get? key = some made.number
  unnamed : ∀ key ∈ schema.columns.keys, schema.rowNumber? ≠ some key →
    (Keyed.ofColumns columns).has key = false → row.get? key = some (store.unnamed before key)

/-- An engine that stores what is bound. It may refuse any statement, but a selection that succeeds finds
the rows with a value, an insertion adds a row, and an update sets the columns of the rows with a value. -/
structure Storing (schema : Schema) (engine : Engine τ) (store : RowStore τ) : Prop where
  sqlite : ∀ state, ∀ row ∈ store.rows state, Keyed.IsSqlite row
  equal : ∀ state, ∀ row ∈ store.rows state, ∀ entry ∈ row,
    store.equal entry.2 entry.2 = !entry.2.isNull
  quiet : ∀ request state, request.isQuiet = true →
    store.rows (engine.answer request state).2 = store.rows state
  fetches : ∀ cursor state found, (engine.answer (.fetchOne cursor) state).1 = .ok found →
    found = (store.held state cursor).head?
  selects : ∀ cursor column content state result next, isColumnName column = true →
    engine.answer (.execute cursor (Query.selectText schema.name.toText column)
      (.map [(.text "p1", content)])) state = (.ok result, next) →
    store.rows next = store.rows state ∧
      store.held next cursor = (store.rows state).filter (store.matching column content)
  inserts : ∀ cursor columns state made next, schema.Settable columns →
    engine.answer (.execute cursor (insertText schema.name.toText (columns.map Prod.fst))
      (.map (Keyed.ofColumns columns))) state = (.ok made, next) →
    ∃ row, store.rows next = store.rows state ++ [row] ∧ schema.Inserted store columns made state row
  updates : ∀ cursor column content columns state result next, isColumnName column = true →
    schema.Settable columns →
    engine.answer (.execute cursor (Query.updateText schema.name.toText column (columns.map Prod.fst))
      (.map (Binder.named 1 (content :: columns.map Prod.snd)))) state = (.ok result, next) →
    store.rows next = (store.rows state).map (store.set column content columns)

variable {schema : Schema} {engine : Engine τ} {store : RowStore τ} {database : Database} {entries : Row}
  {start final : τ}

theorem storedEntries_eq_ok {stored : List (Value × Value)}
    (done : Value.storedEntries entries = .ok stored) :
    ∀ entry ∈ entries, ∃ form, entry.2.stored = .ok form := by
  induction entries generalizing stored with
  | nil => exact List.forall_mem_nil _
  | cons entry rest inductionHypothesis =>
      obtain ⟨form, kept, done⟩ := Outcome.bind_eq_ok.mp done
      obtain ⟨others, doneRest, -⟩ := Outcome.bind_eq_ok.mp done
      exact List.forall_mem_cons.mpr ⟨⟨form, kept⟩, inductionHypothesis doneRest⟩

/-- Every value of a row that is inserted can be kept. -/
theorem insertStatement_stores (filled : entries ≠ []) {bound : BoundText}
    (built : schema.insertStatement (.map entries) = .ok bound) :
    ∀ entry ∈ entries, ∃ form, entry.2.stored = .ok form := by
  rw [insertStatement, if_pos (Value.isTrue_map.mpr filled)] at built
  obtain ⟨_, -, built⟩ := Outcome.bind_eq_ok.mp built
  obtain ⟨_, -, built⟩ := Outcome.bind_eq_ok.mp built
  obtain ⟨_, same, built⟩ := Outcome.bind_eq_ok.mp built
  obtain ⟨stored, kept, -⟩ := Outcome.bind_eq_ok.mp built
  obtain rfl := Except.ok.inj same
  exact storedEntries_eq_ok kept

/-- All columns of a row that can be looked up are declared. -/
theorem admits_of_lookup (texts : ∀ name ∈ entries.keys, ∃ content, name = Value.text content)
    {filter : Value} (looked : schema.lookup (.map entries) = .ok filter) : schema.Admits entries := by
  rw [← unknown?_eq_none]
  rw [lookup_texts texts] at looked
  cases unknown : schema.unknown? entries with
  | none => rfl
  | some name =>
      rw [unknown] at looked
      cases looked

/-- A row whose columns are declared texts, each of them once. -/
structure Writable (schema : Schema) (entries : Row) : Prop where
  texts : ∀ name ∈ entries.keys, ∃ content, name = Value.text content
  once : entries.keys.Nodup
  admits : schema.Admits entries
  filled : entries ≠ []

namespace Writable

variable (row : schema.Writable entries)

include row

theorem keeps (kept : ∀ entry ∈ entries, ∃ form, entry.2.stored = .ok form) :
    ∃ columns, List.Forall₂ Query.Keeps entries columns :=
  Query.keeps_of_each (fun _ member => row.texts _ (List.mem_map_of_mem member)) kept

theorem settable {columns : List (String × Value)} (each : List.Forall₂ Query.Keeps entries columns) :
    schema.Settable columns where
  once := Query.keeps_once each row.once
  declared _ inside := row.admits _ (Query.keeps_mem each inside)

end Writable

/-! ## What is stored -/

/-- The primary key that a row lacks. -/
def missingKey? (schema : Schema) (entries : Row) : Option Value :=
  schema.keyColumn?.filter fun key => key.isTrue && !entries.has key

/-- The primary key of a stored row is null. -/
def HasNullKey (schema : Schema) (stored : Row) : Prop :=
  ∃ key, schema.keyColumn? = some key ∧ stored.get? key = some .null

theorem hasNullKey_iff {key : Value} (keyed : schema.keyColumn? = some key) {stored : Row} :
    schema.HasNullKey stored ↔ stored.get? key = some .null := by
  constructor
  · rintro ⟨other, isKey, null⟩
    rw [Option.some.inj (keyed.symm.trans isKey)]
    exact null
  · intro null
    exact ⟨key, keyed, null⟩

/-- A new row gets its number as the primary key that it lacks. -/
def withNumber (schema : Schema) (entries : Row) (made : RunResult) : Row :=
  entries ++ (schema.missingKey? entries).toList.map fun key => (key, made.number)

theorem withNewKey_eq (made : RunResult) :
    schema.withNewKey (.map entries) made = .ok (.map (schema.withNumber entries made)) := by
  rw [withNewKey, withNumber, missingKey?]
  cases schema.keyColumn? with
  | none =>
      rw [Option.filter_none, Option.toList_none, List.map_nil, List.append_nil]
      rfl
  | some key =>
      rw [Option.filter_some]
      dsimp only
      split
      · rfl
      · rw [Option.toList_none, List.map_nil, List.append_nil]
        rfl

/-- What an upsert stores and returns. A new row is returned with its number if it lacks the primary key,
and an old one is returned with the new values. -/
inductive Stores (schema : Schema) (store : RowStore τ) (entries : Row) (before : τ) (made : RunResult)
    (final : τ) : Row → Row → Prop where
  | inserted {columns : List (String × Value)} {stored : Row}
      (each : List.Forall₂ Query.Keeps entries columns)
      (rows : store.rows final = store.rows before ++ [stored])
      (inserted : schema.Inserted store columns made before stored) :
      Stores schema store entries before made final (schema.withNumber entries made) stored
  | updated {old : Row} {name : String} {content : Value} {columns : List (String × Value)}
      (each : List.Forall₂ Query.Keeps entries columns) (member : old ∈ store.rows before)
      (rows : store.rows final = (store.rows before).map (store.set name content columns))
      (met : store.matching name content old = true ↔ ¬ schema.HasNullKey old) :
      Stores schema store entries before made final (Keyed.merge old entries)
        (store.set name content columns old)

/-- Every value of a row that is stored can be kept. -/
theorem Stores.kept {shown stored : Row} {before : τ} {made : RunResult}
    (stores : schema.Stores store entries before made final shown stored) {column value : Value}
    (has : entries.get? column = some value) : ∃ form, value.stored = .ok form := by
  have keeps : ∃ columns, List.Forall₂ Query.Keeps entries columns := by
    cases stores with
    | inserted each => exact ⟨_, each⟩
    | updated each => exact ⟨_, each⟩
  obtain ⟨columns, each⟩ := keeps
  obtain ⟨entry, member, rfl⟩ := Keyed.get?_eq_some has
  obtain ⟨⟨name, form⟩, -, -, kept⟩ := Outcome.standing each.flip member
  exact ⟨form, kept⟩

/-! ## What comes of an upsert that returns -/

/-- Every value that an update sets can be kept. -/
theorem updateWhere_keeps {filter : Value} {result : RunResult}
    (yields : (schema.updateWhere database filter (.map entries) : Action σ _).Yields engine start result
      final) {column value : Value} (has : entries.get? column = some value) :
    ∃ form, value.stored = .ok form := by
  obtain ⟨query, _, -, updates⟩ := yields.bind
  obtain ⟨bound, _, builds, -⟩ := updates.bind
  obtain ⟨_, isMap, keeps⟩ := Query.updateStatement_stores builds.lift.1
  obtain rfl := Value.map.inj isMap
  obtain ⟨entry, member, rfl⟩ := Keyed.get?_eq_some has
  exact keeps entry member

section Runs

variable (laws : schema.Storing engine store)

include laws

theorem Storing.answered {connection : Connection} {sql : String} {parameters : Value} {cursor : Cursor}
    {answer : Except Outside RunResult}
    (answered : Database.Answered engine connection sql parameters start cursor answer final) :
    ∃ before, store.rows before = store.rows start ∧
      engine.answer (.execute cursor sql (Database.driverParameters parameters)) before =
        (answer, final) := by
  obtain ⟨before, given, executed⟩ := answered
  refine ⟨before, ?_, executed⟩
  have quiet := laws.quiet (.cursor connection)
    (engine.answer (.log ⟨.debug, Database.logger, sql ++ " " ++ parameters.literal⟩) start).2 rfl
  rw [given] at quiet
  exact quiet.trans (laws.quiet _ start rfl)

/-- A lookup by a value that can be kept finds a row with it, if any. -/
theorem storedRow_yields {column value form : Value} (kept : value.stored = .ok form) {found : Option Row}
    (yields : (schema.storedRow database (.map [(column, value)]) : Action σ _).Yields engine start found
      final) :
    store.rows final = store.rows start ∧ ∀ old, found = some old → old ∈ store.rows start ∧
      ∃ name, column = .text name ∧ store.matching name form old = true := by
  have whole : (schema.storedRow database (.map [(column, value)]) : Action σ _) =
      (Query.keyed schema.name column value).first database := rfl
  rw [whole] at yields
  obtain ⟨bound, _, builds, yields⟩ := yields.bind
  obtain ⟨built, rfl⟩ := builds.lift
  obtain ⟨name, rfl, comparable, rfl⟩ := Query.selectStatement_keyed kept built
  obtain ⟨connection, cursor, result, middle, answered, fetched⟩ := Database.first_yields yields
  obtain ⟨before, same, executed⟩ := laws.answered answered
  obtain ⟨unchanged, holds⟩ := laws.selects cursor name form before result middle comparable.column executed
  have quiet := laws.quiet (.fetchOne cursor) middle rfl
  have first := laws.fetches cursor middle found (congrArg Prod.fst fetched)
  rw [fetched] at quiet
  refine ⟨quiet.trans (unchanged.trans same), ?_⟩
  rintro old rfl
  rw [holds, same] at first
  obtain ⟨member, matching⟩ := List.mem_filter.mp (List.mem_of_mem_head? first.symm)
  exact ⟨member, name, rfl, matching⟩

/-- An update that succeeds sets the columns of the rows with a value. -/
theorem updateWhere_yields (row : schema.Writable entries) {column value form : Value}
    (kept : value.stored = .ok form) {result : RunResult}
    (yields : (schema.updateWhere database (.map [(column, value)]) (.map entries) : Action σ _).Yields
      engine start result final) :
    ∃ before name columns, column = .text name ∧ List.Forall₂ Query.Keeps entries columns ∧
      store.rows before = store.rows start ∧ engine.Executes before result final ∧
      store.rows final = (store.rows before).map (store.set name form columns) := by
  have whole : (schema.updateWhere database (.map [(column, value)]) (.map entries) : Action σ _) =
      (Query.keyed schema.name column value).update database (.map entries) := rfl
  rw [whole] at yields
  obtain ⟨bound, _, builds, yields⟩ := yields.bind
  obtain ⟨built, rfl⟩ := builds.lift
  obtain ⟨name, rfl, comparable, -⟩ := Query.updateStatement_keyed kept built
  obtain ⟨_, isMap, stores⟩ := Query.updateStatement_stores built
  obtain rfl := Value.map.inj isMap
  obtain ⟨columns, each⟩ := row.keeps stores
  have statement := Query.updateStatement_withValue comparable.named comparable.column comparable.operand
    kept each row.filled
  obtain rfl := Except.ok.inj (built.symm.trans statement)
  obtain ⟨connection, cursor, answered⟩ := Database.run_yields yields
  obtain ⟨before, same, executed⟩ := laws.answered answered
  have updated := laws.updates cursor name form columns before result final comparable.column
    (row.settable each) executed
  exact ⟨before, name, columns, rfl, each, same, ⟨_, _, _, executed⟩, updated⟩

/-- An insertion that succeeds adds a row. -/
theorem insert_yields (row : schema.Writable entries) {made : RunResult}
    (yields : (schema.insert database (.map entries) : Action σ _).Yields engine start made final) :
    ∃ before columns stored, List.Forall₂ Query.Keeps entries columns ∧
      store.rows before = store.rows start ∧ engine.Executes before made final ∧
      store.rows final = store.rows before ++ [stored] ∧
      schema.Inserted store columns made before stored := by
  obtain ⟨bound, _, builds, yields⟩ := yields.bind
  obtain ⟨built, rfl⟩ := builds.lift
  obtain ⟨columns, each⟩ := row.keeps (insertStatement_stores row.filled built)
  obtain rfl := Except.ok.inj (built.symm.trans (insertStatement_ok each row.filled))
  obtain ⟨connection, cursor, answered⟩ := Database.run_yields yields
  obtain ⟨before, same, executed⟩ := laws.answered answered
  obtain ⟨stored, rows, inserted⟩ :=
    laws.inserts cursor columns before made final (row.settable each) executed
  exact ⟨before, columns, stored, each, same, ⟨_, _, _, executed⟩, rows, inserted⟩

theorem writeOver_none_stores (row : schema.Writable entries) {filter result : Value}
    (yields : (schema.writeOver database filter (.map entries) none : Action σ _).Yields engine start result
      final) :
    ∃ shown stored before made, result = .map shown ∧ store.rows before = store.rows start ∧
      engine.Executes before made final ∧ schema.Stores store entries before made final shown stored := by
  obtain ⟨made, _, inserts, numbers⟩ := yields.bind
  obtain ⟨returned, rfl⟩ := numbers.lift
  obtain ⟨before, columns, stored, each, same, executes, rows, inserted⟩ := insert_yields laws row inserts
  rw [withNewKey_eq] at returned
  exact ⟨_, stored, before, made, (Except.ok.inj returned).symm, same, executes,
    .inserted each rows inserted⟩

theorem writeOver_some_stores (row : schema.Writable entries) {column value : Value}
    (has : entries.get? column = some value) {old : Row} (finds : store.Finds start column value old)
    {result : Value}
    (yields : (schema.writeOver database (.map [(column, value)]) (.map entries) (some old) :
      Action σ _).Yields engine start result final) :
    ∃ shown stored before made, result = .map shown ∧ store.rows before = store.rows start ∧
      engine.Executes before made final ∧ schema.Stores store entries before made final shown stored := by
  rw [writeOver] at yields
  cases keyed : schema.keyColumn? with
  | some key =>
      rw [keyed] at yields
      obtain ⟨content, _, takes, writes⟩ := yields.bind
      obtain ⟨taken, rfl⟩ := takes.lift
      obtain ⟨made, _, updates, merges⟩ := writes.bind
      obtain ⟨returned, rfl⟩ := merges.lift
      obtain ⟨_, isMap, holds⟩ := Value.columnValue_eq_ok taken
      obtain rfl := Value.map.inj isMap
      obtain ⟨form, kept⟩ := updateWhere_keeps updates has
      obtain ⟨member, -⟩ := finds form kept
      obtain ⟨entry, inside, rfl⟩ := Keyed.get?_eq_some holds
      -- A key that comes from a table is compared as it is stored.
      have own := Value.stored_isSqlite (laws.sqlite _ old member entry inside)
      obtain ⟨before, name, columns, rfl, each, same, executes, rows⟩ :=
        updateWhere_yields laws row own updates
      refine ⟨_, _, before, made, (Except.ok.inj returned).symm, same, executes,
        .updated each (same.symm ▸ member) rows ?_⟩
      rw [RowStore.matching, holds, Option.any_some, laws.equal _ old member entry inside,
        hasNullKey_iff keyed, holds]
      cases entry.2 <;> simp [Value.isNull]
  | none =>
      rw [keyed] at yields
      obtain ⟨made, _, updates, merges⟩ := yields.bind
      obtain ⟨returned, rfl⟩ := merges.lift
      obtain ⟨form, kept⟩ := updateWhere_keeps updates has
      obtain ⟨member, _, rfl, met⟩ := finds form kept
      obtain ⟨before, name, columns, isName, each, same, executes, rows⟩ :=
        updateWhere_yields laws row kept updates
      obtain rfl := Value.text.inj isName
      have keyless : ¬ schema.HasNullKey old := by
        rintro ⟨key, isKey, -⟩
        exact Option.some_ne_none key (isKey.symm.trans keyed)
      exact ⟨_, _, before, made, (Except.ok.inj returned).symm, same, executes,
        .updated each (same.symm ▸ member) rows (iff_of_true met keyless)⟩

/-- What is written over a row that was looked up, if any, is stored. -/
theorem found_stores (row : schema.Writable entries) {column value : Value}
    (has : entries.get? column = some value) {found : Option Row} {middle : τ}
    (looks : (schema.storedRow database (.map [(column, value)]) : Action σ _).Yields engine start found
      middle) {result : Value}
    (writes : (schema.writeOver database (.map [(column, value)]) (.map entries) found : Action σ _).Yields
      engine middle result final) :
    ∃ shown stored before made, result = .map shown ∧ store.rows before = store.rows start ∧
      engine.Executes before made final ∧ schema.Stores store entries before made final shown stored := by
  have written : ∃ shown stored before made, result = .map shown ∧
      store.rows before = store.rows middle ∧ engine.Executes before made final ∧
      schema.Stores store entries before made final shown stored := by
    cases found with
    | none => exact writeOver_none_stores laws row writes
    | some old =>
        refine writeOver_some_stores laws row has (fun form kept => ?_) writes
        obtain ⟨unchanged, holds⟩ := storedRow_yields laws kept looks
        rw [unchanged]
        exact holds old rfl
  -- The lookup is known to change nothing only once the value is known to be kept.
  obtain ⟨shown, stored, before, made, returned, same, executes, stores⟩ := written
  obtain ⟨form, kept⟩ := stores.kept has
  exact ⟨shown, stored, before, made, returned, same.trans (storedRow_yields laws kept looks).1, executes,
    stores⟩

/-- What an upsert returns is stored. The rows are those of the start, unless the first attempt failed
because a key was taken. -/
theorem upsert_stores (row : schema.Writable entries) {filter : Value}
    (looked : schema.lookup (.map entries) = .ok filter) {state : σ} {run : Run σ τ Value}
    (runs : (schema.upsert database (.map entries)).runOn engine state start = run) {result : Value}
    (ended : run.outcome = .ok result) :
    ∃ shown stored before made, result = .map shown ∧
      (store.rows before = store.rows start ∨ ∃ failure, failure.violates = true ∧
        ((schema.tryUpsert database filter (.map entries)).runOn engine state start).outcome =
          .error failure) ∧
      engine.Executes before made run.final ∧
      schema.Stores store entries before made run.final shown stored := by
  obtain ⟨_, column, value, isMap, rfl, has⟩ := lookup_eq_ok looked
  obtain rfl := Value.map.inj isMap
  rw [upsert_eq looked, runOn_bind, runOn_attempt] at runs
  generalize tries : (schema.tryUpsert database (.map [(column, value)]) (.map entries)).runOn engine state
    start = first at runs ⊢
  obtain ⟨outcome, after, middle, exchanges⟩ := first
  rw [Run.follow] at runs
  cases outcome with
  | ok other =>
      subst runs
      obtain rfl := Except.ok.inj ended
      have yields : (schema.tryUpsert database (.map [(column, value)]) (.map entries)).Yields engine start
          other middle := ⟨state, by rw [tries], by rw [tries]⟩
      obtain ⟨found, _, finds, writes⟩ := yields.bind
      obtain ⟨shown, stored, before, made, returned, same, stores⟩ :=
        found_stores laws row has finds writes
      exact ⟨shown, stored, before, made, returned, .inl same, stores⟩
  | error failure =>
      dsimp only at runs
      split at runs
      · next taken =>
          subst runs
          obtain ⟨_, _, -, again⟩ := Action.Yields.bind ⟨after, ended, rfl⟩
          obtain ⟨found, _, finds, writes⟩ := again.bind
          cases found with
          -- A row that is missing after a taken key is not inserted, and the call does not return.
          | none =>
              obtain ⟨_, failed, -⟩ := writes
              cases failed
          | some old =>
              obtain ⟨shown, stored, before, made, returned, -, stores⟩ :=
                found_stores laws row has finds writes
              exact ⟨shown, stored, before, made, returned, .inr ⟨failure, taken, rfl⟩, stores⟩
      · subst runs
        cases ended

end Runs

end Schema

end Tabular
