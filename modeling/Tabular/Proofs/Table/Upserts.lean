import Tabular.Proofs.Engine.Interleaving
import Tabular.Proofs.Engine.Straight
import Tabular.Proofs.Table.Rows

/-!
This module follows a call that upserts a row while other clients are at work on the same table. A key
that is found taken at an insertion is there for good, so that one retry is enough.
-/

namespace Tabular

open Tabular.Action

variable {ι σ τ K : Type}

/-! ## The engine -/

/-- What is seen of a table: the numbers of its rows with the classes of their keys, and the rows that
a cursor holds. Values in one class are the same key to the engine. -/
structure TableView (τ K : Type) where
  rows : τ → List (Int × K)
  held : τ → Cursor → List Row
  keyOf : Value → K

namespace TableView

/-- No two rows have the same number or the same key. -/
structure Unique (view : TableView τ K) (state : τ) : Prop where
  numbers : ((view.rows state).map Prod.fst).Nodup
  keys : ((view.rows state).map Prod.snd).Nodup

/-- Rows are added at most. -/
def Grows (view : TableView τ K) (first second : τ) : Prop := view.rows first ⊆ view.rows second

/-- A row that is found has the key, and where none is found, no row had it before. -/
def Finds (view : TableView τ K) (id : String) (content : K) (before after : τ) : Option Row → Prop
  | none => ∀ row ∈ view.rows before, row.2 ≠ content
  | some found => ∃ number, (number, content) ∈ view.rows after ∧
      found.get? (.text id) = some (.int number)

/-- The row that a call returns has the number of the stored row with the key. -/
def Returned (view : TableView τ K) (id : String) (content : K) (result : Value) (state : τ) : Prop :=
  ∃ number, (number, content) ∈ view.rows state ∧ result.columnValue (.text id) = .ok (.int number)

/-- A call failed because a row has the key. -/
structure Taken (view : TableView τ K) (content : K) (failure : Failure) (state : τ) : Prop where
  engine : failure.isEngine = true
  violation : failure.isUniqueViolation = true
  present : ∃ row ∈ view.rows state, row.2 = content

/-- An attempt returns the stored row, or it fails because the key is taken. -/
def Tried (view : TableView τ K) (id : String) (content : K) : Except Failure Value → τ → Prop
  | .ok result, state => view.Returned id content result state
  | .error failure, state => view.Taken content failure state

variable {view : TableView τ K} {id : String} {content : K} {number : Int} {first second third : τ}

theorem Grows.of_eq (same : view.rows second = view.rows first) : view.Grows first second := by
  rw [Grows, same]
  exact List.Subset.refl _

theorem Finds.earlier {found : Option Row} (finds : view.Finds id content second third found)
    (grows : view.Grows first second) : view.Finds id content first third found := by
  cases found with
  | none => exact fun row member => finds row (grows member)
  | some row => exact finds

theorem Finds.later {found : Option Row} (finds : view.Finds id content first second found)
    (grows : view.Grows second third) : view.Finds id content first third found := by
  cases found with
  | none => exact finds
  | some row =>
      obtain ⟨number, member, numbered⟩ := finds
      exact ⟨number, grows member, numbered⟩

namespace Unique

variable (unique : view.Unique first)

include unique

theorem of_rows (same : view.rows second = view.rows first) : view.Unique second :=
  ⟨same.symm ▸ unique.numbers, same.symm ▸ unique.keys⟩

omit unique in
theorem nodup_append {β : Type} {part : Int × K → β} {rows : List (Int × K)} {row : Int × K}
    (once : (rows.map part).Nodup) (fresh : ∀ other ∈ rows, part other ≠ part row) :
    ((rows ++ [row]).map part).Nodup := by
  rw [List.map_append, List.map_singleton, ← List.concat_eq_append, List.nodup_concat]
  refine ⟨fun member => ?_, once⟩
  obtain ⟨other, inside, same⟩ := List.mem_map.mp member
  exact fresh other inside same

/-- A row with a new number and a new key may be added. -/
theorem append (freshNumber : ∀ row ∈ view.rows first, row.1 ≠ number)
    (freshKey : ∀ row ∈ view.rows first, row.2 ≠ content)
    (rows : view.rows second = view.rows first ++ [(number, content)]) : view.Unique second := by
  constructor
  · rw [rows]
    exact nodup_append unique.numbers freshNumber
  · rw [rows]
    exact nodup_append unique.keys freshKey

/-- A key has one row at most. -/
theorem only (member : (number, content) ∈ view.rows first) {row : Int × K}
    (other : row ∈ view.rows first) (same : row.2 = content) : row = (number, content) :=
  List.inj_on_of_nodup_map unique.keys other member same

/-- A row that already has the key is not changed by an update that sets it. -/
theorem update (member : (number, content) ∈ view.rows first) :
    ((view.rows first).map fun row => if row.1 = number then (number, content) else row) =
      view.rows first := by
  refine (List.map_congr_left fun row other => ?_).trans (List.map_id _)
  split
  · next same => exact (List.inj_on_of_nodup_map unique.numbers other member same).symm
  · rfl

end Unique

end TableView

/-- This function gives the connection that a request is about. -/
def Request.connection? : Request → Option Connection
  | .disconnect connection | .inTransaction connection | .script connection _
  | .cursor connection => some connection
  | .execute place _ _ | .fetchOne place | .fetchMany place _ | .fetchAll place | .rows place
  | .advance place _ | .remaining place | .closeCursor place => some place.connection
  | .connect _ | .log _ | .threshold _ | .time => none

/-- This failure says that a unique value is there already. -/
structure Outside.ViolatesUnique (cause : Outside) : Prop where
  engine : cause.kind.isEngine = true
  message : ∃ rest, cause.message = "UNIQUE constraint failed" ++ rest

theorem Failure.holds_start (part rest : List Char) : holds (part ++ rest) part = true := by
  cases whole : part ++ rest with
  | nil =>
      obtain ⟨rfl, -⟩ := List.append_eq_nil_iff.mp whole
      rfl
  | cons first others =>
      rw [holds, ← whole, List.isPrefixOf_iff_prefix.mpr (List.prefix_append part rest), Bool.true_or]

theorem Failure.message_engine (message sql : String) (parameters : Value) :
    ∃ rest, (Failure.engine message sql parameters).message = message ++ rest := by
  change ∃ rest, engineMessage message sql parameters = message ++ rest
  rw [engineMessage]
  split
  · refine ⟨", when running " ++ sql ++ " with " ++ parameters.literal, ?_⟩
    simp only [String.append_assoc]
  · exact ⟨_, String.append_assoc ..⟩

/-- The failure of an insertion tells that the key is there. -/
theorem Outside.ViolatesUnique.taken {view : TableView τ K} {cause : Outside}
    (violates : cause.ViolatesUnique) {content : K} {state : τ}
    (present : ∃ row ∈ view.rows state, row.2 = content) (sql : String) (parameters : Value) :
    view.Taken content ((Failure.outside cause).attach sql parameters) state := by
  have attached : (Failure.outside cause).attach sql parameters =
      .engine cause.message sql parameters := if_pos violates.engine
  obtain ⟨rest, message⟩ := violates.message
  obtain ⟨more, whole⟩ := Failure.message_engine cause.message sql parameters
  rw [attached]
  refine ⟨rfl, ?_, present⟩
  rw [Failure.isUniqueViolation, whole, message, String.append_assoc, String.toList_append]
  exact Failure.holds_start _ _

namespace Schema

/-- Columns of the table that are written, with a key among them. -/
structure Writes (schema : Schema) (id key : String) (columns : List (String × Value))
    (content : Value) : Prop where
  once : (columns.map Prod.fst).Nodup
  declared : ∀ column ∈ columns, schema.columns.has (.text column.1) = true
  unnumbered : id ∉ columns.map Prod.fst
  keyed : (key, content) ∈ columns

/-- An engine that executes single statements on a table. A selection finds the row with a key, an
insertion gives a new number or fails where the key is taken, and an update sets the key of the row
with a number, provided that no other row has it. Nothing else fails, and no row is removed. -/
structure Upserting (schema : Schema) (id key : String) (engine : Engine τ) (view : TableView τ K) :
    Prop where
  cursors : ∀ connection state, (engine.answer (.cursor connection) state).1.connection = connection
  quiet : ∀ request state, request.isQuiet = true →
    view.rows (engine.answer request state).2 = view.rows state
  frame : ∀ request state cursor, request.connection? ≠ some cursor.connection →
    view.held (engine.answer request state).2 cursor = view.held state cursor
  fetches : ∀ cursor state,
    (engine.answer (.fetchOne cursor) state).1 = .ok (view.held state cursor).head?
  selects : ∀ cursor content state, ∃ result next,
    engine.answer (.execute cursor (Query.selectText schema.name.toText key)
      (.map [(.text "p1", content)])) state = (.ok result, next) ∧
    view.rows next = view.rows state ∧
    view.Finds id (view.keyOf content) state next (view.held next cursor).head?
  inserts : ∀ cursor columns content state, Writes schema id key columns content →
    (∀ row ∈ view.rows state, row.2 ≠ view.keyOf content) → ∃ number changes next,
      engine.answer (.execute cursor (insertText schema.name.toText (columns.map Prod.fst))
        (.map (columns.map fun column => (.text column.1, column.2)))) state =
        (.ok ⟨some number, changes⟩, next) ∧
      (∀ row ∈ view.rows state, row.1 ≠ number) ∧
      view.rows next = view.rows state ++ [(number, view.keyOf content)]
  refuses : ∀ cursor columns content state, Writes schema id key columns content →
    (∃ row ∈ view.rows state, row.2 = view.keyOf content) → ∃ cause next,
      engine.answer (.execute cursor (insertText schema.name.toText (columns.map Prod.fst))
        (.map (columns.map fun column => (.text column.1, column.2)))) state = (.error cause, next) ∧
      cause.ViolatesUnique ∧ view.rows next = view.rows state
  updates : ∀ cursor number columns content state, Writes schema id key columns content →
    (∀ row ∈ view.rows state, row.2 = view.keyOf content → row.1 = number) → ∃ result next,
      engine.answer (.execute cursor (Query.updateText schema.name.toText id (columns.map Prod.fst))
        (.map (Binder.named 1 (.int number :: columns.map Prod.snd)))) state = (.ok result, next) ∧
      view.rows next = (view.rows state).map fun row =>
        if row.1 = number then (number, view.keyOf content) else row

/-! ## The protocol -/

/-- A client relies on its cursors, and on rows that stay with their keys. -/
def upsertProtocol (view : TableView τ K) (connections : ι → Connection)
    (apart : Function.Injective connections) : Protocol ι τ where
  invariant := view.Unique
  rely index first second := view.Grows first second ∧
    ∀ cursor, cursor.connection = connections index → view.held second cursor = view.held first cursor
  guarantee index first second := view.Grows first second ∧
    ∀ cursor, cursor.connection ≠ connections index → view.held second cursor = view.held first cursor
  stays _ _ := ⟨List.Subset.refl _, fun _ _ => rfl⟩
  chains _ _ _ _ first second := by
    refine ⟨List.Subset.trans first.1 second.1, fun cursor on => ?_⟩
    rw [second.2 cursor on, first.2 cursor on]
  others index other _ _ differ guarantee := by
    refine ⟨guarantee.1, fun cursor on => guarantee.2 cursor fun same => differ ?_⟩
    exact apart (same.symm.trans on)

section Clients

variable {schema : Schema} {id key : String} {engine : Engine τ} {view : TableView τ K}
  {connections : ι → Connection} {apart : Function.Injective connections} {index : ι}
  {database : Database} (laws : schema.Upserting id key engine view)
  (opened : database.connection = some (connections index)) {start : τ} (unique : view.Unique start)

include laws in
/-- A request that is not about another connection keeps the rows that the others hold. -/
theorem guarantees {request : Request} {later : τ}
    (own : request.connection? = none ∨ request.connection? = some (connections index))
    (grows : view.Grows later (engine.answer request later).2) :
    (upsertProtocol view connections apart).guarantee index later (engine.answer request later).2 := by
  refine ⟨grows, fun cursor other => laws.frame request later cursor fun same => ?_⟩
  rcases own with none | some
  · exact nomatch none.symm.trans same
  · exact other (Option.some.inj (same.symm.trans some))

include laws in
/-- A quiet request of a client is safe. -/
theorem quiet_safe {request : Request} {post : Except Failure request.Answer → τ → Prop}
    (quiet : request.isQuiet = true)
    (own : request.connection? = none ∨ request.connection? = some (connections index))
    (holds : ∀ later, view.Grows start later →
      (∀ cursor, cursor.connection = connections index →
        view.held later cursor = view.held start cursor) →
      view.Grows start (engine.answer request later).2 →
      post (.ok (engine.answer request later).1) (engine.answer request later).2) :
    (ask request : Action σ _).Safe engine (upsertProtocol view connections apart) index post 1
      start := by
  refine Safe.ask fun later rely valid => ?_
  have same := laws.quiet request later quiet
  have grows : view.Grows later (engine.answer request later).2 := .of_eq same
  refine ⟨?_, guarantees laws own grows, ?_⟩
  · exact valid.of_rows same
  · exact holds later rely.1 rely.2 (List.Subset.trans rely.1 grows)

/-- What comes of an executed statement. -/
def executedOn (cursor : Cursor) (sql : String) (parameters : Value) :
    Except Outside RunResult → Except Failure (Cursor × RunResult)
  | .ok result => .ok (cursor, result)
  | .error cause => .error ((Failure.outside cause).attach sql parameters)

include laws opened unique in
/-- A statement is executed in a state to which the others have led. -/
theorem execute_safe {sql : String} {parameters : Value}
    {post : Except Failure (Cursor × RunResult) → τ → Prop}
    (executes : ∀ cursor later, cursor.connection = connections index → view.Grows start later →
      view.Unique later → ∃ answer next,
        engine.answer (.execute cursor sql (Database.driverParameters parameters)) later =
          (answer, next) ∧
        view.Unique next ∧ view.Grows later next ∧
        post (executedOn cursor sql parameters answer) next) :
    (database.execute sql parameters : Action σ _).Safe engine
      (upsertProtocol view connections apart) index post 3 start := by
  simp only [Database.execute, Database.connected, opened, pure_bind]
  have logged : (log .debug Database.logger (sql ++ " " ++ parameters.literal) :
      Action σ Unit).Safe engine (upsertProtocol view connections apart) index
      (Returns fun _ later => view.Grows start later) 1 start :=
    quiet_safe laws rfl (.inl rfl) fun later _ _ grows => grows
  refine logged.follow unique fun _ second valid grows => ?_
  have given : (ask (.cursor (connections index)) : Action σ Cursor).Safe engine
      (upsertProtocol view connections apart) index
      (Returns fun (cursor : Cursor) later => cursor.connection = connections index ∧
        view.Grows start later) 1 second :=
    quiet_safe laws rfl (.inr rfl) fun later _ _ more =>
      ⟨laws.cursors _ _, List.Subset.trans grows more⟩
  refine given.follow valid fun cursor third valid onCursor => ?_
  -- Others may take turns before the statement is executed, so that it meets a later state.
  have answered : (ask (.execute cursor sql (Database.driverParameters parameters)) :
      Action σ (Except Outside RunResult)).Safe engine (upsertProtocol view connections apart) index
      (Returns fun answer later => post (executedOn cursor sql parameters answer) later) 1 third := by
    refine Safe.ask fun later rely isUnique => ?_
    obtain ⟨answer, next, same, uniqueNext, grows, holds⟩ :=
      executes cursor later onCursor.1 (List.Subset.trans onCursor.2 rely.1) isUnique
    have grows : view.Grows later (engine.answer
        (.execute cursor sql (Database.driverParameters parameters)) later).2 := by
      rw [same]
      exact grows
    have own : (Request.execute cursor sql (Database.driverParameters parameters)).connection? =
        some (connections index) := congrArg some onCursor.1
    refine ⟨?_, guarantees laws (.inr own) grows, ?_⟩
    · rw [same]
      exact uniqueNext
    · rw [same]
      exact holds
  refine answered.follow valid fun answer fourth _ holds => ?_
  cases answer with
  | ok result => exact Safe.resume holds
  | error cause => exact Safe.resume holds

include laws opened unique in
/-- A statement that gives no rows ends as the engine answers. -/
theorem run_safe {sql : String} {parameters : Value} {post : Except Failure RunResult → τ → Prop}
    (executes : ∀ cursor later, cursor.connection = connections index → view.Grows start later →
      view.Unique later → ∃ answer next,
        engine.answer (.execute cursor sql (Database.driverParameters parameters)) later =
          (answer, next) ∧
        view.Unique next ∧ view.Grows later next ∧
        post ((executedOn cursor sql parameters answer).map Prod.snd) next) :
    (database.run sql parameters : Action σ _).Safe engine
      (upsertProtocol view connections apart) index post 3 start := by
  have executed : (database.execute sql parameters : Action σ _).Safe engine
      (upsertProtocol view connections apart) index
      (fun ended later => post (ended.map Prod.snd) later) 3 start :=
    execute_safe laws opened unique executes
  exact executed.bind unique (fun _ _ _ holds => Safe.resume holds) fun _ _ holds => holds

section Statements

variable (table : schema.KeyedTable id key) {entries : Row} {columns : List (String × Value)}
  {value content : Value}

theorem KeyedRow.writes (row : schema.KeyedRow id key entries)
    (each : List.Forall₂ Query.Keeps entries columns) (member : (.text key, value) ∈ entries)
    (kept : value.stored = .ok content) : schema.Writes id key columns content where
  once := Query.keeps_once each row.once
  declared _ inside := row.declared _ (Query.keeps_mem each inside)
  unnumbered inside := by
    refine row.unnumbered ?_
    rw [Query.keeps_keys each]
    exact List.mem_map_of_mem inside
  keyed := by
    obtain ⟨⟨name, stored⟩, inside, same, keeps⟩ := Outcome.standing each.flip member
    obtain rfl := Value.text.inj same
    obtain rfl := Except.ok.inj (kept.symm.trans keeps)
    exact inside

include laws opened unique table in
/-- A client finds the row of a key, unless it was not there at the start. -/
theorem storedRow_safe (operand : value.isOperand = true) (kept : value.stored = .ok content) :
    (schema.storedRow database (.map [(.text key, value)]) : Action σ _).Safe engine
      (upsertProtocol view connections apart) index
      (Returns fun found later => view.Finds id (view.keyOf content) start later found) 4 start := by
  have bound := Query.selectStatement_withValue table.named table.keyName operand kept
  have whole : (schema.storedRow database (.map [(.text key, value)]) : Action σ _) =
      database.first (Query.selectText schema.name.toText key) (.map [(.text "p1", content)]) := by
    change (Query.withValue schema.name key value).first database = _
    rw [Query.first, bound]
    rfl
  rw [whole, Database.first]
  have executed : (database.execute (Query.selectText schema.name.toText key)
      (.map [(.text "p1", content)]) : Action σ _).Safe engine
      (upsertProtocol view connections apart) index
      (Returns fun ran later => ran.1.connection = connections index ∧
        view.Finds id (view.keyOf content) start later (view.held later ran.1).head?) 3 start := by
    refine execute_safe laws opened unique fun cursor later on grows valid => ?_
    obtain ⟨result, next, answer, same, finds⟩ := laws.selects cursor content later
    refine ⟨_, next, answer, valid.of_rows same, .of_eq same, on, ?_⟩
    exact finds.earlier grows
  refine executed.follow unique fun ran second valid ⟨on, finds⟩ => ?_
  have fetched : (ask (.fetchOne ran.1) : Action σ (Except Outside (Option Row))).Safe engine
      (upsertProtocol view connections apart) index
      (Returns fun answer later => ∃ found, answer = .ok found ∧
        view.Finds id (view.keyOf content) start later found) 1 second := by
    refine quiet_safe laws rfl (.inr (congrArg some on)) fun later grows holds more => ?_
    refine ⟨_, laws.fetches ran.1 later, ?_⟩
    rw [holds ran.1 on]
    exact finds.later more
  refine fetched.follow valid fun answer third _ holds => ?_
  obtain ⟨found, rfl, finds⟩ := holds
  exact Safe.resume finds

include laws opened unique table in
/-- A client that knows the number of a row sets its columns. -/
theorem updateWhere_safe (row : schema.KeyedRow id key entries) (keyed : (.text key, value) ∈ entries)
    (kept : value.stored = .ok content) {number : Int}
    (present : (number, view.keyOf content) ∈ view.rows start) :
    (schema.updateWhere database (.map [(.text id, .int number)]) (.map entries) :
        Action σ _).Safe engine (upsertProtocol view connections apart) index
      (Returns fun _ later => (number, view.keyOf content) ∈ view.rows later) 3 start := by
  obtain ⟨columns, each⟩ := row.keeps
  have writes := row.writes each keyed kept
  have bound : (Query.withValue schema.name id (.int number)).updateStatement (.map entries) = _ :=
    Query.updateStatement_withValue table.named table.idName rfl rfl each (List.ne_nil_of_mem keyed)
  have whole : (schema.updateWhere database (.map [(.text id, .int number)]) (.map entries) :
      Action σ _) = database.run (Query.updateText schema.name.toText id (columns.map Prod.fst))
        (.map (Binder.named 1 (.int number :: columns.map Prod.snd))) := by
    change (Query.withValue schema.name id (.int number)).update database (.map entries) = _
    rw [Query.update, bound]
    rfl
  rw [whole]
  refine run_safe laws opened unique fun cursor later _ grows valid => ?_
  have stays := grows present
  obtain ⟨result, next, answer, rows⟩ := laws.updates cursor number columns content later writes
    fun other member same => congrArg Prod.fst (valid.only stays member same)
  rw [valid.update stays] at rows
  refine ⟨_, next, answer, valid.of_rows rows, .of_eq rows, ?_⟩
  rw [← rows] at stays
  exact stays

include laws opened unique in
/-- A client inserts a row with a new key, or it is told that the key is there. -/
theorem insert_safe (row : schema.KeyedRow id key entries) (keyed : (.text key, value) ∈ entries)
    (kept : value.stored = .ok content) :
    (schema.insert database (.map entries) : Action σ _).Safe engine
      (upsertProtocol view connections apart) index (fun
        | .ok result, later => ∃ number, result.lastInsertId = some number ∧
            (number, view.keyOf content) ∈ view.rows later
        | .error failure, later => view.Taken (view.keyOf content) failure later) 3 start := by
  obtain ⟨columns, each⟩ := row.keeps
  have writes := row.writes each keyed kept
  have bound : schema.insertStatement (.map entries) = _ :=
    insertStatement_ok each (List.ne_nil_of_mem keyed)
  have whole : (schema.insert database (.map entries) : Action σ _) =
      database.run (insertText schema.name.toText (columns.map Prod.fst))
        (.map (columns.map fun column => (.text column.1, column.2))) := by
    rw [Schema.insert, bound]
    rfl
  rw [whole]
  refine run_safe laws opened unique fun cursor later _ _ valid => ?_
  by_cases present : ∃ row ∈ view.rows later, row.2 = view.keyOf content
  · obtain ⟨cause, next, answer, violates, same⟩ :=
      laws.refuses cursor columns content later writes present
    refine ⟨_, next, answer, valid.of_rows same, .of_eq same, ?_⟩
    exact violates.taken (same.symm ▸ present) ..
  · have absent : ∀ row ∈ view.rows later, row.2 ≠ view.keyOf content :=
      fun row member same => present ⟨row, member, same⟩
    obtain ⟨number, changes, next, answer, fresh, rows⟩ :=
      laws.inserts cursor columns content later writes absent
    refine ⟨_, next, answer, valid.append fresh absent rows, ?_, number, rfl, ?_⟩
    · rw [TableView.Grows, rows]
      exact List.subset_append_left ..
    · rw [rows]
      exact List.mem_append_right _ List.mem_cons_self

include laws opened unique table in
/-- A client that found no row inserts one. -/
theorem writeOver_none_safe (row : schema.KeyedRow id key entries)
    (keyed : (.text key, value) ∈ entries) (kept : value.stored = .ok content) (filter : Value) :
    (schema.writeOver database filter (.map entries) none : Action σ _).Safe engine
      (upsertProtocol view connections apart) index (view.Tried id (view.keyOf content)) 3 start := by
  refine (insert_safe laws opened unique row keyed kept).bind unique
    (fun inserted later _ holds => ?_) fun _ _ taken => taken
  obtain ⟨lastInsertId, changes⟩ := inserted
  obtain ⟨number, rfl, present⟩ := holds
  obtain ⟨result, done, numbered⟩ := withNewKey_ok table row number changes
  have whole : (liftM (schema.withNewKey (.map entries) ⟨some number, changes⟩) : Action σ Value) =
      resume (.ok result) := congrArg resume done
  rw [whole]
  exact Safe.resume ⟨number, present, numbered⟩

include laws opened unique table in
/-- A client that found a row updates it. -/
theorem writeOver_some_safe (row : schema.KeyedRow id key entries)
    (keyed : (.text key, value) ∈ entries) (kept : value.stored = .ok content) (filter : Value)
    {found : Row} {before : τ} (finds : view.Finds id (view.keyOf content) before start (some found)) :
    (schema.writeOver database filter (.map entries) (some found) : Action σ _).Safe engine
      (upsertProtocol view connections apart) index
      (Returns (view.Returned id (view.keyOf content))) 3 start := by
  obtain ⟨number, present, numbered⟩ := finds
  obtain ⟨result, done, same⟩ := mergedOver_ok row numbered
  have columnValue : (Value.map found).columnValue (.text id) = .ok (.int number) := by
    rw [Value.columnValue, numbered]
    rfl
  have merged : (liftM ((Value.map entries).mergedOver found) : Action σ Value) =
      resume (.ok result) := congrArg resume done
  have whole : (schema.writeOver database filter (.map entries) (some found) : Action σ Value) =
      (schema.updateWhere database (.map [(.text id, .int number)]) (.map entries) >>= fun _ =>
        resume (.ok result)) := by
    simp only [writeOver, table.primary, columnValue, merged]
    rfl
  rw [whole]
  refine (updateWhere_safe laws opened unique table row keyed kept present).follow unique
    fun _ later _ stays => ?_
  exact Safe.resume ⟨number, stays, same⟩

include laws opened unique table in
theorem tryUpsert_safe (row : schema.KeyedRow id key entries) (keyed : (.text key, value) ∈ entries)
    (kept : value.stored = .ok content) (operand : value.isOperand = true) :
    (schema.tryUpsert database (.map [(.text key, value)]) (.map entries) : Action σ _).Safe engine
      (upsertProtocol view connections apart) index (view.Tried id (view.keyOf content)) 7 start := by
  refine (storedRow_safe laws opened unique table operand kept).follow unique
    fun found later valid finds => ?_
  cases found with
  | none => exact writeOver_none_safe laws opened valid table row keyed kept _
  | some found =>
      refine (writeOver_some_safe laws opened valid table row keyed kept _ finds).imp ?_
      intro outcome last holds
      cases outcome with
      | ok result => exact holds
      | error failure => exact holds.elim

include laws opened unique table in
/-- A call does not fail. Where the key was taken at the insertion, its row is found by the retry. -/
theorem upsert_safe (row : schema.KeyedRow id key entries) (keyed : (.text key, value) ∈ entries)
    (kept : value.stored = .ok content) (operand : value.isOperand = true) :
    (schema.upsert database (.map entries) : Action σ _).Safe engine
      (upsertProtocol view connections apart) index
      (Returns (view.Returned id (view.keyOf content))) 15 start := by
  have tried : (attempt (schema.tryUpsert database (.map [(.text key, value)]) (.map entries)) :
      Action σ _).Safe engine (upsertProtocol view connections apart) index
      (Returns (view.Tried id (view.keyOf content))) 7 start :=
    (tryUpsert_safe laws opened unique table row keyed kept operand).attempt unique
      fun _ _ holds => holds
  rw [upsert, lookup_ok table row keyed]
  refine (tried.follow unique fun outcome second valid holds => ?_ : Action.Safe ..)
  cases outcome with
  | ok result =>
      have returned : (resume (.ok result) : Action σ Value).Safe engine
          (upsertProtocol view connections apart) index
          (Returns (view.Returned id (view.keyOf content))) 0 second := Safe.resume holds
      exact returned.more (Nat.zero_le 8)
  | error failure =>
      simp only [holds.engine, holds.violation, Bool.and_self, if_true]
      have logged : (log .warning rowLogger ("Row " ++ (Value.map [(.text key, value)]).literal ++
          " inserted concurrently into " ++ schema.name.toText ++ ", updating instead") :
          Action σ Unit).Safe engine (upsertProtocol view connections apart) index
          (Returns fun _ later => ∃ row ∈ view.rows later, row.2 = view.keyOf content) 1 second := by
        refine quiet_safe laws rfl (.inl rfl) fun later _ _ grows => ?_
        obtain ⟨row, member, same⟩ := holds.present
        exact ⟨row, grows member, same⟩
      refine logged.follow valid fun _ third valid present => ?_
      refine (storedRow_safe laws opened valid table operand kept).follow valid
        fun found fourth valid finds => ?_
      -- The row that was there at the insertion is not gone at the second lookup.
      cases found with
      | none =>
          obtain ⟨row, member, same⟩ := present
          exact absurd same (finds row member)
      | some found => exact writeOver_some_safe laws opened valid table row keyed kept _ finds

end Statements

end Clients

end Schema

end Tabular
