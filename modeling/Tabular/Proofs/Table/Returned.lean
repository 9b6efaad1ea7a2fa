import Tabular.Proofs.Table.Storing

/-!
This module compares the row that an upsert returns with the row that is stored. What is returned is put
together from the values of the caller, and only the statements bind their stored forms.
-/

namespace Tabular

open Tabular.Action

variable {σ τ : Type}

namespace Keyed

variable {shown stored : Row}

/-! ## Mappings that stand for stored rows -/

/-- A stored row has exactly these values in these columns. -/
def Shows (shown stored : Row) : Prop :=
  ∀ (name : String) value, shown.get? (.text name) = some value → stored.get? (.text name) = some value

/-- A stored row has the stored forms of these values in these columns. -/
def StandsFor (shown stored : Row) : Prop :=
  ∀ (name : String) value, shown.get? (.text name) = some value →
    ∃ form, value.stored = .ok form ∧ stored.get? (.text name) = some form

/-- A value is shown exactly if it is its own stored form. -/
theorem shows_iff (sqlite : IsSqlite stored) :
    Shows shown stored ↔ StandsFor shown stored ∧
      ∀ (name : String) value, shown.get? (.text name) = some value → value.isSqlite = true := by
  constructor
  · intro shows
    have valid (name : String) value (has : shown.get? (.text name) = some value) :=
      sqlite.get? (shows name value has)
    refine ⟨fun name value has => ?_, valid⟩
    exact ⟨value, Value.stored_isSqlite (valid name value has), shows name value has⟩
  · rintro ⟨stands, valid⟩ name value has
    obtain ⟨form, kept, holds⟩ := stands name value has
    have own := Value.stored_isSqlite (valid name value has)
    rw [holds, Except.ok.inj (kept.symm.trans own)]

end Keyed

namespace Schema

variable {schema : Schema} {engine : Engine τ} {store : RowStore τ} {database : Database} {entries : Row}
  {start final : τ}

/-! ## What the returned mapping stands for -/

/-- The flagged primary key is a declared column. -/
theorem keyColumn?_declared {key : Value} (keyed : schema.keyColumn? = some key) :
    key ∈ schema.columns.keys := by
  obtain ⟨entry, member, rfl⟩ := List.mem_map.mp (List.mem_of_mem_head? keyed)
  exact List.mem_map_of_mem (List.mem_filter.mp member).1

/-- A row has no value for the key that it is said to miss. -/
theorem missingKey?_absent {key : String} (missing : schema.missingKey? entries = some (.text key)) :
    entries.has (.text key) = false := by
  obtain ⟨-, lacks⟩ := Option.filter_eq_some_iff.mp missing
  rw [Bool.and_eq_true, Bool.not_eq_true'] at lacks
  exact lacks.2

/-- A new row is returned with its own values, and with its number where it lacks the primary key. -/
theorem get?_withNumber {made : RunResult} {name : String} {value : Value} :
    (schema.withNumber entries made).get? (.text name) = some value ↔
      entries.get? (.text name) = some value ∨
        schema.missingKey? entries = some (.text name) ∧ value = made.number := by
  rw [withNumber, Keyed.get?_append]
  cases missing : schema.missingKey? entries with
  | none =>
      rw [Option.toList_none, List.map_nil, show Keyed.get? [] (.text name) = none from rfl, Option.or_none]
      simp
  | some key =>
      rw [Option.toList_some, List.map_singleton, Keyed.get?_cons]
      by_cases same : (Value.text name).same key = true
      · obtain rfl := (Value.same_text_iff _ _).mp same
        rw [Keyed.get?_eq_none.mpr (missingKey?_absent missing), if_pos same, Option.none_or]
        simp [eq_comm]
      · have other : key ≠ .text name := fun isName => same ((Value.same_text_iff _ _).mpr isName)
        rw [if_neg same, show Keyed.get? [] (.text name) = none from rfl, Option.or_none]
        simp [other]

/-- The number of a new row is what is stored as the primary key that it lacks. -/
def NumbersKey (schema : Schema) (store : RowStore τ) (entries : Row) (before : τ) (made : RunResult) :
    Prop :=
  ∀ key : String, schema.missingKey? entries = some (.text key) →
    schema.rowNumber? = some (.text key) ∨ store.unnamed before (.text key) = made.number

section Standing

variable {columns : List (String × Value)} (each : List.Forall₂ Query.Keeps entries columns) {before : τ}

include each

/-- The stored form of a row has the columns of the row. -/
theorem ofColumns_keys : (Keyed.ofColumns columns).keys = entries.keys := by
  rw [Query.keeps_keys each, Keyed.keys, Keyed.ofColumns, List.map_map, List.map_map]
  rfl

/-- A column that a row lacks is missing in its stored form. -/
theorem ofColumns_lacks {name : String} (absent : entries.has (.text name) = false) :
    (Keyed.ofColumns columns).has (.text name) = false := by
  rw [← Bool.not_eq_true, Keyed.has_text_iff, ofColumns_keys each, ← Keyed.has_text_iff, absent]
  exact Bool.false_ne_true

/-- The missing primary key of a new row is its number, or it is what the engine has for it. -/
theorem inserted_missing {made : RunResult} {stored : Row}
    (inserted : schema.Inserted store columns made before stored) {key : String}
    (missing : schema.missingKey? entries = some (.text key)) :
    stored.get? (.text key) = some made.number ↔
      schema.rowNumber? = some (.text key) ∨ store.unnamed before (.text key) = made.number := by
  obtain ⟨keyed, -⟩ := Option.filter_eq_some_iff.mp missing
  have lacks := ofColumns_lacks each (missingKey?_absent missing)
  by_cases isNumber : schema.rowNumber? = some (.text key)
  · exact iff_of_true (inserted.numbered _ isNumber lacks) (.inl isNumber)
  · rw [inserted.unnamed _ (keyColumn?_declared keyed) isNumber lacks, Option.some_inj]
    exact (or_iff_right isNumber).symm

/-- A new row stands for what is stored unless the primary key is missing and is no number of the row. -/
theorem inserted_standsFor {made : RunResult} {stored : Row}
    (inserted : schema.Inserted store columns made before stored) :
    Keyed.StandsFor (schema.withNumber entries made) stored ↔
      schema.NumbersKey store entries before made := by
  have number : made.number.stored = .ok made.number := Value.stored_isSqlite made.number_isSqlite
  constructor
  · intro stands key missing
    obtain ⟨form, kept, holds⟩ := stands key made.number (get?_withNumber.mpr (.inr ⟨missing, rfl⟩))
    obtain rfl := Except.ok.inj (number.symm.trans kept)
    exact (inserted_missing each inserted missing).mp holds
  · intro numbers name value has
    rcases get?_withNumber.mp has with given | ⟨missing, rfl⟩
    · rcases Keyed.get?_ofColumns each name with ⟨absent, -⟩ | ⟨other, form, present, kept, -, member⟩
      · exact absurd (absent.symm.trans given) (Option.some_ne_none value).symm
      · obtain rfl := Option.some.inj (present.symm.trans given)
        exact ⟨form, kept, inserted.named _ member⟩
    · exact ⟨_, number, (inserted_missing each inserted missing).mpr (numbers name missing)⟩

variable (row : schema.Writable entries) {old : Row}

include row

/-- After an update a column has the new value, or its old one where none was given. -/
theorem get?_updated (name : String) :
    (Keyed.merge old (Keyed.ofColumns columns)).get? (.text name) =
      ((Keyed.ofColumns columns).get? (.text name)).or (old.get? (.text name)) := by
  have keys := ofColumns_keys each
  exact Keyed.get?_merge (keys ▸ row.texts) (keys ▸ row.once) name

/-- A row that is updated with new values stands for what is stored then. -/
theorem updated_standsFor (sqlite : Keyed.IsSqlite old) :
    Keyed.StandsFor (Keyed.merge old entries) (Keyed.merge old (Keyed.ofColumns columns)) := by
  intro name value has
  rw [Keyed.get?_merge row.texts row.once] at has
  rw [get?_updated each row]
  rcases Keyed.get?_ofColumns each name with ⟨absent, unbound⟩ | ⟨given, form, present, kept, bound, -⟩
  · rw [absent, Option.none_or] at has
    rw [unbound, Option.none_or]
    exact ⟨value, Value.stored_isSqlite (sqlite.get? has), has⟩
  · rw [present, Option.some_or] at has
    obtain rfl := Option.some.inj has
    exact ⟨form, kept, by rw [bound, Option.some_or]⟩

/-- The row that is returned has all columns of the row that is stored. -/
theorem updated_has {name : String}
    (has : (Keyed.merge old (Keyed.ofColumns columns)).has (.text name) = true) :
    (Keyed.merge old entries).has (.text name) = true := by
  rw [Keyed.has_iff, ← Option.isSome_iff_exists] at has ⊢
  rw [get?_updated each row] at has
  rw [Keyed.get?_merge row.texts row.once]
  rcases Keyed.get?_ofColumns each name with ⟨absent, unbound⟩ | ⟨given, form, present, -⟩
  · rw [absent]
    rwa [unbound] at has
  · rw [present, Option.some_or]
    rfl

end Standing

/-- New values that were not stored stand for the old ones only if those were the same. -/
theorem missed_standsFor (row : schema.Writable entries) {old : Row} (sqlite : Keyed.IsSqlite old) :
    Keyed.StandsFor (Keyed.merge old entries) old ↔ Keyed.StandsFor entries old := by
  constructor
  · intro stands name value has
    refine stands name value ?_
    rw [Keyed.get?_merge row.texts row.once, has, Option.some_or]
  · intro stands name value has
    rw [Keyed.get?_merge row.texts row.once, Option.or_eq_some_iff] at has
    rcases has with present | ⟨-, kept⟩
    · exact stands name value present
    · exact ⟨value, Value.stored_isSqlite (sqlite.get? kept), kept⟩

/-- A column of the stored row is a column of the merged one. -/
theorem missed_has (row : schema.Writable entries) {old : Row} {name : String}
    (has : old.has (.text name) = true) : (Keyed.merge old entries).has (.text name) = true := by
  rw [Keyed.has_iff, ← Option.isSome_iff_exists] at has ⊢
  rw [Keyed.get?_merge row.texts row.once, Option.isSome_or, has, Bool.or_true]

/-- What an upsert returns shows the stored row if it stands for it and all values of the row are their own
stored forms. -/
theorem Stores.shows_iff (laws : schema.Storing engine store) (row : schema.Writable entries)
    {shown stored : Row} {before : τ} {made : RunResult}
    (stores : schema.Stores store entries before made final shown stored) :
    stored ∈ store.rows final ∧
      (Keyed.Shows shown stored ↔ Keyed.StandsFor shown stored ∧ Keyed.IsSqlite entries) := by
  have member : stored ∈ store.rows final := by
    cases stores with
    | inserted each rows inserted =>
        rw [rows]
        exact List.mem_append_right _ List.mem_cons_self
    | updated each member rows met =>
        rw [rows]
        exact List.mem_map_of_mem member
  -- A value that is returned is one of the row, or it comes from the engine.
  have parts : (∀ (name : String) value, entries.get? (.text name) = some value →
        shown.get? (.text name) = some value) ∧
      ∀ (name : String) value, shown.get? (.text name) = some value →
        entries.get? (.text name) = some value ∨ value.isSqlite = true := by
    cases stores with
    | inserted each rows inserted =>
        refine ⟨fun name value has => get?_withNumber.mpr (.inl has), fun name value has => ?_⟩
        rcases get?_withNumber.mp has with given | ⟨-, rfl⟩
        · exact .inl given
        · exact .inr made.number_isSqlite
    | updated each inside rows met =>
        refine ⟨fun name value has => ?_, fun name value has => ?_⟩
        · rw [Keyed.get?_merge row.texts row.once, has, Option.some_or]
        · rw [Keyed.get?_merge row.texts row.once, Option.or_eq_some_iff] at has
          exact has.imp id fun both => (laws.sqlite _ _ inside).get? both.2
  refine ⟨member, ?_⟩
  rw [Keyed.shows_iff (laws.sqlite _ _ member)]
  refine and_congr_right fun _ => ⟨fun valid entry inside => ?_, fun sqlite name value has => ?_⟩
  · obtain ⟨name, same⟩ := row.texts _ (List.mem_map_of_mem (f := Prod.fst) inside)
    obtain ⟨key, value⟩ := entry
    obtain rfl : key = .text name := same
    exact valid name value (parts.1 name value (Keyed.get?_of_mem row.once inside))
  · exact (parts.2 name value has).elim sqlite.get? id

/-- A mapping that an upsert returns has exactly the values of the stored row if it stands for it and no
value of the row is a truth value, a date or a moment. A new row is returned as it is stored unless it lacks
a primary key that is not its number. An old row is returned as it is stored, with all its columns, unless
its primary key is null, and then nothing is stored. -/
theorem upsert_shows_iff (laws : schema.Storing engine store)
    (texts : ∀ name ∈ entries.keys, ∃ content, name = Value.text content) (once : entries.keys.Nodup)
    {state : σ} {run : Run σ τ Value}
    (runs : (schema.upsert database (.map entries)).runOn engine state start = run) {result : Value}
    (ended : run.outcome = .ok result) :
    ∃ filter shown stored before made, schema.lookup (.map entries) = .ok filter ∧ result = .map shown ∧
      stored ∈ store.rows run.final ∧ engine.Executes before made run.final ∧
      (store.rows before = store.rows start ∨ ∃ failure, failure.violates = true ∧
        ((schema.tryUpsert database filter (.map entries)).runOn engine state start).outcome =
          .error failure) ∧
      (Keyed.Shows shown stored ↔ Keyed.StandsFor shown stored ∧ Keyed.IsSqlite entries) ∧
      ((schema.withNewKey (.map entries) made = .ok (.map shown) ∧
          store.rows run.final = store.rows before ++ [stored] ∧
          (Keyed.StandsFor shown stored ↔ schema.NumbersKey store entries before made)) ∨
        ∃ old name content columns, old ∈ store.rows before ∧ List.Forall₂ Query.Keeps entries columns ∧
          shown = Keyed.merge old entries ∧ stored = store.set name content columns old ∧
          store.rows run.final = (store.rows before).map (store.set name content columns) ∧
          (∀ name, Keyed.has stored (.text name) = true → Keyed.has shown (.text name) = true) ∧
          (¬ schema.HasNullKey old → Keyed.StandsFor shown stored) ∧
          (schema.HasNullKey old →
            stored = old ∧ (Keyed.StandsFor shown stored ↔ Keyed.StandsFor entries old))) := by
  cases looked : schema.lookup (.map entries) with
  | error failure =>
      rw [upsert, looked] at runs
      subst runs
      cases ended
  | ok filter =>
      have filled : entries ≠ [] := by
        rintro rfl
        obtain ⟨_, _, _, isMap, -, has⟩ := lookup_eq_ok looked
        obtain rfl := Value.map.inj isMap
        cases has
      have row : schema.Writable entries := ⟨texts, once, admits_of_lookup texts looked, filled⟩
      obtain ⟨shown, stored, before, made, returned, same, executes, stores⟩ :=
        upsert_stores laws row looked runs ended
      obtain ⟨member, shows⟩ := stores.shows_iff laws row
      refine ⟨filter, shown, stored, before, made, rfl, returned, member, executes, same, shows, ?_⟩
      cases stores with
      | inserted each rows inserted =>
          exact .inl ⟨withNewKey_eq made, rows, inserted_standsFor each inserted⟩
      | @updated old name content columns each inside rows met =>
          have sqlite := laws.sqlite _ _ inside
          refine .inr ⟨old, name, content, columns, inside, each, rfl, rfl, rows, ?_⟩
          -- An update by a null key reaches no row, so that the stored row stays as it was.
          by_cases null : schema.HasNullKey old
          · have missed : store.set name content columns old = old :=
              if_neg fun matching => met.mp matching null
            rw [missed]
            exact ⟨fun _ => missed_has row, fun keyed => absurd null keyed,
              fun _ => ⟨rfl, missed_standsFor row sqlite⟩⟩
          · have matched : store.set name content columns old =
                Keyed.merge old (Keyed.ofColumns columns) := if_pos (met.mpr null)
            rw [matched]
            exact ⟨fun _ => updated_has each row, fun _ => updated_standsFor each row sqlite,
              fun keyless => absurd keyless null⟩

/-! ## Visitors -/

def visitors : Schema where
  name := .text "visitors"
  columns := [(.text "id", { storage := .integer, primaryKey := true }),
    (.text "email", { storage := .text, unique := true }), (.text "joined", { storage := .integer })]

/-- The names of the columns of visitors. -/
def visitorColumns : List String := ["id", "email", "joined"]

/-- The declared columns of visitors are these. -/
theorem mem_visitorColumns {name : String} (declared : visitors.columns.has (.text name) = true) :
    name ∈ visitorColumns := by
  have member := Keyed.has_text_iff.mp declared
  simpa [visitors, visitorColumns, Keyed.keys] using member

end Schema

/-- A visitor who is stored, and when he joined, if that is known. -/
structure Visitor where
  number : Int
  email : String
  joined : Option Int
  deriving DecidableEq

/-- The visitors who are stored, and the rows that were found last. -/
structure Visitors where
  stored : List Visitor
  found : List Row

namespace Visitor

def time (joined : Option Int) : Value := (joined.map .int).getD .null

def time? : Value → Option (Option Int)
  | .null => some none
  | .int joined => some (some joined)
  | _ => none

def row (visitor : Visitor) : Row :=
  [(.text "id", .int visitor.number), (.text "email", .text visitor.email),
    (.text "joined", time visitor.joined)]

/-- The visitor whom an insertion adds. -/
def ofRow? (number : Int) (columns : Row) : Option Visitor :=
  match columns.get? (.text "id"), columns.get? (.text "email"),
    time? ((columns.get? (.text "joined")).getD .null) with
  | none, some (.text email), some joined => some ⟨number, email, joined⟩
  | _, _, _ => none

/-- A value that is read as a time is that time. -/
theorem time?_eq_some {value : Value} {joined : Option Int} (read : time? value = some joined) :
    value = time joined := by
  cases value with
  | null | int =>
      obtain rfl := Option.some.inj read
      rfl
  | _ => cases read

/-- The row of a visitor holds values that come from tables. -/
theorem row_isSqlite (visitor : Visitor) : Keyed.IsSqlite visitor.row := by
  obtain ⟨number, email, joined⟩ := visitor
  intro entry member
  simp only [row, List.mem_cons, List.not_mem_nil, or_false] at member
  rcases member with rfl | rfl | rfl
  · rfl
  · rfl
  · cases joined <;> rfl

/-- The row of a visitor has a number, an address and a time. -/
theorem get?_row (visitor : Visitor) :
    visitor.row.get? (.text "id") = some (.int visitor.number) ∧
      visitor.row.get? (.text "email") = some (.text visitor.email) ∧
      visitor.row.get? (.text "joined") = some (time visitor.joined) := by
  simp [row, Keyed.get?_cons]

/-- A row that adds a visitor has its address and time, and no number of its own. -/
theorem ofRow?_eq_some {number : Int} {columns : Row} {visitor : Visitor}
    (added : ofRow? number columns = some visitor) :
    columns.get? (.text "id") = none ∧ visitor.number = number ∧
      columns.get? (.text "email") = some (.text visitor.email) ∧
      (columns.get? (.text "joined")).getD .null = time visitor.joined := by
  rw [ofRow?] at added
  split at added
  · next unnumbered email read =>
      obtain rfl := Option.some.inj added
      exact ⟨unnumbered, rfl, email, time?_eq_some read⟩
  · cases added

end Visitor

namespace Visitors

open Visitor

/-- Visitors as their rows. A column that is not named is null. -/
def store : RowStore Visitors where
  rows visitors := visitors.stored.map row
  held visitors _ := visitors.found
  equal first second := decide (first = second) && !first.isNull
  unnamed _ _ := .null

def refused : Except Outside RunResult := .error ⟨.operational, "unknown statement"⟩

def nextNumber (visitors : Visitors) : Int := (visitors.stored.map number).foldr max 0 + 1

def select (content : Value) (visitors : Visitors) : Except Outside RunResult × Visitors :=
  (.ok ⟨none, -1⟩,
    { visitors with found := (store.rows visitors).filter (store.matching "email" content) })

def insert (columns : Row) (visitors : Visitors) : Except Outside RunResult × Visitors :=
  match ofRow? visitors.nextNumber columns with
  | some visitor => (.ok ⟨some visitors.nextNumber, 1⟩,
      { visitors with stored := visitors.stored ++ [visitor] })
  | none => (refused, visitors)

/-- The visitor with a number gets another address and another time. -/
def update (parameters : List Value) (visitors : Visitors) : Except Outside RunResult × Visitors :=
  match parameters with
  | [.int number, .text email, joined] =>
      match time? joined with
      | some joined => (.ok ⟨none, 1⟩,
          { visitors with stored := visitors.stored.map fun visitor =>
              if visitor.number = number then ⟨number, email, joined⟩ else visitor })
      | none => (refused, visitors)
  | _ => (refused, visitors)

/-- Visitors are found by their addresses, new ones are added, and old ones get addresses and times. -/
def execute (sql : String) (parameters : Row) (visitors : Visitors) :
    Except Outside RunResult × Visitors :=
  if sql.toList.head? = some 'I' then visitors.insert parameters
  else if sql = Query.selectText "visitors" "email" then
    visitors.select ((parameters.get? (.text "p1")).getD .null)
  else if sql = Query.updateText "visitors" "id" ["email", "joined"] then
    visitors.update (parameters.map Prod.snd)
  else (refused, visitors)

def engine : Engine Visitors where
  answer
    | .execute _ sql (.map parameters), visitors => visitors.execute sql parameters
    | .execute _ _ _, visitors => (refused, visitors)
    | .fetchOne _, visitors => (.ok visitors.found.head?, { visitors with found := visitors.found.tail })
    | request, visitors => (((Latch.engine fun _ => false).answer request true).1, visitors)

variable {visitors next : Visitors} {result : RunResult}

/-- A lookup that the engine accepts asks for an address. -/
theorem execute_select (column : String) (content : Value) (visitors : Visitors)
    (executed : visitors.execute (Query.selectText "visitors" column) [(.text "p1", content)] =
      (.ok result, next)) :
    column = "email" ∧ next = (visitors.select content).2 := by
  have starts : (Query.selectText "visitors" column).toList.head? = some 'S' := by
    simp [Query.selectText]
  have same : Query.selectText "visitors" column = Query.selectText "visitors" "email" ↔
      column = "email" := by
    simp only [Query.selectText, Query.conditionText, String.append_right_inj, String.append_left_inj]
  have other : Query.selectText "visitors" column ≠
      Query.updateText "visitors" "id" ["email", "joined"] := by
    intro same
    rw [same] at starts
    cases starts
  have bound : Keyed.get? [(Value.text "p1", content)] (.text "p1") = some content :=
    Keyed.get?_of_mem (List.nodup_singleton _) List.mem_cons_self
  rw [execute, if_neg (by rw [starts]; decide), if_neg other, bound] at executed
  split at executed
  · next isEmail => exact ⟨same.mp isEmail, (Prod.mk.inj executed).2.symm⟩
  · cases executed

/-- The engine knows every insertion. -/
theorem execute_insert (columns : List String) (parameters : Row) (visitors : Visitors) :
    visitors.execute (Schema.insertText "visitors" columns) parameters = visitors.insert parameters := by
  have starts : (Schema.insertText "visitors" columns).toList.head? = some 'I' := by
    simp [Schema.insertText]
  rw [execute, if_pos starts]

/-- An accepted insertion adds the visitor of its columns under the next number. -/
theorem insert_eq_ok {columns : Row} (inserted : visitors.insert columns = (.ok result, next)) :
    ∃ visitor, ofRow? visitors.nextNumber columns = some visitor ∧
      result = ⟨some visitors.nextNumber, 1⟩ ∧ next.stored = visitors.stored ++ [visitor] := by
  rw [insert] at inserted
  split at inserted
  · next visitor added =>
      obtain ⟨same, rfl⟩ := Prod.mk.inj inserted
      exact ⟨visitor, added, (Except.ok.inj same).symm, rfl⟩
  · cases inserted

/-- An accepted update sets the address and the time of one number. -/
theorem update_eq_ok {values : List Value} (updated : visitors.update values = (.ok result, next)) :
    ∃ number email joined, values = [.int number, .text email, time joined] ∧
      next.stored = visitors.stored.map fun visitor =>
        if visitor.number = number then ⟨number, email, joined⟩ else visitor := by
  unfold update at updated
  split at updated
  · next number email value =>
      split at updated
      · next joined read =>
          obtain ⟨-, rfl⟩ := Prod.mk.inj updated
          exact ⟨number, email, joined, by rw [time?_eq_some read], rfl⟩
      · cases updated
  · cases updated

/-- The only update that the engine knows sets the address and the time. -/
theorem updateText_names : ∀ first ∈ Schema.visitorColumns, ∀ second ∈ Schema.visitorColumns,
    Query.updateText "visitors" "id" [first, second] =
      Query.updateText "visitors" "id" ["email", "joined"] → first = "email" ∧ second = "joined" := by
  decide +kernel

/-- The visitors know one form of an update, in which the address comes before the time. -/
theorem execute_update {column : String} (named : isColumnName column = true) {content : Value}
    {columns : List (String × Value)} (settable : Schema.visitors.Settable columns)
    (executed : visitors.execute (Query.updateText "visitors" column (columns.map Prod.fst))
      (Binder.named 1 (content :: columns.map Prod.snd)) = (.ok result, next)) :
    ∃ number email joined, column = "id" ∧ content = .int number ∧
      columns = [("email", .text email), ("joined", time joined)] ∧
      next.stored = visitors.stored.map fun visitor =>
        if visitor.number = number then ⟨number, email, joined⟩ else visitor := by
  have starts : (Query.updateText "visitors" column (columns.map Prod.fst)).toList.head? = some 'U' := by
    simp [Query.updateText]
  have other : Query.updateText "visitors" column (columns.map Prod.fst) ≠
      Query.selectText "visitors" "email" := by
    intro same
    rw [same] at starts
    cases starts
  rw [execute, if_neg (by rw [starts]; decide), if_neg other, Binder.named_values] at executed
  split at executed
  · next same =>
      obtain rfl := Query.conditionText_unique named (by decide) same
      obtain ⟨number, email, joined, shape, stored⟩ := update_eq_ok executed
      obtain ⟨rfl, values⟩ := List.cons.inj shape
      obtain ⟨⟨first, _⟩, others, rfl, rfl, rest⟩ := List.map_eq_cons_iff.mp values
      obtain ⟨⟨second, _⟩, none, rfl, rfl, empty⟩ := List.map_eq_cons_iff.mp rest
      obtain rfl := List.map_eq_nil_iff.mp empty
      obtain ⟨isFirst, declared⟩ := List.forall_mem_cons.mp settable.declared
      have isSecond := (List.forall_mem_cons.mp declared).1
      obtain ⟨rfl, rfl⟩ := updateText_names first (Schema.mem_visitorColumns isFirst) second
        (Schema.mem_visitorColumns isSecond) same
      exact ⟨number, email, joined, rfl, rfl, rfl, stored⟩
  · cases executed

/-- A visitor who is inserted has what is bound to the columns, and the number of the row. -/
theorem ofRow?_inserted {columns : List (String × Value)} (settable : Schema.visitors.Settable columns)
    {number : Int} {visitor : Visitor} (added : ofRow? number (Keyed.ofColumns columns) = some visitor) :
    Schema.visitors.Inserted store columns ⟨some number, 1⟩ visitors visitor.row := by
  obtain ⟨unnumbered, rfl, email, joined⟩ := ofRow?_eq_some added
  obtain ⟨idRow, emailRow, joinedRow⟩ := visitor.get?_row
  have isKey : Schema.visitors.rowNumber? = some (.text "id") := by decide +kernel
  constructor
  · rintro ⟨name, value⟩ inside
    have bound := Keyed.get?_ofColumns_mem settable.once inside
    have known := Schema.mem_visitorColumns (settable.declared _ inside)
    simp only [Schema.visitorColumns, List.mem_cons, List.not_mem_nil, or_false] at known
    rcases known with rfl | rfl | rfl
    · rw [unnumbered] at bound
      cases bound
    · rw [emailRow, ← email, bound]
    · rw [joinedRow, ← joined, bound, Option.getD_some]
  · intro key isNumber _
    obtain rfl := Option.some.inj (isKey.symm.trans isNumber)
    exact idRow
  · intro key declared other absent
    simp only [Schema.visitors, Keyed.keys, List.map_cons, List.map_nil, List.mem_cons, List.not_mem_nil,
      or_false] at declared
    rcases declared with rfl | rfl | rfl
    · exact absurd isKey other
    · rw [Keyed.get?_eq_none.mpr absent] at email
      cases email
    · rw [joinedRow, ← joined, Keyed.get?_eq_none.mpr absent]
      rfl

/-- Setting the columns of a row is setting them in the visitor. -/
theorem set_row (number : Int) (email : String) (joined : Option Int) (visitor : Visitor) :
    store.set "id" (.int number) [("email", .text email), ("joined", time joined)] visitor.row =
      (if visitor.number = number then ⟨number, email, joined⟩ else visitor : Visitor).row := by
  have matching : store.matching "id" (.int number) visitor.row = decide (visitor.number = number) := by
    rw [RowStore.matching, visitor.get?_row.1, Option.any_some, store]
    simp [Value.isNull]
  rw [RowStore.set, matching]
  by_cases same : visitor.number = number
  · simp [same, row, Keyed.ofColumns, Keyed.merge, Keyed.put]
  · simp [same]

/-- The engine stores visitors as a table does. -/
theorem storing : Schema.visitors.Storing engine store where
  sqlite visitors row member := by
    obtain ⟨visitor, -, rfl⟩ := List.mem_map.mp member
    exact visitor.row_isSqlite
  equal visitors row _ entry _ := by
    rw [store]
    simp
  quiet request visitors quiet := by
    cases request <;> first | rfl | cases quiet
  fetches cursor visitors found fetched := (Except.ok.inj fetched).symm
  selects cursor column content visitors result next _ executed := by
    obtain ⟨rfl, rfl⟩ := execute_select column content visitors executed
    exact ⟨rfl, rfl⟩
  inserts cursor columns visitors made next settable executed := by
    have inserted := (execute_insert _ _ visitors).symm.trans executed
    obtain ⟨visitor, added, rfl, stored⟩ := insert_eq_ok inserted
    refine ⟨visitor.row, ?_, ofRow?_inserted settable added⟩
    change next.stored.map row = visitors.stored.map row ++ [visitor.row]
    rw [stored, List.map_append, List.map_singleton]
  updates cursor column content columns visitors result next named settable executed := by
    obtain ⟨number, email, joined, rfl, rfl, rfl, stored⟩ := execute_update named settable executed
    change next.stored.map row = (visitors.stored.map row).map _
    rw [stored, List.map_map, List.map_map]
    exact List.map_congr_left fun visitor _ => (set_row number email joined visitor).symm

/-- Ann, who joins on the first day of a year. -/
def ann (year : Nat) : Row := [(.text "email", .text "ann"), (.text "joined", .date ⟨year, 1, 1⟩)]

/-- Ann is inserted, or she is updated if she is there. -/
def annRun (year : Nat) (visitors : Visitors) : Run Unit Visitors Value :=
  (Schema.visitors.upsert Database.lockedDatabase (.map (ann year))).runOn engine () visitors

/-- Ann is inserted with a date, and a time is stored. -/
theorem annRun_inserts : (annRun 2020 ⟨[], []⟩).outcome = .ok (.map (ann 2020 ++ [(.text "id", .int 1)])) ∧
    (annRun 2020 ⟨[], []⟩).final.stored = [⟨1, "ann", some 1577836800000⟩] := by
  decide +kernel

/-- Ann is updated with a date, and a time is stored. -/
theorem annRun_updates : (annRun 2021 ⟨[⟨1, "ann", some 1577836800000⟩], []⟩).outcome =
      .ok (.map ((.text "id", .int 1) :: ann 2021)) ∧
    (annRun 2021 ⟨[⟨1, "ann", some 1577836800000⟩], []⟩).final.stored =
      [⟨1, "ann", some 1609459200000⟩] := by
  decide +kernel

/-- Neither the inserted nor the updated row is shown as it is stored. -/
theorem upsert_shows_iff_ann :
    (∃ shown stored, (annRun 2020 ⟨[], []⟩).outcome = .ok (.map shown) ∧
        stored ∈ store.rows (annRun 2020 ⟨[], []⟩).final ∧ ¬ Keyed.Shows shown stored) ∧
      ∃ shown stored, (annRun 2021 ⟨[⟨1, "ann", some 1577836800000⟩], []⟩).outcome = .ok (.map shown) ∧
        stored ∈ store.rows (annRun 2021 ⟨[⟨1, "ann", some 1577836800000⟩], []⟩).final ∧
        ¬ Keyed.Shows shown stored := by
  have misshown (year : Nat) (visitors : Visitors) {result : Value}
      (ended : (annRun year visitors).outcome = .ok result) :
      ∃ shown stored, (annRun year visitors).outcome = .ok (.map shown) ∧
        stored ∈ store.rows (annRun year visitors).final ∧ ¬ Keyed.Shows shown stored := by
    have texts : ∀ name ∈ Keyed.keys (ann year), ∃ content, name = Value.text content := by
      intro name member
      rcases List.mem_pair.mp member with rfl | rfl
      · exact ⟨"email", rfl⟩
      · exact ⟨"joined", rfl⟩
    have once : (Keyed.keys (ann year)).Nodup := by
      rw [show Keyed.keys (ann year) = [.text "email", .text "joined"] from rfl]
      decide +kernel
    obtain ⟨filter, shown, stored, before, made, -, rfl, member, -, -, shows, -⟩ :=
      Schema.upsert_shows_iff storing texts once (rfl : _ = annRun year visitors) ended
    refine ⟨shown, stored, ended, member, fun exact => ?_⟩
    have dated : (Value.text "joined", Value.date ⟨year, 1, 1⟩) ∈ ann year :=
      List.mem_cons_of_mem _ List.mem_cons_self
    cases (shows.mp exact).2 _ dated
  exact ⟨misshown 2020 _ annRun_inserts.1, misshown 2021 _ annRun_updates.1⟩

/-- The date is returned as it was given, and it is stored as a number, whether Ann is new or not. -/
theorem dates_misshown : Schema.visitors.Storing engine store ∧
    (∃ shown stored, (annRun 2020 ⟨[], []⟩).outcome = .ok (.map shown) ∧
      (annRun 2020 ⟨[], []⟩).final.stored = [stored] ∧
      Keyed.get? shown (.text "joined") = some (.date ⟨2020, 1, 1⟩) ∧
      stored.row.get? (.text "joined") = some (.int 1577836800000)) ∧
    ∃ shown stored, (annRun 2021 ⟨[⟨1, "ann", some 1577836800000⟩], []⟩).outcome = .ok (.map shown) ∧
      (annRun 2021 ⟨[⟨1, "ann", some 1577836800000⟩], []⟩).final.stored = [stored] ∧
      Keyed.get? shown (.text "joined") = some (.date ⟨2021, 1, 1⟩) ∧
      stored.row.get? (.text "joined") = some (.int 1609459200000) :=
  ⟨storing, ⟨_, _, annRun_inserts.1, annRun_inserts.2, by decide +kernel, by decide +kernel⟩,
    _, _, annRun_updates.1, annRun_updates.2, by decide +kernel, by decide +kernel⟩

end Visitors

end Tabular
