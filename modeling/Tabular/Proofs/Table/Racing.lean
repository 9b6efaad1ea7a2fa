import Mathlib.Data.List.Perm.Subperm
import Tabular.Proofs.Table.Upserts

/-!
This module lets clients upsert rows with the same keys at the same time. Whatever the order of their
turns is, no call fails, and each key has one row in the end.
-/

namespace Tabular

open Tabular.Action

variable {ι τ K : Type}

namespace Schema

/-! ## Every order of turns -/

/-- A call returned the row that is stored with the key of its row. -/
def Upserted (view : TableView τ K) (id key : String) (entries : Row)
    (ended : Except Failure Value × Unit) (state : τ) : Prop :=
  ∃ result value content, ended.1 = .ok result ∧ (.text key, value) ∈ entries ∧
    value.stored = .ok content ∧ view.Returned id (view.keyOf content) result state

/-- A row that was returned stays stored with its key, whatever the others do. -/
theorem upserted_stable (view : TableView τ K) (connections : ι → Connection)
    (apart : Function.Injective connections) (id key : String) (entries : Row)
    (ended : Except Failure Value × Unit) :
    (upsertProtocol view connections apart).Stable (Upserted view id key entries ended) := by
  rintro index first second moves ⟨result, value, content, done, keyed, kept, number, present, same⟩
  have grows : view.Grows first second := moves.elim And.left And.left
  exact ⟨result, value, content, done, keyed, kept, number, grows present, same⟩

/-- Clients that are about to upsert their rows one after the other. -/
def upserters (schema : Schema) (databases : ι → Database) (rows : ι → List Row) (start : τ) :
    World ι Row (Except Failure Value × Unit) τ where
  clients index := { calls := (rows index).map fun entries =>
    (entries, (schema.upsert (databases index) (.map entries) : Action Unit Value).start ()) }
  state := start

/-- Clients on connections of their own upsert rows in any order of turns. At every time no two stored
rows have the same key, and every call that has ended returned the number of the stored row with its
key. After sixteen turns for each of its rows a client has ended all of its calls, and each of its
keys has exactly one row. -/
theorem upserts_converge [DecidableEq ι] {schema : Schema} {id key : String} {engine : Engine τ}
    {view : TableView τ K} (laws : schema.Upserting id key engine view)
    (table : schema.KeyedTable id key) {connections : ι → Connection}
    (apart : Function.Injective connections) {databases : ι → Database}
    (opened : ∀ index, (databases index).connection = some (connections index))
    {rows : ι → List Row} (each : ∀ index, ∀ entries ∈ rows index, schema.KeyedRow id key entries)
    {start : τ} (unique : view.Unique start) (order : List ι) :
    let world := (schema.upserters databases rows start).run engine order
    view.Unique world.state ∧
      (∀ index, ∀ call ∈ (world.clients index).finished,
        Upserted view id key call.1 call.2 world.state) ∧
      ∀ index, (rows index).length * 16 ≤ order.count index →
        (world.clients index).finished.map Prod.fst = rows index ∧
          ∀ entries ∈ rows index, ∃ value content, (.text key, value) ∈ entries ∧
            value.stored = .ok content ∧
            ∃! row, row ∈ view.rows world.state ∧ row.2 = view.keyOf content := by
  intro world
  have stable := upserted_stable view connections apart id key
  have ready : (schema.upserters databases rows start).Good engine
      (upsertProtocol view connections apart) (Upserted view id key) 15
      fun index => (rows index).length * 16 := by
    refine ⟨unique, fun index => ?_⟩
    rw [← List.length_map (f := fun entries : Row =>
      (entries, (schema.upsert (databases index) (.map entries) : Action Unit Value).start ()))]
    refine Client.Good.start unique fun call member later valid => ?_
    obtain ⟨entries, inside, rfl⟩ := List.mem_map.mp member
    have row := each index entries inside
    obtain ⟨value, keyed, operand⟩ := row.keyed
    obtain ⟨content, kept⟩ := row.convertible _ keyed
    have safe : (schema.upsert (databases index) (.map entries) : Action Unit Value).Safe engine
        (upsertProtocol view connections apart) index
        (Returns (view.Returned id (view.keyOf content))) 15 later :=
      upsert_safe laws (opened index) valid table row keyed kept operand
    refine (safe ()).imp fun ended last holds => ?_
    obtain ⟨outcome, _⟩ := ended
    cases outcome with
    | ok result => exact ⟨result, value, content, rfl, keyed, kept, holds⟩
    | error failure => exact holds.elim
  -- What each client has finished is kept by the others, so that every order of turns ends well.
  have good := ready.run stable order
  refine ⟨good.invariant, fun index => (good.clients index).finished, fun index enough => ?_⟩
  have ended : (world.clients index).calls = [] := good.ended (Nat.sub_eq_zero_of_le enough)
  have finished : (world.clients index).finished.map Prod.fst = rows index := by
    have labels := World.run_labels engine (schema.upserters databases rows start) order index
    rw [Client.labels, ended, List.map_nil, List.append_nil] at labels
    refine labels.trans ?_
    rw [Client.labels, upserters, List.map_nil, List.nil_append, List.map_map]
    exact List.map_id _
  refine ⟨finished, fun entries inside => ?_⟩
  rw [← finished] at inside
  obtain ⟨call, member, rfl⟩ := List.mem_map.mp inside
  obtain ⟨result, value, content, -, keyed, kept, number, present, -⟩ :=
    (good.clients index).finished call member
  exact ⟨value, content, keyed, kept, (number, _), ⟨present, rfl⟩, fun row both =>
    good.invariant.only present both.1 both.2⟩

/-! ## Two clients with one address -/

/-- Contacts have a number that the engine gives, an address of their own, and a name. -/
def contacts : Schema where
  name := .text "contacts"
  columns := [(.text "id", { storage := .integer, primaryKey := true }),
    (.text "email", { storage := .text, unique := true }), (.text "name", { storage := .text })]

/-- The columns that a contact has can be written in these orders. -/
def contactForms : List (List String) := [["email"], ["email", "name"], ["name", "email"]]

/-- A contact is written in one of these orders. -/
theorem Writes.mem_contactForms {columns : List (String × Value)} {content : Value}
    (writes : contacts.Writes "id" "email" columns content) :
    columns.map Prod.fst ∈ contactForms := by
  have once := writes.once
  have keyed : "email" ∈ columns.map Prod.fst := List.mem_map_of_mem (f := Prod.fst) writes.keyed
  have known : ∀ name ∈ columns.map Prod.fst, name = "email" ∨ name = "name" := by
    intro name member
    obtain ⟨column, inside, rfl⟩ := List.mem_map.mp member
    have declared := Keyed.has_text_iff.mp (writes.declared column inside)
    have other : column.1 ≠ "id" := fun same => writes.unnumbered (same ▸ member)
    simpa [contacts, Keyed.keys, other] using declared
  generalize columns.map Prod.fst = names at once keyed known
  have inside : names ⊆ ["email", "name"] := fun name member => by simpa using known name member
  have few := (List.subperm_of_subset once inside).length_le
  rcases names with _ | ⟨first, _ | ⟨second, _ | ⟨third, others⟩⟩⟩
  · exact absurd keyed List.not_mem_nil
  · obtain rfl := List.mem_singleton.mp keyed
    decide
  · have differ : first ≠ second := by simpa using once
    rcases known first (by simp) with rfl | rfl <;> rcases known second (by simp) with rfl | rfl
    · exact absurd rfl differ
    · decide
    · decide
    · exact absurd rfl differ
  · simp only [List.length_cons, List.length_nil] at few
    omega

end Schema

/-- A statement about contacts, with the columns that it sets. -/
inductive ContactOrder where
  | select
  | insert
  | update (columns : List String)
  deriving DecidableEq

/-- The stored contacts under their numbers, and the rows that the cursors hold. -/
structure Contacts where
  rows : List (Int × (String → Value))
  held : Cursor → List Row

namespace Contacts

open Schema

/-- The statements that the engine knows. -/
def orders : List (String × ContactOrder) :=
  (Query.selectText "contacts" "email", .select) ::
    (contactForms.map fun columns => (insertText "contacts" columns, .insert)) ++
    contactForms.map fun columns => (Query.updateText "contacts" "id" columns, .update columns)

/-- The engine knows the lookup by address. -/
theorem orders_select : orders.lookup (Query.selectText "contacts" "email") = some .select := by
  decide +kernel

/-- The engine knows every insertion of a contact. -/
theorem orders_insert :
    ∀ columns ∈ contactForms, orders.lookup (insertText "contacts" columns) = some .insert := by
  decide +kernel

/-- The engine knows every update of a contact. -/
theorem orders_update : ∀ columns ∈ contactForms,
    orders.lookup (Query.updateText "contacts" "id" columns) = some (.update columns) := by
  decide +kernel

/-- The columns are set, and the others are kept. -/
def set (columns : Row) (before : String → Value) (name : String) : Value :=
  (columns.get? (.text name)).getD (before name)

def added (columns : Row) : String → Value := set columns fun _ => .null

/-- The row of a contact that is read. -/
def asRow (contact : Int × (String → Value)) : Row :=
  [(.text "id", .int contact.1), (.text "email", contact.2 "email"),
    (.text "name", contact.2 "name")]

def view : TableView Contacts Value where
  rows store := store.rows.map fun contact => (contact.1, contact.2 "email")
  held := held
  keyOf := id

/-- A cursor holds other rows. -/
def hold (store : Contacts) (cursor : Cursor) (rows : List Row) : Contacts :=
  { store with held := Function.update store.held cursor rows }

def nextNumber (store : Contacts) : Int := (store.rows.map Prod.fst).foldr max 0 + 1

def taken : Outside := ⟨.integrity, "UNIQUE constraint failed: contacts.email"⟩

def select (cursor : Cursor) (email : Value) (store : Contacts) :
    Except Outside RunResult × Contacts :=
  (.ok ⟨none, -1⟩,
    store.hold cursor ((store.rows.filter fun contact => contact.2 "email" = email).map asRow))

def insert (columns : Row) (store : Contacts) : Except Outside RunResult × Contacts :=
  if ∃ contact ∈ store.rows, contact.2 "email" = added columns "email" then (.error taken, store)
  else (.ok ⟨some store.nextNumber, 1⟩,
    { store with rows := store.rows ++ [(store.nextNumber, added columns)] })

def update (number : Int) (columns : Row) (store : Contacts) : Except Outside RunResult × Contacts :=
  if ∃ contact ∈ store.rows, contact.1 ≠ number ∧
      columns.get? (.text "email") = some (contact.2 "email") then (.error taken, store)
  else (.ok ⟨none, 1⟩, { store with rows := store.rows.map fun contact =>
    if contact.1 = number then (number, set columns contact.2) else contact })

def execute (cursor : Cursor) (sql : String) (parameters : Value) (store : Contacts) :
    Except Outside RunResult × Contacts :=
  match orders.lookup sql, parameters with
  | some .select, .map [(_, email)] => store.select cursor email
  | some .insert, .map columns => store.insert columns
  | some (.update columns), .map ((_, .int number) :: values) =>
      store.update number ((columns.map Value.text).zip (values.map Prod.snd))
  | _, _ => (.error ⟨.operational, "unknown statement"⟩, store)

def engine : Engine Contacts where
  answer
    | .connect _, store => (.ok ⟨0⟩, store)
    | .disconnect _, store => ((), store)
    | .inTransaction _, store => (false, store)
    | .script _ _, store => (.ok (), store)
    | .cursor connection, store => (⟨connection, 0⟩, store)
    | .execute cursor sql parameters, store => store.execute cursor sql parameters
    | .fetchOne cursor, store =>
        (.ok (store.held cursor).head?, store.hold cursor (store.held cursor).tail)
    | .fetchMany cursor count, store =>
        (.ok ((store.held cursor).take count.toNat),
          store.hold cursor ((store.held cursor).drop count.toNat))
    | .fetchAll cursor, store => (.ok (store.held cursor), store.hold cursor [])
    | .rows cursor, store => ((store.held cursor, none), store)
    | .advance cursor count, store => ((), store.hold cursor ((store.held cursor).drop count))
    | .remaining cursor, store => ((store.held cursor).length, store)
    | .closeCursor cursor, store => ((), store.hold cursor [])
    | .log _, store => ((), store)
    | .threshold _, store => ((), store)
    | .time, store => (.zero false, store)

/-- A cursor that gets rows leaves the other cursors alone. -/
theorem hold_other {store : Contacts} {cursor other : Cursor} (differ : other ≠ cursor)
    (rows : List Row) : (store.hold cursor rows).held other = store.held other :=
  Function.update_of_ne differ ..

/-- So does a statement. -/
theorem execute_other {cursor other : Cursor} (differ : other ≠ cursor) (sql : String)
    (parameters : Value) (store : Contacts) :
    (store.execute cursor sql parameters).2.held other = store.held other := by
  unfold execute
  split
  · exact hold_other differ _
  · unfold insert
    split <;> rfl
  · unfold update
    split <;> rfl
  · rfl

/-- The next number is above all stored ones. -/
theorem lt_nextNumber {store : Contacts} {contact : Int × (String → Value)}
    (member : contact ∈ store.rows) : contact.1 < store.nextNumber := by
  rw [nextNumber]
  generalize store.rows = rows at member
  induction rows with
  | nil => exact absurd member List.not_mem_nil
  | cons first rest inductionHypothesis =>
      rw [List.map_cons, List.foldr_cons]
      rcases List.mem_cons.mp member with rfl | member
      · omega
      · have less := inductionHypothesis member
        omega

/-- A written contact has the address that it is looked up by. -/
theorem get?_email {columns : List (String × Value)} {content : Value}
    (writes : contacts.Writes "id" "email" columns content) :
    Keyed.get? (columns.map fun column => (.text column.1, column.2)) (.text "email") =
      some content := by
  have once : (Keyed.keys (columns.map fun column => (Value.text column.1, column.2))).Nodup := by
    rw [Keyed.keys, List.map_map]
    have texts := writes.once.map (f := Value.text) fun _ _ same => Value.text.inj same
    rwa [List.map_map] at texts
  exact Keyed.get?_of_mem once (List.mem_map_of_mem
    (f := fun column : String × Value => (Value.text column.1, column.2)) writes.keyed)

/-- The address that is written is stored. -/
theorem set_email {columns : List (String × Value)} {content : Value}
    (writes : contacts.Writes "id" "email" columns content) (before : String → Value) :
    set (columns.map fun column => (.text column.1, column.2)) before "email" = content := by
  rw [set, get?_email writes]
  rfl

/-! The engine executes the statements of a call as they are written. -/

/-- A lookup by address selects. -/
theorem execute_select (cursor : Cursor) (content : Value) (store : Contacts) :
    store.execute cursor (Query.selectText "contacts" "email") (.map [(.text "p1", content)]) =
      store.select cursor content := by
  simp only [execute, orders_select]

/-- An insertion of a contact inserts. -/
theorem execute_insert {names : List String} (known : names ∈ contactForms) (cursor : Cursor)
    (columns : Row) (store : Contacts) :
    store.execute cursor (insertText "contacts" names) (.map columns) = store.insert columns := by
  simp only [execute, orders_insert names known]

/-- An update of a contact updates. -/
theorem execute_update {columns : List (String × Value)}
    (known : columns.map Prod.fst ∈ contactForms) (cursor : Cursor) (number : Int)
    (store : Contacts) :
    store.execute cursor (Query.updateText "contacts" "id" (columns.map Prod.fst))
        (.map (Binder.named 1 (.int number :: columns.map Prod.snd))) =
      store.update number (columns.map fun column => (.text column.1, column.2)) := by
  simp only [execute, orders_update _ known, Binder.named, Binder.named_values, List.map_map]
  rw [List.zip_map']
  rfl

/-! What the operations do to the stored addresses. -/

/-- A selection finds the contact with the address, if there is one. -/
theorem select_finds (cursor : Cursor) (email : Value) (store : Contacts) :
    view.Finds "id" email store (store.select cursor email).2
      (view.held (store.select cursor email).2 cursor).head? := by
  simp only [select, view, hold, Function.update_self]
  cases found : store.rows.filter fun contact => contact.2 "email" = email with
  | nil =>
      intro row member same
      obtain ⟨contact, inside, rfl⟩ := List.mem_map.mp member
      exact List.filter_eq_nil_iff.mp found contact inside (decide_eq_true same)
  | cons contact others =>
      obtain ⟨inside, same⟩ := List.mem_filter.mp (found ▸ List.mem_cons_self)
      refine ⟨contact.1, List.mem_map.mpr ⟨contact, inside, ?_⟩, rfl⟩
      exact Prod.ext rfl (of_decide_eq_true same)

/-- The number of a new contact is unused. -/
theorem nextNumber_fresh (store : Contacts) : ∀ row ∈ view.rows store, row.1 ≠ store.nextNumber := by
  intro row member
  obtain ⟨contact, inside, rfl⟩ := List.mem_map.mp member
  exact (lt_nextNumber inside).ne

/-- An address that no contact has can be inserted. -/
theorem insert_absent {columns : Row} {email : Value} (writes : added columns "email" = email)
    {store : Contacts} (absent : ∀ row ∈ view.rows store, row.2 ≠ email) :
    store.insert columns = (.ok ⟨some store.nextNumber, 1⟩,
      { store with rows := store.rows ++ [(store.nextNumber, added columns)] }) := by
  refine if_neg ?_
  rintro ⟨contact, member, same⟩
  exact absent _ (List.mem_map_of_mem member) (same.trans writes)

/-- An address that a contact has is refused as taken. -/
theorem insert_present {columns : Row} {email : Value} (writes : added columns "email" = email)
    {store : Contacts} (present : ∃ row ∈ view.rows store, row.2 = email) :
    store.insert columns = (.error taken, store) := by
  obtain ⟨row, member, same⟩ := present
  obtain ⟨contact, inside, rfl⟩ := List.mem_map.mp member
  exact if_pos ⟨contact, inside, same.trans writes.symm⟩

/-- An address that only the updated contact may have is no conflict. -/
theorem update_alone {columns : Row} {email : Value}
    (writes : columns.get? (.text "email") = some email) {number : Int} {store : Contacts}
    (alone : ∀ row ∈ view.rows store, row.2 = email → row.1 = number) :
    store.update number columns = (.ok ⟨none, 1⟩, { store with rows := store.rows.map fun contact =>
      if contact.1 = number then (number, set columns contact.2) else contact }) := by
  refine if_neg ?_
  rintro ⟨contact, inside, other, same⟩
  rw [writes] at same
  exact other (alone _ (List.mem_map_of_mem inside) (Option.some.inj same).symm)

/-- The engine serves upserts of contacts as a table with a unique address does. -/
theorem upserting : contacts.Upserting "id" "email" engine view where
  cursors _ _ := rfl
  quiet request store quiet := by
    cases request <;> first | rfl | exact nomatch quiet
  frame request store cursor apart := by
    have differ (place : Cursor) (other : some place.connection ≠ some cursor.connection) :
        cursor ≠ place := fun same => other (same ▸ rfl)
    cases request <;> first
      | rfl
      | exact execute_other (differ _ apart) ..
      | exact hold_other (differ _ apart) _
  fetches _ _ := rfl
  selects cursor content store :=
    ⟨_, _, execute_select cursor content store, rfl, select_finds cursor content store⟩
  inserts cursor columns content store writes absent := by
    have email := set_email writes fun _ => .null
    refine ⟨_, _, _, (execute_insert writes.mem_contactForms ..).trans (insert_absent email absent),
      nextNumber_fresh store, ?_⟩
    simp only [view, List.map_append, List.map_singleton, added, email, id_eq]
  refuses cursor columns content store writes present :=
    ⟨taken, store, (execute_insert writes.mem_contactForms ..).trans
      (insert_present (set_email writes fun _ => .null) present), ⟨rfl, ": contacts.email", rfl⟩, rfl⟩
  updates cursor number columns content store writes alone := by
    refine ⟨_, _, (execute_update writes.mem_contactForms ..).trans
      (update_alone (get?_email writes) alone), ?_⟩
    simp only [view, List.map_map]
    refine List.map_congr_left fun contact _ => ?_
    by_cases same : contact.1 = number
    · simp only [Function.comp_apply, if_pos same, set_email writes, id_eq]
    · simp only [Function.comp_apply, if_neg same]

end Contacts

namespace Schema

/-- Contacts are a table with a number and a unique address. -/
theorem contacts_keyed : contacts.KeyedTable "id" "email" where
  named := rfl
  primary := rfl
  unique := ⟨_, List.mem_cons_of_mem _ List.mem_cons_self, rfl⟩
  others := by decide
  idName := by decide
  keyName := by decide

/-- The same address is given with different names. -/
def contactRow (name : String) : Row :=
  [(.text "email", .text "ann@example.org"), (.text "name", .text name)]

/-- The rows of both clients have an address. -/
theorem contactRow_keyed (name : String) : contacts.KeyedRow "id" "email" (contactRow name) where
  texts := by simp [contactRow, Keyed.keys]
  once := by simp [contactRow, Keyed.keys]
  declared := by simp [contactRow, Keyed.keys, Keyed.has_text_iff, contacts]
  unnumbered := by simp [contactRow, Keyed.keys]
  convertible := by
    intro entry member
    rcases List.mem_pair.mp member with rfl | rfl
    · exact ⟨_, rfl⟩
    · exact ⟨_, rfl⟩
  keyed := ⟨_, List.mem_cons_self, by decide⟩

def contactRows : Fin 2 → List Row
  | 0 => [contactRow "Ann"]
  | 1 => [contactRow "Anna", contactRow "Annie"]

def contactsDatabase (client : Fin 2) : Database :=
  { path := "contacts.db", settings := {}, connection := some ⟨client⟩ }

def noContacts : Contacts := ⟨[], fun _ => []⟩

/-- The clients take turns. -/
def contactTurns : List (Fin 2) := (List.replicate 32 [0, 1]).flatten

def contactWorld : World (Fin 2) Row (Except Failure Value × Unit) Contacts :=
  (contacts.upserters contactsDatabase contactRows noContacts).run Contacts.engine contactTurns

/-- Two clients upsert the same address in turns, and one row of it is stored. -/
theorem upserts_converge_contacts :
    (contacts.Upserting "id" "email" Contacts.engine Contacts.view ∧
      contacts.KeyedTable "id" "email" ∧
      Function.Injective (fun client : Fin 2 => Connection.mk client) ∧
      (∀ client, (contactsDatabase client).connection = some ⟨client⟩) ∧
      (∀ client, ∀ entries ∈ contactRows client, contacts.KeyedRow "id" "email" entries) ∧
      Contacts.view.Unique noContacts ∧
      ∀ client, (contactRows client).length * 16 ≤ contactTurns.count client) ∧
    (∀ client, (contactWorld.clients client).finished.map Prod.fst = contactRows client) ∧
    (∀ client, ∀ call ∈ (contactWorld.clients client).finished,
      Upserted Contacts.view "id" "email" call.1 call.2 contactWorld.state) ∧
    ∃! row, row ∈ Contacts.view.rows contactWorld.state ∧ row.2 = .text "ann@example.org" := by
  have apart : Function.Injective fun client : Fin 2 => Connection.mk client :=
    fun first second same => Fin.ext (Connection.mk.inj same)
  have opened : ∀ client, (contactsDatabase client).connection = some ⟨client⟩ := fun _ => rfl
  have keyed : ∀ client, ∀ entries ∈ contactRows client, contacts.KeyedRow "id" "email" entries := by
    intro client entries member
    have named : ∃ name, entries = contactRow name := by
      match client with
      | 0 => exact ⟨_, List.mem_singleton.mp member⟩
      | 1 => exact (List.mem_pair.mp member).elim (fun same => ⟨_, same⟩) fun same => ⟨_, same⟩
    obtain ⟨name, rfl⟩ := named
    exact contactRow_keyed name
  have unique : Contacts.view.Unique noContacts := ⟨List.nodup_nil, List.nodup_nil⟩
  have enough : ∀ client, (contactRows client).length * 16 ≤ contactTurns.count client := by
    decide
  obtain ⟨-, returned, ended⟩ := upserts_converge Contacts.upserting contacts_keyed apart opened keyed
    unique contactTurns
  refine ⟨⟨Contacts.upserting, contacts_keyed, apart, opened, keyed, unique, enough⟩,
    fun client => (ended client (enough client)).1, returned, ?_⟩
  obtain ⟨value, content, member, stored, single⟩ :=
    (ended 0 (enough 0)).2 (contactRow "Ann") List.mem_cons_self
  have same : value = .text "ann@example.org" := by simpa [contactRow] using member
  subst same
  obtain rfl := Except.ok.inj stored
  exact single

end Schema

end Tabular
