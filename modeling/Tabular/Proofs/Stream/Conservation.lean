import Tabular.Proofs.Engine.Closing
import Tabular.Proofs.Stream.Ledger

/-!
This module follows each row that a stream accepts. It waits, or it has left the stream once, and only
rows that left with a batch are executed.
-/

namespace Tabular

namespace WriteStream

open Tabular.Action Database Exchange

variable {τ : Type} {database : Database} {departed : List (Departure τ)}

/-- A departure executes the first of its rows, or all of them, in their order. -/
theorem Departure.Faithful.rowsOf_prefix {departure : Departure τ} {text : String}
    (faithful : departure.Faithful database text) (apart : text ∉ controlTexts) :
    rowsOf text departure.exchanges <+: departure.rows := by
  cases departure with
  | dropped rows => exact List.nil_prefix
  | flushed stream run =>
      obtain ⟨idle, writes, fails⟩ := faithful
      cases ends : run.outcome with
      | error failure => exact (fails failure ends).inOrder
      | ok _ =>
          by_cases filled : stream.waiting = []
          · rw [Departure.exchanges, (idle filled).2]
            exact List.nil_prefix
          · exact ((writes filled ends).rowsOf apart) ▸ List.prefix_rfl

theorem rowsOf_departed {text : String} (apart : text ∉ controlTexts)
    (faithful : ∀ departure ∈ departed, departure.Faithful database text) :
    (rowsOf text (departed.flatMap Departure.exchanges)).Sublist (departed.flatMap Departure.rows) := by
  induction departed with
  | nil => exact List.Sublist.refl _
  | cons departure rest inductionHypothesis =>
      obtain ⟨here, others⟩ := List.forall_mem_cons.mp faithful
      rw [List.flatMap_cons, List.flatMap_cons, rowsOf_append]
      exact (here.rowsOf_prefix apart).sublist.append (inductionHypothesis others)

/-- Each accepted row waits or has left the stream, and the rows that were executed left with a batch. -/
structure Conserved (engine : Engine τ) (database : Database) (origin : WriteStream) (text : String)
    (played : Played Call WriteStream τ Unit) (accepted : List Value) : Prop where
  room : (played.state.waiting.length : Int) < origin.batchSize
  accepts : Accepts (columnsOf (offered engine database played.turns))
    (offered engine database played.turns) accepted
  balance : accepted =
    (departures engine database played.turns).flatMap Departure.rows ++ played.state.waiting
  only : statements played.exchanges =
    statements ((departures engine database played.turns).flatMap Departure.exchanges)
  faithful : ∀ departure ∈ departures engine database played.turns, departure.Faithful database text
  once : (rowsOf text played.exchanges).Sublist accepted
  total : played.state.rowsWritten =
    ((departures engine database played.turns).map Departure.written).sum

/-- The columns of a statement are texts. -/
theorem columnsOf_texts (offers : List Value) : (columnsOf offers).all Value.isText = true := by
  rw [columnsOf]
  cases named : offers.findSome? naming? with
  | none => rfl
  | some columns =>
      obtain ⟨row, -, names⟩ := List.exists_of_findSome?_eq_some named
      exact List.all_eq_true.mpr (naming?_texts names).2

/-- A stream that was made has empty books and room for a row. -/
theorem books_make (database : Database) {table : Value} {replaces : Bool} {size : Int}
    {origin : WriteStream} (made : make table replaces size = .ok origin) :
    Books (τ := τ) database origin [] [] [] [] origin ∧ 0 < origin.batchSize ∧
      origin.waiting = [] := by
  obtain ⟨positive, rfl⟩ := make_eq_ok.mp made
  exact ⟨⟨rfl, rfl, rfl, fun _ => rfl, fun _ => ⟨rfl, rfl⟩, nofun, .nil, rfl, rfl,
    fun _ _ => List.forall_mem_nil _, rfl⟩, positive, rfl⟩

/-- A stream on which calls were made is booked, and it has room for a row. -/
theorem plays_booked (engine : Engine τ) (database : Database) {table : Value} {replaces : Bool}
    {size : Int} {origin : WriteStream} (made : make table replaces size = .ok origin) (start : τ)
    (calls : List Call) {played}
    (plays : Action.plays engine (Call.perform database) calls origin start = played) :
    (∃ accepted, Books database origin (offered engine database played.turns) accepted
      (departures engine database played.turns) (Turn.exchanges played.turns) played.state) ∧
      (played.state.waiting.length : Int) < origin.batchSize := by
  subst plays
  obtain ⟨begins, positive, bare⟩ := books_make database made
  refine plays_keep engine (Call.perform database)
    (fun turns stream _ => (∃ accepted, Books database origin (offered engine database turns) accepted
      (departures engine database turns) (Turn.exchanges turns) stream) ∧
        (stream.waiting.length : Int) < origin.batchSize)
    (fun turns stream start call ⟨⟨accepted, books⟩, room⟩ => ?_) calls origin start
    ⟨⟨[], begins⟩, by rw [bare]; exact positive⟩
  obtain ⟨more, after, still⟩ := books.performed positive room rfl
  refine ⟨⟨more, ?_⟩, still⟩
  rw [offered, departures, List.flatMap_append, List.flatMap_append, List.flatMap_append,
    List.flatMap_singleton, List.flatMap_singleton, Turn.exchanges_append, Turn.exchanges_single]
  exact after

/-- The rows of a stream are conserved by all calls, whatever the engine refuses. -/
theorem calls_conserve (engine : Engine τ) (database : Database) {table : Value} {replaces : Bool}
    {size : Int} {origin : WriteStream} (made : make table replaces size = .ok origin) (start : τ)
    (calls : List Call) {played}
    (plays : Action.plays engine (Call.perform database) calls origin start = played) :
    ∃ text accepted,
      origin.insertText (columnsOf (offered engine database played.turns)) = .ok text ∧
        Conserved engine database origin text played accepted := by
  obtain ⟨⟨accepted, books⟩, room⟩ := plays_booked engine database made start calls plays
  obtain ⟨text, written⟩ := insertText_total.mpr (columnsOf_texts _)
  have faithful := books.faithful text written
  refine ⟨text, accepted, written, room, books.accepts, books.balance, books.only, faithful, ?_,
    books.total⟩
  rw [rowsOf, Played.exchanges, books.only, books.balance]
  exact (rowsOf_departed (insertText_apart written) faithful).trans (List.sublist_append_left _ _)

/-! ## A stream of orders -/

def orderDatabase : Database := { path := "orders.db", settings := {}, connection := some ⟨0⟩ }

def orderStream : WriteStream := { table := .text "orders", batchSize := 2 }

def order (id amount : Int) : Value := .map [(.text "id", .int id), (.text "amount", .int amount)]

/-- The second row names its columns in another order, and the last one waits. -/
def orderPlayed : Played Call WriteStream Bool Unit :=
  plays (Latch.engine fun _ => false) (Call.perform orderDatabase)
    [.write (order 1 10),
      .writeAll [.map [(.text "amount", .int 20), (.text "id", .int 2)], order 3 30]]
    orderStream false

def orderText : String := "INSERT INTO orders (id, amount) VALUES ($id, $amount)"

theorem calls_conserve_orders :
    make (.text "orders") false 2 = .ok orderStream ∧
      statements orderPlayed.exchanges = [(beginText, .tuple []), (orderText, order 1 10),
        (orderText, order 2 20), (commitText, .tuple [])] ∧
      ∃ text accepted, orderStream.insertText (columnsOf (offered (Latch.engine fun _ => false)
          orderDatabase orderPlayed.turns)) = .ok text ∧
        Conserved (Latch.engine fun _ => false) orderDatabase orderStream text orderPlayed accepted := by
  have made : make (.text "orders") false 2 = .ok orderStream := rfl
  exact ⟨made, by decide +kernel, calls_conserve (Latch.engine fun _ => false) orderDatabase made false
    _ rfl⟩

end WriteStream

end Tabular
