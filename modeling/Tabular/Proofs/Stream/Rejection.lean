import Mathlib.Data.Fintype.EquivFin
import Tabular.Proofs.Engine.Guarded
import Tabular.Proofs.Stream.Conservation

/-!
This module tells what a rejected row leaves behind. It changes a stream only where it is the first
row that names columns, and then the stream takes no rows with other columns.
-/

namespace Tabular

/-- These failures reject a row: it has no columns or other ones, or a value without a stored
form. -/
def Failure.isRejection : Failure → Bool
  | .emptyRow | .rowColumns _ _ | .parameter _ => true
  | _ => false

open Tabular.Action

variable {σ τ α : Type}

/-! ## Writing a batch rejects no row -/

/-- An action on a part of a state fails where it does. -/
theorem Action.Avoids.onPart {υ : Type} {causes : Failure → Bool} {part : υ → σ}
    {replace : υ → σ → υ} {action : Action σ α} (avoids : Avoids causes action) :
    Avoids causes (onPart part replace action) := by
  intro τ engine whole start
  rw [runOn_onPart]
  exact avoids engine (part whole) start

theorem Action.Avoids.modify {causes : Failure → Bool} (change : σ → σ) :
    Avoids causes (modify change : Action σ PUnit) :=
  fun _ _ _ _ _ failed => nomatch failed

theorem Action.Avoids.get {causes : Failure → Bool} : Avoids causes (get : Action σ σ) :=
  fun _ _ _ _ _ failed => nomatch failed

theorem Statement.bind_relays (database : Database) (parameters : Value) :
    Relays (Statement.bind database parameters) := by
  have opens : Relays checkOpen := by
    apply Avoids.get.bind
    intro statement
    split
    · exact .throw rfl
    · exact .pure _
  have reaches : Relays (theCursor database) := by
    apply Avoids.get.bind
    intro statement
    split
    · exact .pure _
    · apply database.connected_relays.bind
      intro connection
      apply (Avoids.ask _).bind
      intro cursor
      exact (Avoids.modify _).bind fun _ => .pure _
  apply opens.bind
  intro _
  apply (Avoids.modify _).bind
  intro _
  apply reaches.bind
  intro cursor
  apply Avoids.get.bind
  intro statement
  apply (Avoids.log _ _ _).bind
  intro _
  apply (Avoids.ask _).bind
  intro answer
  exact Database.attached_relays parameters _ answer

namespace WriteStream

variable (engine : Engine τ) (database : Database) {stream : WriteStream} (start : τ)

theorem runAll_relays (rows : List Value) : Relays (runAll database rows) := by
  induction rows with
  | nil => exact .pure _
  | cons row rest inductionHypothesis =>
      have runs : Relays (runStatement database row) := by
        apply Avoids.get.bind
        intro stream
        split
        · exact .pure _
        · exact (Statement.bind_relays database row).onPart.bind fun _ => .pure _
      exact runs.bind fun _ => inductionHypothesis

theorem flush_relays : Relays (flush database) := by
  apply Avoids.get.bind
  intro stream
  dsimp only
  split
  · exact .pure _
  · apply (Avoids.modify _).bind
    intro _
    apply (database.transaction_relays (runAll_relays database _)).bind
    intro _
    apply (Avoids.modify _).bind
    intro _
    exact Avoids.get.bind fun _ => .log _ _ _

theorem settle_relays : Relays (settle database) := by
  apply Avoids.get.bind
  intro stream
  split
  · exact flush_relays database
  · exact .pure _

theorem isRejection_own {failure : Failure} (rejects : failure.isRejection = true) :
    failure.isReported = false := by
  cases failure with
  | emptyRow | rowColumns | parameter => rfl
  | _ => exact nomatch rejects

/-- A rejected row was not taken. -/
theorem take_rejected {row : Value} {failure : Failure} {rejected : Run WriteStream τ Unit}
    (runs : (write database row).runOn engine stream start = rejected)
    (fails : rejected.outcome = .error failure) (rejects : failure.isRejection = true) :
    (take row).runOn engine stream start = rejected := by
  rw [write_eq_bind, runOn_bind] at runs
  generalize (take row).runOn engine stream start = taken at runs
  obtain ⟨outcome, after, final, exchanges⟩ := taken
  cases outcome with
  | error other => exact runs
  | ok value =>
      -- What fails behind the row is reported by the engine.
      subst runs
      have reported : (!failure.isReported) = false :=
        settle_relays database engine after final failure fails
      rw [isRejection_own rejects] at reported
      cases reported

/-! ## What is left behind -/

/-- A rejected row leaves a stream as it was, or decides on the columns of a stream without any. -/
inductive Rejected (row : Value) (stream : WriteStream) : WriteStream → Prop where
  | kept (known : stream.statement ≠ none ∨ row.elements? = some []) : Rejected row stream stream
  | decided (live : stream.closed = false) (bare : stream.statement = none) {columns : List Value}
      {sql : String} (names : naming? row = some columns)
      (text : stream.insertText columns = .ok sql) :
      Rejected row stream { stream with columns, statement := some { sql } }

/-- A statement is only refused for names that are no texts. -/
theorem insertText_refused {columns : List Value} {failure : Failure}
    (refused : stream.insertText columns = .error failure) : failure = .wrongType := by
  rw [insertText, Outcome.bind_pure_eq_error, Value.commaList,
    Outcome.bind_pure_eq_error] at refused
  induction columns with
  | nil => exact (Outcome.pure_eq_error.mp refused).elim
  | cons column rest inductionHypothesis =>
      rw [List.mapM_cons] at refused
      cases column with
      | text name => exact inductionHypothesis (Outcome.bind_pure_eq_error.mp refused)
      | _ => exact (Except.error.inj refused).symm

/-- A row that names no columns is only rejected where it has none. -/
theorem prepare_rejected {row : Value} {failure : Failure} {prepared : Run WriteStream τ Unit}
    (runs : (prepare row).runOn engine stream start = prepared) (bare : stream.statement = none)
    (names : naming? row = none) (fails : prepared.outcome = .error failure)
    (rejects : failure.isRejection = true) : row.elements? = some [] ∧ prepared.state = stream := by
  simp only [prepare, runOn_bind, runOn_get, Run.follow, bare, Option.isSome_none,
    Bool.false_eq_true, if_false, List.nil_append, runOn_lift, Value.items] at runs
  cases found : row.elements? with
  | none =>
      rw [found] at runs
      subst runs
      cases fails
      exact absurd rejects Bool.false_ne_true
  | some elements =>
      rw [found] at runs
      cases elements with
      | nil =>
          subst runs
          exact ⟨rfl, rfl⟩
      | cons name rest =>
          dsimp only [pure, Except.pure] at runs
          simp only [List.isEmpty_cons, Bool.false_eq_true, if_false, runOn_bind, runOn_modify,
            Run.follow, runOn_lift, List.nil_append] at runs
          subst runs
          cases text : stream.insertText (name :: rest) with
          | ok sql =>
              have texts := insertText_total.mp ⟨sql, text⟩
              rw [naming?, found] at names
              simp [texts] at names
          | error other =>
              rw [insertText_refused text] at text
              rw [text] at fails
              cases fails
              exact absurd rejects Bool.false_ne_true

/-- A rejected row has asked for nothing, and it leaves the stream as it was or decides on the
columns. -/
theorem write_rejected {row : Value} {failure : Failure} {rejected : Run WriteStream τ Unit}
    (runs : (write database row).runOn engine stream start = rejected)
    (fails : rejected.outcome = .error failure) (rejects : failure.isRejection = true) :
    rejected.exchanges = [] ∧ rejected.final = start ∧ Rejected row stream rejected.state := by
  have takes := take_rejected engine database start runs fails rejects
  have taken := take_taken engine row stream start
  rw [takes] at taken
  cases taken with
  | closed closed =>
      cases fails
      exact nomatch rejects
  | accepted => exact nomatch fails
  | unfit live prepares refused =>
      refine ⟨rfl, rfl, ?_⟩
      cases prepares with
      | already holds => exact .kept (.inl (by simp [holds]))
      | first bare names text => exact .decided live bare names text
  | nameless live bare names columns other =>
      refine ⟨rfl, rfl, ?_⟩
      rcases runOn_prepare engine row stream start with ⟨prepared, prepares, -⟩ |
        ⟨-, -, columns', other', prepared⟩
      · cases prepares with
        | already holds => exact nomatch bare.symm.trans holds
        | first _ named => exact nomatch names.symm.trans named
      · simp only [take, runOn_bind, runOn_get, Run.follow, live, Bool.false_eq_true, if_false,
          List.nil_append, prepared] at takes
        rw [live] at prepared
        obtain ⟨empty, same⟩ :=
          prepare_rejected engine start (prepared.trans takes) bare names fails rejects
        exact same ▸ .kept (.inr empty)

/-! ## What is noticed later -/

/-- What is seen of a call on a stream. -/
structure Sight where
  outcome : Except Failure Unit
  exchanges : List Exchange
  rowsWritten : Nat
  closed : Bool

def sight (turn : Turn Call WriteStream τ Unit) : Sight where
  outcome := turn.run.outcome
  exchanges := turn.run.exchanges
  rowsWritten := turn.run.state.rowsWritten
  closed := turn.run.state.closed

/-- No calls on any engine tell two streams apart. -/
def Indistinguishable (database : Database) (first second : WriteStream) : Prop :=
  ∀ ⦃τ : Type⦄ (engine : Engine τ) (start : τ) (later : List Call),
    (plays engine (Call.perform database) later first start).turns.map sight =
      (plays engine (Call.perform database) later second start).turns.map sight

/-- A row with one column. -/
def oneColumn (name : String) : Value := .map [(.text name, .null)]

theorem rowParameters_oneColumn (name : String) :
    ∃ parameters, rowParameters [.text name] (oneColumn name) = .ok parameters := by
  have texts : ∀ column ∈ [Value.text name], column.isText = true :=
    List.forall_mem_singleton.mpr rfl
  refine ⟨_, (rowParameters_eq_ok (List.cons_ne_nil _ _) texts).mpr (@Fits.row _ _ [.null]
    (List.cons_ne_nil _ _) (fun _ => Iff.rfl) (.cons ⟨.null, ?_, rfl⟩ .nil))⟩
  rw [Keyed.get?_cons, Value.same_text_text, beq_self_eq_true, if_pos rfl]

/-- A stream without columns takes every column. -/
theorem write_oneColumn (live : stream.closed = false) (bare : stream.statement = none)
    (name : String) {failure : Failure} (rejects : failure.isRejection = true) :
    ((write database (oneColumn name)).runOn engine stream start).outcome ≠ .error failure := by
  intro fails
  have taken := take_taken engine (oneColumn name) stream start
  rw [take_rejected engine database start rfl fails rejects] at taken
  generalize (write database (oneColumn name)).runOn engine stream start = run at *
  cases taken with
  | closed closed => exact nomatch live.symm.trans closed
  | nameless _ _ names => exact nomatch names
  | accepted => exact nomatch fails
  | unfit _ prepares refused =>
      cases prepares with
      | already holds => exact nomatch bare.symm.trans holds
      | first _ names =>
          obtain rfl := Option.some.inj names
          obtain ⟨parameters, gives⟩ := rowParameters_oneColumn name
          exact nomatch refused.symm.trans gives

/-- A stream with columns rejects every other column. -/
theorem write_otherColumn (live : stream.closed = false) {statement : Statement}
    (holds : stream.statement = some statement)
    (texts : ∀ column ∈ stream.columns, column.isText = true) {name : String}
    (other : .text name ∉ stream.columns) :
    ((write database (oneColumn name)).runOn engine stream start).outcome =
      .error (.rowColumns [.text name] stream.columns) := by
  have differ : sameMembers [.text name] stream.columns = false := by
    rw [Bool.eq_false_iff]
    intro same
    exact other (((sameMembers_iff texts).mp same _).mp List.mem_cons_self)
  have rejects : rowParameters stream.columns (oneColumn name) =
      .error (.rowColumns [.text name] stream.columns) := by
    have items : (oneColumn name).items = .ok [.text name] := rfl
    have hashable : Value.areKeys [.text name] = true := by simp [Value.areKeys, Value.isKey]
    simp only [rowParameters, items, Outcome.ok_bind, hashable, differ, Bool.not_true,
      Bool.not_false, Bool.false_eq_true, if_false, if_true]
    rfl
  have prepared : (prepare (oneColumn name)).runOn engine stream start =
      ⟨.ok (), stream, start, []⟩ := by
    simp [prepare, runOn_bind, Run.follow, holds]
  simp [write_eq_bind, take, runOn_bind, Run.follow, live, prepared, rejects]

/-! ## Rejected rows -/

/-- A stream has a statement once a row has named columns. -/
theorem Books.prepared_iff {origin : WriteStream} {offers accepted : List Value}
    {departed : List (Departure τ)} {exchanges : List Exchange}
    (books : Books database origin offers accepted departed exchanges stream) :
    stream.statement ≠ none ↔ columnsOf offers ≠ [] := by
  cases held : stream.statement with
  | none => simp [columnsOf_none (books.bare held).1]
  | some statement =>
      obtain ⟨named, -, -⟩ := books.holds statement held
      obtain ⟨other, -, names⟩ := List.exists_of_findSome?_eq_some named
      simp [columnsOf, named, (naming?_texts names).1]

/-- A rejected row asks for nothing. It goes unnoticed exactly where a row named columns before, or
where it has no columns itself. -/
theorem rejection_unnoticed_iff (engine : Engine τ) (database : Database) {table : Value}
    {replaces : Bool} {size : Int} {origin : WriteStream}
    (made : make table replaces size = .ok origin) (start : τ) (calls : List Call) {played}
    (plays : Action.plays engine (Call.perform database) calls origin start = played)
    {row : Value} {rejected : Run WriteStream τ Unit}
    (runs : (write database row).runOn engine played.state played.final = rejected)
    {failure : Failure} (fails : rejected.outcome = .error failure)
    (rejects : failure.isRejection = true) :
    rejected.exchanges = [] ∧ rejected.final = played.final ∧
      (Indistinguishable database rejected.state played.state ↔
        columnsOf (offered engine database played.turns) ≠ [] ∨ row.elements? = some []) := by
  obtain ⟨silent, still, left⟩ := write_rejected engine database played.final runs fails rejects
  obtain ⟨⟨accepted, books⟩, -⟩ := plays_booked engine database made start calls plays
  refine ⟨silent, still, ?_⟩
  rw [← books.prepared_iff]
  generalize rejected.state = after at left
  cases left with
  | kept known => exact iff_of_true (fun _ _ _ _ => rfl) known
  | @decided live bare columns sql names text =>
      obtain ⟨named, texts⟩ := naming?_texts names
      have unknown : ¬ (played.state.statement ≠ none ∨ row.elements? = some []) := by
        rintro (held | empty)
        · exact held bare
        · simp [naming?, empty] at names
      refine iff_of_false (fun same => ?_) unknown
      -- A column that the rejected row does not have is taken only by the stream before.
      obtain ⟨other, fresh⟩ := Infinite.exists_notMem_finset (columns.map Value.toText).toFinset
      have apart : .text other ∉ columns := by
        intro member
        exact fresh (List.mem_toFinset.mpr (List.mem_map.mpr ⟨_, member, rfl⟩))
      let after : WriteStream := { played.state with columns, statement := some { sql } }
      have refused :=
        @write_otherColumn τ engine database after played.final live _ rfl texts other apart
      have sights := same engine played.final [.write (oneColumn other)]
      have outcomes := congrArg Sight.outcome (List.cons.inj sights).1
      exact write_oneColumn engine database played.final live bare other rfl
        (outcomes.symm.trans refused)

/-- A row of orders whose amount has no stored form. -/
def orderUnstored (id : Int) : Value := .map [(.text "id", .int id), (.text "amount", .list [])]

/-- An order that names its customer. -/
def customerOrder (id customer : Int) : Value :=
  .map [(.text "id", .int id), (.text "customer", .int customer)]

/-- The calls are made on the stream of orders. -/
def orderCalls (calls : List Call) : Played Call WriteStream Bool Unit :=
  plays (Latch.engine fun _ => false) (Call.perform orderDatabase) calls orderStream false

/-- Behind an order that was taken, one with a value that cannot be stored is rejected. -/
theorem rejection_unnoticed_iff_orders :
    let played := orderCalls [.write (order 1 10)]
    let rejected := (write orderDatabase (orderUnstored 2)).runOn (Latch.engine fun _ => false)
      played.state played.final
    rejected.outcome = .error (.parameter (.list [])) ∧
      Indistinguishable orderDatabase rejected.state played.state := by
  have made : make (.text "orders") false 2 = .ok orderStream := rfl
  have fails : ((write orderDatabase (orderUnstored 2)).runOn (Latch.engine fun _ => false)
      (orderCalls [.write (order 1 10)]).state (orderCalls [.write (order 1 10)]).final).outcome =
        .error (.parameter (.list [])) := by decide +kernel
  refine ⟨fails, ?_⟩
  exact (rejection_unnoticed_iff (Latch.engine fun _ => false) orderDatabase made false _ rfl rfl
    fails rfl).2.2.mpr (.inl (by decide +kernel))

/-- A first row that is rejected decides on the columns: a row with other columns is refused after
it and taken without it. -/
theorem rejection_decides :
    (orderCalls [.write (orderUnstored 1), .write (customerOrder 2 7), .flush]).outcomes =
      [.error (.parameter (.list [])),
        .error (.rowColumns [.text "customer", .text "id"] [.text "id", .text "amount"]), .ok ()] ∧
    (orderCalls [.write (customerOrder 2 7), .flush]).outcomes = [.ok (), .ok ()] ∧
    Exchange.statements (orderCalls [.write (orderUnstored 1), .write (customerOrder 2 7),
      .flush]).exchanges = [] ∧
    Exchange.statements (orderCalls [.write (customerOrder 2 7), .flush]).exchanges =
      [(beginText, .tuple []), ("INSERT INTO orders (id, customer) VALUES ($id, $customer)",
        customerOrder 2 7), (commitText, .tuple [])] := by
  decide +kernel

end WriteStream

end Tabular
