import Mathlib.Algebra.Ring.Nat
import Tabular.Proofs.Engine.Turns
import Tabular.Proofs.Stream.Flushing
import Tabular.Proofs.Stream.Offered

/-!
This module keeps the books of a stream. A row that is accepted waits until it leaves with a batch or
with the rows that are dropped, and every step of a call is booked.
-/

namespace Tabular

namespace WriteStream

open Tabular.Action Database Exchange

variable {τ : Type}

/-- A call on a stream for writing rows. -/
inductive Call where
  | write (row : Value)
  | writeAll (rows : List Value)
  | flush
  | close
  | abort

/-- This action makes a call. -/
def Call.perform (database : Database) : Call → Action WriteStream Unit
  | .write row => WriteStream.write database row
  | .writeAll rows => do
      let _ ← WriteStream.writeAll database rows
  | .flush => WriteStream.flush database
  | .close => WriteStream.close database
  | .abort => WriteStream.abort

/-! ## What leaves a stream -/

/-- Rows leave a stream when a batch is written, whether or not that fails, and when they are dropped. -/
inductive Departure (τ : Type) where
  | flushed (stream : WriteStream) (run : Run WriteStream τ Unit)
  | dropped (rows : List Value)

namespace Departure

def rows : Departure τ → List Value
  | .flushed stream _ => stream.waiting
  | .dropped rows => rows

def exchanges : Departure τ → List Exchange
  | .flushed _ run => run.exchanges
  | .dropped _ => []

/-- The number of rows that a batch wrote without a failure. -/
def written : Departure τ → Nat
  | .flushed stream ⟨.ok _, _, _, _⟩ => stream.waiting.length
  | _ => 0

/-- A batch that did not fail has written all its rows in one transaction. One that failed has executed
the first of them. Without rows nothing is executed. -/
def Faithful (database : Database) (text : String) : Departure τ → Prop
  | .flushed stream run =>
      (stream.waiting = [] → run.outcome = .ok () ∧ run.exchanges = []) ∧
      (stream.waiting ≠ [] → run.outcome = .ok () →
        Written database text stream.waiting run.exchanges) ∧
      (∀ failure, run.outcome = .error failure → Attempted text stream.waiting run.exchanges)
  | .dropped _ => True

end Departure

variable (engine : Engine τ) (database : Database)

/-- A batch that is written now. -/
def flushing (stream : WriteStream) (start : τ) : Departure τ :=
  .flushed stream ((flush database).runOn engine stream start)

/-- The batch that is written after a row was taken, if it is complete. -/
def writing (row : Value) (stream : WriteStream) (start : τ) : List (Departure τ) :=
  match (take row).runOn engine stream start with
  | ⟨.ok _, taken, final, _⟩ =>
      if taken.batchSize ≤ taken.waiting.length then [flushing engine database taken final] else []
  | ⟨.error _, _, _, _⟩ => []

/-- The rows of a list are written one after another up to the first failure. -/
def writes : List Value → WriteStream → τ → List (Turn Value WriteStream τ Unit)
  | [], _, _ => []
  | row :: rest, stream, start =>
      let run := (write database row).runOn engine stream start
      ⟨row, stream, start, run⟩ ::
        match run.outcome with
        | .ok _ => writes rest run.state run.final
        | .error _ => []

/-- The rows that a call writes, each one with its own run. -/
def writesOf (turn : Turn Call WriteStream τ Unit) : List (Turn Value WriteStream τ Unit) :=
  match turn.call with
  | .write row => [⟨row, turn.state, turn.start, turn.run⟩]
  | .writeAll rows => writes engine database rows turn.state turn.start
  | _ => []

/-- A row that is written to an open stream is offered to it. -/
def offering (turn : Turn Value WriteStream τ Unit) : List Value :=
  if turn.state.closed then [] else [turn.call]

/-- The rows that calls offer. -/
def offered (turns : List (Turn Call WriteStream τ Unit)) : List Value :=
  (turns.flatMap (writesOf engine database)).flatMap offering

/-- What leaves the stream with a call. -/
def departing (turn : Turn Call WriteStream τ Unit) : List (Departure τ) :=
  match turn.call with
  | .write _ | .writeAll _ => (writesOf engine database turn).flatMap fun written =>
      writing engine database written.call written.state written.start
  | .flush => [flushing engine database turn.state turn.start]
  | .close => if turn.state.closed then [] else [flushing engine database turn.state turn.start]
  | .abort => [.dropped turn.state.waiting]

def departures (turns : List (Turn Call WriteStream τ Unit)) : List (Departure τ) :=
  turns.flatMap (departing engine database)

/-! ## The books of a stream -/

/-- All rows that a stream accepted are booked. -/
structure Books (origin : WriteStream) (offers accepted : List Value)
    (departed : List (Departure τ)) (exchanges : List Exchange) (stream : WriteStream) : Prop where
  table : stream.table = origin.table
  replaces : stream.insertOrReplace = origin.insertOrReplace
  size : stream.batchSize = origin.batchSize
  shut : stream.closed = true → stream.waiting = []
  bare : stream.statement = none → offers.findSome? naming? = none ∧ accepted = []
  holds : ∀ statement, stream.statement = some statement →
    offers.findSome? naming? = some stream.columns ∧
      origin.insertText stream.columns = .ok statement.sql ∧
      (stream.closed = false → statement.finalized = false)
  accepts : Accepts (columnsOf offers) offers accepted
  balance : accepted = departed.flatMap Departure.rows ++ stream.waiting
  only : statements exchanges = statements (departed.flatMap Departure.exchanges)
  faithful : ∀ text, origin.insertText (columnsOf offers) = .ok text →
    ∀ departure ∈ departed, departure.Faithful database text
  total : stream.rowsWritten = (departed.map Departure.written).sum

variable {engine database} {origin stream : WriteStream} {offers accepted : List Value}
  {departed : List (Departure τ)} {exchanges : List Exchange} {start : τ}

theorem insertText_apart {columns : List Value} {text : String}
    (done : stream.insertText columns = .ok text) : text ∉ controlTexts := by
  obtain ⟨list, -, same⟩ := Outcome.bind_eq_ok.mp done
  have first : text.toList.head? = some 'I' := by
    cases same
    cases stream.insertOrReplace <;> simp [String.toList_append]
  intro member
  simp only [controlTexts, List.mem_cons, List.not_mem_nil, or_false] at member
  rcases member with rfl | rfl | rfl <;> exact absurd first (by decide)

/-- The columns stay once a row has named them. -/
theorem columnsOf_append {columns : List Value} (named : offers.findSome? naming? = some columns)
    (others : List Value) : (offers ++ others).findSome? naming? = some columns ∧
      columnsOf (offers ++ others) = columns := by
  have stays : (offers ++ others).findSome? naming? = some columns := by
    rw [List.findSome?_append, named, Option.some_or]
  exact ⟨stays, by rw [columnsOf, stays, Option.getD_some]⟩

theorem columnsOf_none (nameless : offers.findSome? naming? = none) : columnsOf offers = [] := by
  rw [columnsOf, nameless, Option.getD_none]

/-- A departure without rows is faithful to every statement. -/
theorem Departure.Faithful.anyText {departure : Departure τ} {text other : String}
    (faithful : departure.Faithful database text) (none : departure.rows = []) :
    departure.Faithful database other := by
  cases departure with
  | dropped rows => trivial
  | flushed stream run =>
      obtain ⟨idle, -, -⟩ := faithful
      obtain ⟨returns, silent⟩ := idle none
      refine ⟨idle, fun filled => absurd none filled, fun failure fails => ?_⟩
      exact nomatch returns.symm.trans fails

namespace Books

/-- Without a statement no row waits, and no row has left. -/
theorem waiting_bare (books : Books database origin offers accepted departed exchanges stream)
    (bare : stream.statement = none) :
    stream.waiting = [] ∧ ∀ departure ∈ departed, departure.rows = [] := by
  have none := books.balance.symm.trans (books.bare bare).2
  obtain ⟨rows, waiting⟩ := List.append_eq_nil_iff.mp none
  exact ⟨waiting, List.flatMap_eq_nil_iff.mp rows⟩

theorem insertText_eq (books : Books database origin offers accepted departed exchanges stream)
    (columns : List Value) : stream.insertText columns = origin.insertText columns := by
  rw [insertText, insertText, books.table, books.replaces]

/-- A row is offered, and it is accepted or not. -/
theorem offer (books : Books database origin offers accepted departed exchanges stream)
    (live : stream.closed = false) {row : Value} {prepared : WriteStream}
    (prepares : Prepared row stream prepared) {more : List Value}
    (accepts : Accepts prepared.columns [row] more) :
    Books database origin (offers ++ [row]) (accepted ++ more) departed exchanges
      { prepared with waiting := prepared.waiting ++ more } := by
  cases prepares with
  -- The columns were fixed by an earlier row, and this one does not change them.
  | @already statement holds =>
      obtain ⟨named, text, stays⟩ := books.holds statement holds
      obtain ⟨still, same⟩ := columnsOf_append named [row]
      have known : columnsOf offers = stream.columns := by rw [columnsOf, named, Option.getD_some]
      refine ⟨books.table, books.replaces, books.size, fun closed => (nomatch live.symm.trans closed),
        fun bare => (nomatch bare.symm.trans holds), fun other held => ?_, ?_, ?_, books.only, ?_,
        books.total⟩
      · cases holds.symm.trans held
        exact ⟨still, text, stays⟩
      · rw [same]
        exact (known ▸ books.accepts).append accepts
      · rw [books.balance, List.append_assoc]
      · rw [same, ← known]
        exact books.faithful
  -- This row fixes the columns, as none of the rows before it named any.
  | @first bare columns sql names text =>
      obtain ⟨nameless, none⟩ := books.bare bare
      obtain ⟨waiting, departedNone⟩ := books.waiting_bare bare
      obtain ⟨-, texts⟩ := naming?_texts names
      rw [books.insertText_eq] at text
      have named : (offers ++ [row]).findSome? naming? = some columns := by
        rw [List.findSome?_append, nameless, Option.none_or, List.findSome?_singleton, names]
      have same : columnsOf (offers ++ [row]) = columns := by rw [columnsOf, named, Option.getD_some]
      refine ⟨books.table, books.replaces, books.size, fun closed => (nomatch live.symm.trans closed),
        nofun, fun other held => ?_, ?_, ?_, books.only, ?_, books.total⟩
      · cases held
        exact ⟨named, text, fun _ => rfl⟩
      · rw [same, none]
        exact (accepts_nameless texts (List.findSome?_eq_none_iff.mp nameless)).append accepts
      · rw [books.balance, List.append_assoc]
      · obtain ⟨old, oldText⟩ : ∃ text, origin.insertText (columnsOf offers) = .ok text := by
          rw [columnsOf_none nameless]
          exact insertText_total.mpr rfl
        exact fun other _ departure member =>
          (books.faithful old oldText departure member).anyText (departedNone departure member)

/-- The columns are names. -/
theorem prepared_texts (books : Books database origin offers accepted departed exchanges stream)
    {row : Value} {prepared : WriteStream} (prepares : Prepared row stream prepared) :
    prepared.columns ≠ [] ∧ ∀ column ∈ prepared.columns, column.isText = true := by
  cases prepares with
  | already holds =>
      obtain ⟨other, -, names⟩ := List.exists_of_findSome?_eq_some (books.holds _ holds).1
      exact naming?_texts names
  | first bare names text => exact naming?_texts names

/-- What comes of taking a row. -/
theorem taken (books : Books database origin offers accepted departed exchanges stream) {row : Value}
    {run : Run WriteStream τ Unit} (taken : Taken row stream start run) :
    ∃ more, Books database origin (offers ++ if stream.closed then [] else [row]) more departed
      (exchanges ++ run.exchanges) run.state := by
  cases taken with
  | closed closed =>
      rw [if_pos closed, List.append_nil, List.append_nil]
      exact ⟨accepted, books⟩
  | nameless live bare names columns failure =>
      obtain ⟨nameless, none⟩ := books.bare bare
      have still : (offers ++ [row]).findSome? naming? = Option.none := by
        rw [List.findSome?_append, nameless, Option.none_or, List.findSome?_singleton, names]
      rw [if_neg (by simp [live]), List.append_nil]
      refine ⟨accepted, books.table, books.replaces, books.size, books.shut, fun _ => ⟨still, none⟩,
        fun _ held => (nomatch bare.symm.trans held), ?_, books.balance, books.only, ?_, books.total⟩
      · rw [none, columnsOf_none still]
        exact accepts_nameless (List.forall_mem_nil _) (List.findSome?_eq_none_iff.mp still)
      · rw [columnsOf_none still, ← columnsOf_none nameless]
        exact books.faithful
  | unfit live prepares fails =>
      obtain ⟨named, texts⟩ := books.prepared_texts prepares
      have unfit : Accepts _ [row] [] := .refused (fun parameters fits =>
        nomatch fails.symm.trans ((rowParameters_eq_ok named texts).mpr fits)) .nil
      have offered := books.offer live prepares unfit
      rw [if_neg (by simp [live]), List.append_nil]
      rw [List.append_nil, List.append_nil] at offered
      exact ⟨accepted, offered⟩
  | accepted live prepares fits =>
      obtain ⟨named, texts⟩ := books.prepared_texts prepares
      rw [if_neg (by simp [live]), List.append_nil]
      exact ⟨_, books.offer live prepares (.accepted ((rowParameters_eq_ok named texts).mp fits) .nil)⟩

/-- A batch that left without a change of the columns. -/
theorem depart (books : Books database origin offers accepted departed exchanges stream)
    {statement after : Statement} (holds : stream.statement = some statement)
    (same : after.sql = statement.sql) (live : after.finalized = false) {run : Run WriteStream τ Unit}
    (faithful : (Departure.flushed stream run).Faithful database statement.sql)
    (keeps : run.state = { stream with
      waiting := []
      statement := some after
      rowsWritten := stream.rowsWritten + (Departure.flushed stream run).written }) :
    Books database origin offers accepted (departed ++ [.flushed stream run])
      (exchanges ++ run.exchanges) run.state := by
  obtain ⟨named, text, -⟩ := books.holds statement holds
  have known : columnsOf offers = stream.columns := by rw [columnsOf, named, Option.getD_some]
  rw [keeps]
  refine ⟨books.table, books.replaces, books.size, fun _ => rfl, nofun, fun other held => ?_,
    books.accepts, ?_, ?_, fun other written => ?_, ?_⟩
  · cases held
    exact ⟨named, same ▸ text, fun _ => live⟩
  · rw [List.flatMap_append, List.flatMap_singleton, List.append_nil]
    exact books.balance
  · rw [List.flatMap_append, List.flatMap_singleton, statements_append, statements_append, books.only]
    rfl
  · rw [known, text] at written
    cases written
    exact List.forall_mem_append.mpr ⟨books.faithful _ (known ▸ text),
      List.forall_mem_singleton.mpr faithful⟩
  · rw [List.map_append, List.sum_append, ← books.total]
    simp

/-- What comes of writing the batch. -/
theorem flushed (books : Books database origin offers accepted departed exchanges stream)
    {run : Run WriteStream τ Unit} (runs : (flush database).runOn engine stream start = run) :
    Books database origin offers accepted (departed ++ [.flushed stream run])
      (exchanges ++ run.exchanges) run.state ∧ run.state.waiting = [] := by
  by_cases idle : stream.waiting = []
  · rw [flush_idle engine database start idle] at runs
    subst runs
    refine ⟨⟨books.table, books.replaces, books.size, books.shut, books.bare, books.holds,
      books.accepts, ?_, ?_, fun text written => ?_, ?_⟩, idle⟩
    · simpa [Departure.rows, idle] using books.balance
    · simpa [Departure.exchanges] using books.only
    · refine List.forall_mem_append.mpr ⟨books.faithful text written, List.forall_mem_singleton.mpr ?_⟩
      exact ⟨fun _ => ⟨rfl, rfl⟩, fun filled => absurd idle filled, nofun⟩
    · simpa [Departure.written, idle] using books.total
  · have live : stream.closed = false :=
      Bool.eq_false_iff.mpr fun closed => idle (books.shut closed)
    obtain ⟨statement, holds⟩ : ∃ statement, stream.statement = some statement :=
      Option.ne_none_iff_exists'.mp fun bare => idle (books.waiting_bare bare).1
    obtain ⟨named, text, stays⟩ := books.holds statement holds
    have given : ∀ row ∈ stream.waiting, row.isNull = false := fun row member =>
      books.accepts.given row (books.balance ▸ List.mem_append_right _ member)
    have flushes := flush_flushed engine database start holds (stays live) given (insertText_apart text)
    rw [runs] at flushes
    cases flushes with
    | idle bare => exact absurd bare idle
    | written filled same kept writes final =>
        refine ⟨books.depart holds same kept ?_ rfl, rfl⟩
        exact ⟨fun bare => absurd bare filled, fun _ _ => writes, nofun⟩
    | failed filled same kept attempts failure final =>
        refine ⟨books.depart holds same kept ?_ rfl, rfl⟩
        exact ⟨fun bare => absurd bare filled, fun _ returns => (nomatch returns), fun _ _ => attempts⟩

/-- What comes of releasing the statement when no row waits. -/
theorem released (books : Books database origin offers accepted departed exchanges stream)
    (idle : stream.waiting = []) {run : Run WriteStream τ Unit}
    (released : Released engine stream start run) :
    Books database origin offers accepted departed (exchanges ++ run.exchanges) run.state ∧
      run.state.waiting = [] := by
  cases released with
  | bare none =>
      rw [List.append_nil]
      exact ⟨⟨books.table, books.replaces, books.size, fun _ => idle, books.bare,
        fun _ held => (nomatch none.symm.trans held), books.accepts, books.balance, books.only,
        books.faithful, books.total⟩, idle⟩
  | @finalized statement holds run finalized =>
      obtain ⟨named, text, -⟩ := books.holds statement holds
      have ends : run.state.sql = statement.sql ∧ statements run.exchanges = [] := by
        cases finalized <;> exact ⟨rfl, rfl⟩
      refine ⟨⟨books.table, books.replaces, books.size, fun _ => idle, nofun, fun other held => ?_,
        books.accepts, books.balance, ?_, books.faithful, books.total⟩, idle⟩
      · cases held
        exact ⟨named, ends.1 ▸ text, nofun⟩
      · rw [statements_append, ends.2, List.append_nil]
        exact books.only

/-- Rows are dropped. -/
theorem dropped (books : Books database origin offers accepted departed exchanges stream) :
    Books database origin offers accepted (departed ++ [.dropped stream.waiting]) exchanges
      { stream with waiting := [] } := by
  refine ⟨books.table, books.replaces, books.size, fun _ => rfl, books.bare, books.holds,
    books.accepts, ?_, ?_, fun text written => ?_, ?_⟩
  · simpa [Departure.rows] using books.balance
  · simpa [Departure.exchanges] using books.only
  · exact List.forall_mem_append.mpr ⟨books.faithful text written,
      List.forall_mem_singleton.mpr trivial⟩
  · simpa [Departure.written] using books.total

/-- What comes of closing a stream. The statement is released also where the last batch failed. -/
theorem closed (books : Books database origin offers accepted departed exchanges stream)
    {run : Run WriteStream τ Unit} (runs : (close database).runOn engine stream start = run) :
    Books database origin offers accepted
      (departed ++ if stream.closed then [] else [flushing engine database stream start])
      (exchanges ++ run.exchanges) run.state ∧ run.state.waiting = [] := by
  subst runs
  cases shut : stream.closed with
  | true =>
      simp only [close, runOn_bind, runOn_get, Run.follow, shut, if_true, runOn_pure,
        List.append_nil]
      exact ⟨books, books.shut shut⟩
  | false =>
      simp only [close, runOn_bind, runOn_get, Run.follow, shut, Bool.false_eq_true, if_false,
        List.nil_append, runOn_ensuring, Run.afterwards]
      rw [flushing]
      generalize runs : (flush database).runOn engine stream start = first
      obtain ⟨after, idle⟩ := books.flushed runs
      have released := release_released engine first.final first.state
      generalize release.runOn engine first.state first.final = last at released
      obtain ⟨ends, still⟩ := after.released idle released
      rw [← List.append_assoc]
      exact ⟨ends, still⟩

theorem aborted (books : Books database origin offers accepted departed exchanges stream)
    {run : Run WriteStream τ Unit} (runs : abort.runOn engine stream start = run) :
    Books database origin offers accepted (departed ++ [.dropped stream.waiting])
      (exchanges ++ run.exchanges) run.state ∧ run.state.waiting = [] := by
  subst runs
  simp only [abort, runOn_bind, runOn_modify, Run.follow, List.nil_append]
  exact books.dropped.released rfl (release_released engine start _)

/-- There is room for another row. -/
theorem settled (books : Books database origin offers accepted departed exchanges stream)
    (positive : 0 < origin.batchSize) {run : Run WriteStream τ Unit}
    (runs : (settle database).runOn engine stream start = run) :
    Books database origin offers accepted
      (departed ++ if stream.batchSize ≤ stream.waiting.length then
        [flushing engine database stream start] else []) (exchanges ++ run.exchanges) run.state ∧
      (run.state.waiting.length : Int) < origin.batchSize := by
  subst runs
  by_cases full : stream.batchSize ≤ stream.waiting.length
  · simp only [settle, runOn_bind, runOn_get, Run.follow, full, if_true, List.nil_append, flushing]
    obtain ⟨after, idle⟩ := books.flushed rfl
    exact ⟨after, by rw [idle]; exact positive⟩
  · simp only [settle, runOn_bind, runOn_get, Run.follow, full, if_false, runOn_pure, List.append_nil]
    exact ⟨books, by have := books.size; omega⟩

/-- What comes of writing a row. -/
theorem wrote (books : Books database origin offers accepted departed exchanges stream)
    (positive : 0 < origin.batchSize) (room : (stream.waiting.length : Int) < origin.batchSize)
    {row : Value} {run : Run WriteStream τ Unit}
    (runs : (write database row).runOn engine stream start = run) :
    ∃ more, Books database origin (offers ++ offering ⟨row, stream, start, run⟩) more
        (departed ++ writing engine database row stream start) (exchanges ++ run.exchanges) run.state ∧
      (run.state.waiting.length : Int) < origin.batchSize := by
  have taken := take_taken engine row stream start
  rw [write_eq_bind, runOn_bind] at runs
  subst runs
  rw [writing]
  generalize (take row).runOn engine stream start = first at taken
  obtain ⟨more, after⟩ := books.taken taken
  refine ⟨more, ?_⟩
  obtain ⟨outcome, state, final, others⟩ := first
  cases outcome with
  | error failure =>
      simp only [Run.follow, List.append_nil]
      exact ⟨after, by rw [taken.waiting rfl]; exact room⟩
  | ok _ =>
      obtain ⟨ends, room⟩ := after.settled positive rfl
      simp only [Run.follow]
      rw [← List.append_assoc]
      exact ⟨ends, room⟩

/-- What comes of writing rows up to the first failure. -/
theorem wroteAll (books : Books database origin offers accepted departed exchanges stream)
    (positive : 0 < origin.batchSize) (room : (stream.waiting.length : Int) < origin.batchSize)
    {rows : List Value} {run : Run WriteStream τ Nat}
    (runs : (writeAll database rows).runOn engine stream start = run) :
    ∃ more, Books database origin
        (offers ++ (writes engine database rows stream start).flatMap offering) more
        (departed ++ (writes engine database rows stream start).flatMap fun written =>
          writing engine database written.call written.state written.start)
        (exchanges ++ run.exchanges) run.state ∧
      (run.state.waiting.length : Int) < origin.batchSize := by
  induction rows generalizing offers accepted departed exchanges stream start run with
  | nil =>
      subst runs
      simp only [writes, List.flatMap_nil, List.append_nil, writeAll, runOn_pure]
      exact ⟨accepted, books, room⟩
  | cons row rest inductionHypothesis =>
      subst runs
      rw [writes, writeAll, runOn_bind]
      generalize runs : (write database row).runOn engine stream start = first
      obtain ⟨more, after, still⟩ := books.wrote positive room runs
      simp only [List.flatMap_cons, ← List.append_assoc]
      cases ends : first.outcome with
      | error failure =>
          simp only [Run.follow, ends, List.flatMap_nil, List.append_nil]
          exact ⟨more, after, still⟩
      | ok _ =>
          simp only [Run.follow, ends, runOn_bind]
          generalize others : (writeAll database rest).runOn engine first.state first.final = last
          obtain ⟨all, after, still⟩ := inductionHypothesis after still others
          refine ⟨all, ?_⟩
          obtain ⟨outcome, state, final, asked⟩ := last
          rw [List.append_assoc exchanges] at after
          cases outcome <;> simp only [runOn_pure, List.append_nil] <;> exact ⟨after, still⟩

theorem performed (books : Books database origin offers accepted departed exchanges stream)
    (positive : 0 < origin.batchSize) (room : (stream.waiting.length : Int) < origin.batchSize)
    {call : Call} {run : Run WriteStream τ Unit}
    (runs : (call.perform database).runOn engine stream start = run) :
    ∃ more, Books database origin
        (offers ++ (writesOf engine database ⟨call, stream, start, run⟩).flatMap offering) more
        (departed ++ departing engine database ⟨call, stream, start, run⟩)
        (exchanges ++ run.exchanges) run.state ∧
      (run.state.waiting.length : Int) < origin.batchSize := by
  cases call with
  | write row =>
      simp only [writesOf, departing, List.flatMap_singleton]
      exact books.wrote positive room runs
  | writeAll rows =>
      rw [Call.perform, runOn_bind] at runs
      generalize wrote : (WriteStream.writeAll database rows).runOn engine stream start = first at runs
      obtain ⟨more, after, still⟩ := books.wroteAll positive room wrote
      refine ⟨more, ?_⟩
      subst runs
      obtain ⟨outcome, state, final, asked⟩ := first
      simp only [writesOf, departing]
      cases outcome <;> simp only [Run.follow, runOn_pure, List.append_nil] <;> exact ⟨after, still⟩
  | flush =>
      rw [Call.perform] at runs
      obtain ⟨after, idle⟩ := books.flushed runs
      simp only [writesOf, departing, List.flatMap_nil, List.append_nil, flushing, runs]
      exact ⟨accepted, after, by rw [idle]; exact positive⟩
  | close =>
      rw [Call.perform] at runs
      obtain ⟨after, idle⟩ := books.closed runs
      simp only [writesOf, departing, List.flatMap_nil, List.append_nil]
      exact ⟨accepted, after, by rw [idle]; exact positive⟩
  | abort =>
      rw [Call.perform] at runs
      obtain ⟨after, idle⟩ := books.aborted runs
      simp only [writesOf, departing, List.flatMap_nil, List.append_nil]
      exact ⟨accepted, after, by rw [idle]; exact positive⟩

end Books

end WriteStream

end Tabular
