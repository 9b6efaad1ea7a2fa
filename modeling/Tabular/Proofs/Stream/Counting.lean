import Mathlib.Algebra.Ring.Nat
import Tabular.Proofs.Stream.Fetching

/-!
This module counts the rows of a stream. The rows that it delivered and those that wait are the rows
of all its chunks, and once the stream is closed it asks for nothing more.
-/

namespace Tabular

namespace Exchange

/-- The number of rows that a fetch of a chunk gave. -/
def chunkSize : Exchange → Nat
  | ⟨.fetchMany _ _, .ok rows⟩ => rows.length
  | _ => 0

def fetchedRows (exchanges : List Exchange) : Nat := (exchanges.map chunkSize).sum

/-- The rows of two parts are counted together. -/
theorem fetchedRows_append (first second : List Exchange) :
    fetchedRows (first ++ second) = fetchedRows first + fetchedRows second := by
  rw [fetchedRows, List.map_append, List.sum_append, fetchedRows, fetchedRows]

end Exchange

open Tabular.Action Exchange

variable {τ : Type} {engine : Engine τ} {database : Database} {start : τ}

namespace Statement

variable {statement : Statement}

/-- Reaching the cursor fetches no row. -/
theorem Reached.fetchedRows {run : Run Statement τ Cursor}
    (reached : Reached engine database statement start run) : fetchedRows run.exchanges = 0 := by
  cases reached <;> rfl

/-- Finalizing a statement fetches no row. -/
theorem Finalized.fetchedRows {run : Run Statement τ Unit}
    (finalized : Finalized engine statement start run) : fetchedRows run.exchanges = 0 := by
  cases finalized <;> rfl

/-- A chunk that fails gives no rows. -/
theorem Took.fetchedRows {count : Int} {run : Run Statement τ (List Row)}
    (took : Took engine database count statement start run) :
    fetchedRows run.exchanges = (run.outcome.toOption.getD []).length := by
  cases took with
  | refused reached fails => exact reached.fetchedRows
  | @answered first reached cursor reaches answer final answers =>
      rw [fetchedRows_append, reached.fetchedRows, Nat.zero_add]
      cases answer <;> rfl

end Statement

namespace Reading

/-- A call on a stream of rows. -/
inductive Call where
  | next
  | read (count : Int)
  | close

namespace Call

/-- The number of rows that a call asks for. -/
def wants : Call → Nat
  | .next => 1
  | .read count => count.toNat
  | .close => 0

/-- This action makes a call and gives the rows that it returns. -/
def perform (database : Database) : Call → Action Reading (List Row)
  | .next => do pure (← Reading.next database).toList
  | .read count => Reading.read database count.toNat
  | .close => do
      Reading.close
      pure []

theorem runOn_next (engine : Engine τ) (database : Database) (reading : Reading) (start : τ) :
    (Call.next.perform database).runOn engine reading start =
      let run := (Reading.next database).runOn engine reading start
      ⟨run.outcome.map Option.toList, run.state, run.final, run.exchanges⟩ := by
  rw [perform, runOn_wrap]

end Call

variable {reading : Reading}

/-! ## A stream that is closed -/

/-- A closed stream without waiting rows delivers none and asks for nothing. -/
theorem next_shut (engine : Engine τ) (database : Database) (start : τ)
    (closed : reading.stream.closed = true) (bare : reading.stream.waiting = []) :
    (next database).runOn engine reading start = ⟨.ok none, reading, start, []⟩ := by
  obtain ⟨statement, prefetch, owns, waiting, endOfData, shut, totalRows⟩ := reading
  cases closed
  cases bare
  simp [next, close, runOn_bind, Run.follow]

/-- Nor does it when several rows are read. -/
theorem read_shut (engine : Engine τ) (database : Database) (start : τ)
    (closed : reading.stream.closed = true) (bare : reading.stream.waiting = []) (count : Nat) :
    (read database count).runOn engine reading start = ⟨.ok [], reading, start, []⟩ := by
  cases count with
  | zero => rfl
  | succ count =>
      rw [read, runOn_bind, next_shut engine database start closed bare]
      rfl

/-- On a stream that is closed, every call reports the end and asks for nothing. -/
theorem perform_shut (engine : Engine τ) (database : Database) (start : τ)
    (closed : reading.stream.closed = true) (bare : reading.stream.waiting = []) (call : Call) :
    (call.perform database).runOn engine reading start = ⟨.ok [], reading, start, []⟩ := by
  cases call with
  | read count =>
      rw [Call.perform]
      exact read_shut engine database start closed bare count.toNat
  | next =>
      rw [Call.runOn_next, next_shut engine database start closed bare]
      rfl
  | close =>
      simp only [Call.perform, close, runOn_bind, Run.follow, runOn_get, closed, if_true, runOn_pure,
        List.nil_append]

/-- No later call gets a row from it. -/
theorem plays_shut (engine : Engine τ) (database : Database) (start : τ)
    (closed : reading.stream.closed = true) (bare : reading.stream.waiting = []) (calls : List Call) :
    ∀ turn ∈ (plays engine (Call.perform database) calls reading start).turns,
      turn.run = ⟨.ok [], reading, start, []⟩ := by
  induction calls with
  | nil => simp [plays]
  | cons call rest inductionHypothesis =>
      simp only [plays, perform_shut engine database start closed bare, List.mem_cons,
        forall_eq_or_imp, true_and]
      exact inductionHypothesis

/-! ## The rows of all chunks -/

/-- The rows that are delivered or wait are those that were fetched. A closed stream keeps none. -/
structure Counted (before : List Exchange) (reading : Reading) : Prop where
  live : reading.stream.closed = false →
    reading.stream.totalRows + reading.stream.waiting.length = fetchedRows before
  shut : reading.stream.closed = true → reading.stream.waiting = []

/-- A closed stream without waiting rows is counted after everything. -/
theorem Counted.of_shut {before : List Exchange} {reading : Reading}
    (closed : reading.stream.closed = true) (bare : reading.stream.waiting = []) :
    Counted before reading :=
  ⟨fun live => (nomatch live.symm.trans closed), fun _ => bare⟩

/-- A run that failed has closed the stream. All rows that were fetched before are delivered. -/
structure Halted {α : Type} (before : List Exchange) (run : Run Reading τ α) : Prop where
  fails : ∃ failure, run.outcome = .error failure
  closed : run.state.stream.closed = true
  bare : run.state.stream.waiting = []
  total : run.state.stream.totalRows = fetchedRows (before ++ run.exchanges)

variable {before : List Exchange}

/-- A stream that was closed fetches nothing and keeps its count. -/
theorem Closed.shut {run : Run Reading τ Unit} (closes : Closed engine reading start run)
    (bare : reading.stream.closed = true → reading.stream.waiting = []) :
    run.state.stream.closed = true ∧ run.state.stream.waiting = [] ∧
      run.state.stream.totalRows = reading.stream.totalRows ∧ fetchedRows run.exchanges = 0 := by
  cases closes with
  | already closed => exact ⟨closed, bare closed, rfl, rfl⟩
  | borrowed live borrows => exact ⟨rfl, rfl, rfl, rfl⟩
  | owned live owns finalized => exact ⟨rfl, rfl, rfl, finalized.fetchedRows⟩

/-- Looking for the next row keeps the count, or the stream halts. -/
theorem Counted.looked (counted : Counted before reading) {run : Run Reading τ Unit}
    (looked : Looked engine database reading start run) :
    Halted before run ∨ run.outcome = .ok () ∧ Counted (before ++ run.exchanges) run.state := by
  cases looked with
  | known settled => exact .inr ⟨rfl, (List.append_nil before).symm ▸ counted⟩
  | fetched bare more live chunked =>
      have total := counted.live live
      rw [bare, List.length_nil, Nat.add_zero] at total
      cases chunked with
      | failed took fails closes =>
          obtain ⟨closed, empty, same, silent⟩ := closes.shut fun _ => bare
          refine .inl ⟨⟨_, rfl⟩, closed, empty, same.trans (total.trans ?_)⟩
          simp [fetchedRows_append, took.fetchedRows, fails, silent, Except.toOption]
      | received took gives =>
          refine .inr ⟨rfl, fun _ => ?_, fun closed => nomatch live.symm.trans closed⟩
          simp [ReadStream.receive, fetchedRows_append, took.fetchedRows, gives, Except.toOption,
            total, bare]

/-- So does going on to it. -/
theorem Counted.advanced (counted : Counted before reading) {run : Run Reading τ (Option Row)}
    (advanced : Advanced engine database reading start run) :
    Halted before run ∨
      (∃ found, run.outcome = .ok found) ∧ Counted (before ++ run.exchanges) run.state := by
  cases advanced with
  | failed looked fails =>
      rcases counted.looked looked with halted | ⟨finds, -⟩
      · exact .inl ⟨⟨_, rfl⟩, halted.closed, halted.bare, halted.total⟩
      · exact nomatch fails.symm.trans finds
  | delivered looked finds waits =>
      rcases counted.looked looked with halted | ⟨-, still⟩
      · exact nomatch waits.symm.trans halted.bare
      · refine .inr ⟨⟨_, rfl⟩, fun live => ?_, fun closed => ?_⟩
        rotate_left
        · exact nomatch waits.symm.trans (still.shut closed)
        have total := still.live live
        rw [waits, List.length_cons] at total
        simp only [ReadStream.deliver]
        omega
  | finished looked finds bare closes =>
      obtain ⟨closed, empty, -⟩ := closes.shut fun _ => bare
      exact .inr ⟨⟨_, rfl⟩, .of_shut closed empty⟩

/-- Reading rows keeps the count, or the stream halts. -/
theorem Counted.gathered {count : Nat} (counted : Counted before reading) {run : Run Reading τ (List Row)}
    (gathered : Gathered engine database count reading start run) :
    Halted before run ∨
      (∃ found, run.outcome = .ok found) ∧ Counted (before ++ run.exchanges) run.state := by
  induction gathered generalizing before with
  | enough => exact .inr ⟨⟨[], rfl⟩, (List.append_nil before).symm ▸ counted⟩
  | failed advanced fails =>
      rcases counted.advanced advanced with ⟨-, closed, bare, total⟩ | ⟨⟨found, gives⟩, -⟩
      · exact .inl ⟨⟨_, rfl⟩, closed, bare, total⟩
      · cases fails.symm.trans gives
  | ended advanced gives =>
      rcases counted.advanced advanced with ⟨⟨failure, fails⟩, -⟩ | ⟨-, still⟩
      · cases gives.symm.trans fails
      · exact .inr ⟨⟨[], rfl⟩, still⟩
  | went advanced gives others inductionHypothesis =>
      rcases counted.advanced advanced with ⟨⟨failure, fails⟩, -⟩ | ⟨-, still⟩
      · cases gives.symm.trans fails
      rw [← List.append_assoc]
      rcases inductionHypothesis still with ⟨⟨failure, fails⟩, closed, bare, total⟩ |
        ⟨⟨found, returns⟩, ends⟩
      · exact .inl ⟨⟨failure, by rw [fails]; rfl⟩, closed, bare, total.trans (by rw [List.append_assoc])⟩
      · exact .inr ⟨⟨_, by rw [returns]; rfl⟩, ends⟩

/-- Every call keeps the count, or the stream halts. -/
theorem Counted.performed (counted : Counted before reading) (call : Call)
    {run : Run Reading τ (List Row)}
    (runs : (call.perform database).runOn engine reading start = run) :
    Halted before run ∨
      (∃ found, run.outcome = .ok found) ∧ Counted (before ++ run.exchanges) run.state := by
  cases call with
  | read count =>
      subst runs
      exact counted.gathered (read_gathered engine database reading start count.toNat)
  | next =>
      rw [Call.runOn_next] at runs
      subst runs
      have advanced := next_advanced engine database reading start
      generalize (Reading.next database).runOn engine reading start = first at advanced
      rcases counted.advanced advanced with ⟨⟨failure, fails⟩, closed, bare, total⟩ |
        ⟨⟨found, gives⟩, still⟩
      · exact .inl ⟨⟨failure, by simp only [fails, Except.map]⟩, closed, bare, total⟩
      · exact .inr ⟨⟨found.toList, by simp only [gives, Except.map]⟩, still⟩
  | close =>
      have closes := close_closed engine reading start
      simp only [Call.perform, runOn_bind, Run.follow, closes.returns, runOn_pure,
        List.append_nil] at runs
      subst runs
      obtain ⟨closed, empty, -⟩ := closes.shut counted.shut
      exact .inr ⟨⟨[], rfl⟩, .of_shut closed empty⟩

/-- A stream on which close was called is closed. -/
theorem perform_close_closed (counted : Counted before reading) :
    ((Call.close.perform database).runOn engine reading start).state.stream.closed = true := by
  have closes := close_closed engine reading start
  simp only [Call.perform, runOn_bind, Run.follow, closes.returns, runOn_pure]
  exact (closes.shut counted.shut).1

/-- What is fetched is counted through all calls. -/
theorem plays_counted (engine : Engine τ) (database : Database) {prefetch : Int} {owns : Bool}
    {stream : ReadStream} (made : ReadStream.make prefetch owns = .ok stream) (statement : Statement)
    (start : τ) (calls : List Call) {played}
    (plays : Action.plays engine (Call.perform database) calls ⟨statement, stream⟩ start = played) :
    Counted played.exchanges played.state := by
  subst plays
  have begins : Counted [] ⟨statement, stream⟩ := by
    obtain ⟨-, rfl⟩ := ReadStream.make_eq_ok.mp made
    exact ⟨fun _ => rfl, fun _ => rfl⟩
  refine plays_keep engine (Call.perform database)
    (fun turns reading _ => Counted (Turn.exchanges turns) reading)
    (fun turns reading start call counted => ?_) calls _ start begins
  rw [Turn.exchanges_append, Turn.exchanges_single]
  rcases counted.performed call rfl with ⟨-, closed, bare, -⟩ | ⟨-, still⟩
  · exact .of_shut closed bare
  · exact still

end Reading

end Tabular
