import Tabular.Proofs.Statement.Execution
import Tabular.Stream.Read

/-!
This module tells what a stream of rows asks of its statement. It asks for a chunk where no row waits
and the end is not known yet, and it closes itself at the end and after a failure.
-/

namespace Tabular

namespace Statement

open Tabular.Action

variable {τ : Type}

/-- What comes of asking a statement for its next rows. -/
inductive Took (engine : Engine τ) (database : Database) (count : Int) (statement : Statement)
    (start : τ) : Run Statement τ (List Row) → Prop where
  | refused {run : Run Statement τ Cursor} (reached : Reached engine database statement start run)
      {failure : Failure} (fails : run.outcome = .error failure) :
      Took engine database count statement start
        ⟨.error failure, run.state, run.final, run.exchanges⟩
  | answered {run : Run Statement τ Cursor} (reached : Reached engine database statement start run)
      {cursor : Cursor} (reaches : run.outcome = .ok cursor) {answer : Except Outside (List Row)}
      {final : τ} (answers : engine.answer (.fetchMany cursor count) run.final = (answer, final)) :
      Took engine database count statement start
        ⟨raised run.state.sql run.state.parameters answer, run.state, final,
          run.exchanges ++ [⟨.fetchMany cursor count, answer⟩]⟩

theorem many_took (engine : Engine τ) (database : Database) (count : Int) (statement : Statement)
    (start : τ) :
    Took engine database count statement start
      ((many database count).runOn engine statement start) := by
  have reached := executed_reached engine database statement start
  simp only [many, fetched, runOn_bind, Run.follow]
  generalize (executed database).runOn engine statement start = run at reached
  cases reaches : run.outcome with
  | error failure => exact .refused reached reaches
  | ok cursor =>
      simp only [runOn_fetchMany, runOn_get, runOn_attached, List.append_nil]
      exact .answered reached reaches rfl

end Statement

namespace ReadStream

theorem make_eq_ok {prefetch : Int} {owns : Bool} {stream : ReadStream} :
    make prefetch owns = .ok stream ↔
      0 < prefetch ∧ stream = { prefetch, finalizeStatement := owns } := by
  constructor
  · intro made
    rw [make] at made
    split at made
    · cases made
    · rename_i positive
      cases made
      exact ⟨Int.not_le.mp positive, rfl⟩
  · rintro ⟨positive, rfl⟩
    exact if_neg (Int.not_le.mpr positive)

/-- A stream that is closed keeps no rows. -/
def shut (stream : ReadStream) : ReadStream := { stream with closed := true, waiting := [] }

/-- Rows that were fetched wait. A chunk that is not full is the last one. -/
def receive (stream : ReadStream) (rows : List Row) : ReadStream :=
  { stream with
    waiting := stream.waiting ++ rows
    endOfData := stream.endOfData || decide ((rows.length : Int) < stream.prefetch) }

/-- The first row is delivered and others wait. -/
def deliver (stream : ReadStream) (rest : List Row) : ReadStream :=
  { stream with waiting := rest, totalRows := stream.totalRows + 1 }

end ReadStream

namespace Reading

open Tabular.Action Statement

variable {τ : Type}

/-- What comes of closing a stream. It finalizes its statement only if it owns it. -/
inductive Closed (engine : Engine τ) (reading : Reading) (start : τ) : Run Reading τ Unit → Prop where
  | already (closed : reading.stream.closed = true) :
      Closed engine reading start ⟨.ok (), reading, start, []⟩
  | borrowed (live : reading.stream.closed = false)
      (borrows : reading.stream.finalizeStatement = false) :
      Closed engine reading start
        ⟨.ok (), { reading with stream := reading.stream.shut }, start, []⟩
  | owned (live : reading.stream.closed = false) (owns : reading.stream.finalizeStatement = true)
      {run : Run Statement τ Unit} (finalized : Finalized engine reading.statement start run) :
      Closed engine reading start
        ⟨.ok (), ⟨run.state, reading.stream.shut⟩, run.final, run.exchanges⟩

/-- What comes of fetching a chunk. A failure closes the stream. -/
inductive Chunked (engine : Engine τ) (database : Database) (reading : Reading) (start : τ) :
    Run Reading τ Unit → Prop where
  | failed {run : Run Statement τ (List Row)}
      (took : Took engine database reading.stream.prefetch reading.statement start run)
      {failure : Failure} (fails : run.outcome = .error failure) {last : Run Reading τ Unit}
      (closes : Closed engine { reading with statement := run.state } run.final last) :
      Chunked engine database reading start
        ⟨.error failure, last.state, last.final, run.exchanges ++ last.exchanges⟩
  | received {run : Run Statement τ (List Row)}
      (took : Took engine database reading.stream.prefetch reading.statement start run)
      {rows : List Row} (gives : run.outcome = .ok rows) :
      Chunked engine database reading start
        ⟨.ok (), ⟨run.state, reading.stream.receive rows⟩, run.final, run.exchanges⟩

/-- A stream looks for its next row. It fetches a chunk only where no row waits and more may come. -/
inductive Looked (engine : Engine τ) (database : Database) (reading : Reading) (start : τ) :
    Run Reading τ Unit → Prop where
  | known (settled : reading.stream.waiting ≠ [] ∨ reading.stream.endOfData = true ∨
      reading.stream.closed = true) :
      Looked engine database reading start ⟨.ok (), reading, start, []⟩
  | fetched (bare : reading.stream.waiting = []) (more : reading.stream.endOfData = false)
      (live : reading.stream.closed = false) {run : Run Reading τ Unit}
      (chunked : Chunked engine database reading start run) :
      Looked engine database reading start run

/-- What comes of asking for the next row. Without one the stream is closed. -/
inductive Advanced (engine : Engine τ) (database : Database) (reading : Reading) (start : τ) :
    Run Reading τ (Option Row) → Prop where
  | failed {run : Run Reading τ Unit} (looked : Looked engine database reading start run)
      {failure : Failure} (fails : run.outcome = .error failure) :
      Advanced engine database reading start
        ⟨.error failure, run.state, run.final, run.exchanges⟩
  | delivered {run : Run Reading τ Unit} (looked : Looked engine database reading start run)
      (finds : run.outcome = .ok ()) {row : Row} {rest : List Row}
      (waits : run.state.stream.waiting = row :: rest) :
      Advanced engine database reading start
        ⟨.ok (some row), { run.state with stream := run.state.stream.deliver rest }, run.final,
          run.exchanges⟩
  | finished {run : Run Reading τ Unit} (looked : Looked engine database reading start run)
      (finds : run.outcome = .ok ()) (bare : run.state.stream.waiting = [])
      {last : Run Reading τ Unit} (closes : Closed engine run.state run.final last) :
      Advanced engine database reading start
        ⟨.ok none, last.state, last.final, run.exchanges ++ last.exchanges⟩

/-- What comes of reading some rows. A read goes on from row to row until there are enough, until no row is
left, or until one cannot be fetched. -/
inductive Gathered (engine : Engine τ) (database : Database) :
    Nat → Reading → τ → Run Reading τ (List Row) → Prop where
  | enough (reading : Reading) (start : τ) :
      Gathered engine database 0 reading start ⟨.ok [], reading, start, []⟩
  | failed {count : Nat} {reading : Reading} {start : τ} {run : Run Reading τ (Option Row)}
      (advanced : Advanced engine database reading start run) {failure : Failure}
      (fails : run.outcome = .error failure) :
      Gathered engine database (count + 1) reading start
        ⟨.error failure, run.state, run.final, run.exchanges⟩
  | ended {count : Nat} {reading : Reading} {start : τ} {run : Run Reading τ (Option Row)}
      (advanced : Advanced engine database reading start run) (gives : run.outcome = .ok none) :
      Gathered engine database (count + 1) reading start
        ⟨.ok [], run.state, run.final, run.exchanges⟩
  | went {count : Nat} {reading : Reading} {start : τ} {run : Run Reading τ (Option Row)}
      (advanced : Advanced engine database reading start run) {row : Row}
      (gives : run.outcome = .ok (some row)) {rest : Run Reading τ (List Row)}
      (others : Gathered engine database count run.state run.final rest) :
      Gathered engine database (count + 1) reading start
        ⟨rest.outcome.map (row :: ·), rest.state, rest.final, run.exchanges ++ rest.exchanges⟩

/-- Closing a stream always returns. -/
theorem Closed.returns {engine : Engine τ} {reading : Reading} {start : τ} {run : Run Reading τ Unit}
    (closed : Closed engine reading start run) : run.outcome = .ok () := by
  cases closed <;> rfl

variable (engine : Engine τ) (database : Database) (reading : Reading) (start : τ)

theorem close_closed : Closed engine reading start (close.runOn engine reading start) := by
  obtain ⟨statement, prefetch, owns, waiting, endOfData, closed, totalRows⟩ := reading
  cases closed with
  | true => exact .already rfl
  | false =>
      cases owns with
      | false => exact .borrowed rfl rfl
      | true =>
          have finalized := finalize_finalized engine statement start
          simp only [close, update, onStatement, runOn_bind, Run.follow, runOn_get, runOn_modify,
            Bool.false_eq_true, if_false, if_true, runOn_onPart, finalized.returns]
          exact .owned rfl rfl finalized

theorem fetchChunk_chunked :
    Chunked engine database reading start ((fetchChunk database).runOn engine reading start) := by
  have took := many_took engine database reading.stream.prefetch reading.statement start
  simp only [fetchChunk, onStatement, runOn_bind, Run.follow, runOn_get, runOn_attempt, runOn_onPart]
  generalize (many database reading.stream.prefetch).runOn engine reading.statement start = run at took
  obtain ⟨outcome, statement, final, exchanges⟩ := run
  cases outcome with
  | error failure =>
      have closes := close_closed engine { reading with statement } final
      simp only [runOn_bind, Run.follow, closes.returns, runOn_throw, List.append_nil]
      exact .failed took rfl closes
  | ok rows =>
      simp only [update, runOn_modify, List.append_nil, List.nil_append]
      exact .received took rfl

/-- This action fetches a chunk where it is not known whether a row follows. -/
def look : Action Reading Unit := do
  let stream := (← get).stream
  if stream.waiting.isEmpty && !stream.endOfData && !stream.closed then fetchChunk database

/-- This action delivers the first row that waits. Without one it closes the stream. -/
def hand : Action Reading (Option Row) := do
  match (← get).stream.waiting with
  | [] =>
      close
      pure none
  | row :: rest =>
      update fun stream => stream.deliver rest
      pure (some row)

theorem next_eq_bind : next database = look database >>= fun _ => hand := by
  simp only [next, look, bind_assoc]
  refine bind_congr fun reading => ?_
  split <;> rfl

theorem look_looked : Looked engine database reading start
    ((look database).runOn engine reading start) := by
  simp only [look, runOn_bind, runOn_get, Run.follow, List.nil_append]
  split
  · rename_i asks
    simp only [Bool.and_eq_true, List.isEmpty_iff, Bool.not_eq_true'] at asks
    exact .fetched asks.1.1 asks.1.2 asks.2 (fetchChunk_chunked engine database reading start)
  · rename_i settled
    refine .known ?_
    simp only [Bool.and_eq_true, List.isEmpty_iff, Bool.not_eq_true', Bool.not_eq_false,
      Decidable.not_and_iff_or_not, or_assoc] at settled
    exact settled

theorem next_advanced :
    Advanced engine database reading start ((next database).runOn engine reading start) := by
  have looked := look_looked engine database reading start
  rw [next_eq_bind, runOn_bind]
  generalize (look database).runOn engine reading start = run at looked
  cases finds : run.outcome with
  | error failure =>
      simp only [Run.follow, finds]
      exact .failed looked finds
  | ok _ =>
      simp only [hand, Run.follow, finds, runOn_bind, runOn_get, List.nil_append]
      cases waits : run.state.stream.waiting with
      | nil =>
          have closes := close_closed engine run.state run.final
          simp only [runOn_bind, Run.follow, closes.returns, runOn_pure, List.append_nil]
          exact .finished looked finds waits closes
      | cons row rest =>
          simp only [update, runOn_bind, runOn_modify, Run.follow, runOn_pure, List.append_nil]
          exact .delivered looked finds waits

/-- Reading any number of rows, by induction on the number. -/
theorem read_gathered (count : Nat) : Gathered engine database count reading start
    ((read database count).runOn engine reading start) := by
  induction count generalizing reading start with
  | zero => exact .enough reading start
  | succ count inductionHypothesis =>
      have advanced := next_advanced engine database reading start
      rw [read, runOn_bind, Run.follow]
      generalize (next database).runOn engine reading start = run at advanced
      cases gives : run.outcome with
      | error failure => exact .failed advanced gives
      | ok found =>
          cases found with
          | none =>
              simp only [runOn_pure, List.append_nil]
              exact .ended advanced gives
          | some row =>
              simp only [runOn_wrap]
              exact .went advanced gives (inductionHypothesis run.state run.final)

end Reading

end Tabular
