import Tabular.Proofs.Statement.Holding
import Tabular.Proofs.Stream.Counting
import Tabular.Proofs.Stream.Ledger

/-!
This module tells what streams do with the cursors of their statements. A stream of rows that owns its
statement finalizes it when it is closed. A stream for writing rows holds the cursor of its statement
until it is closed, and executes nothing else beside the bounds of a transaction.
-/

namespace Tabular

open Tabular.Action Exchange

variable {τ : Type} {allowed : List String} {engine : Engine τ} {database : Database} {start : τ}

/-- Fetching a chunk handles one cursor at a time. -/
theorem Statement.Took.tends {count : Int} {statement : Statement} {run : Run Statement τ (List Row)}
    (took : Took engine database count statement start run) :
    Tends allowed statement run.exchanges run.state := by
  cases took with
  | refused reached fails => exact reached.tends
  | answered reached reaches answers =>
      exact reached.asking reaches (List.forall_mem_singleton.mpr rfl)

/-! ## Streams of rows -/

/-- A stream that is closed has finalized the statement that it owns. -/
def ReadStream.Releases (stream : ReadStream) (statement : Statement) : Prop :=
  stream.closed = true → stream.finalizeStatement = true → statement.finalized = true

namespace Reading

/-- A stream goes from one state to another, and its statement handles one cursor at a time. -/
structure Tends (allowed : List String) (before : Reading) (exchanges : List Exchange)
    (after : Reading) : Prop where
  statement : Statement.Tends allowed before.statement exchanges after.statement
  releases : before.stream.Releases before.statement → after.stream.Releases after.statement

/-- Two parts that handle one cursor at a time do so together. -/
theorem Tends.append {before middle after : Reading} {earlier later : List Exchange}
    (starts : Tends allowed before earlier middle) (ends : Tends allowed middle later after) :
    Tends allowed before (earlier ++ later) after :=
  ⟨starts.statement.append ends.statement, fun releases => ends.releases (starts.releases releases)⟩

/-- As long as the stream is not closed, its statement may be worked on. -/
theorem Tends.ofStatement {before after : Statement} {stream next : ReadStream}
    {exchanges : List Exchange} (tends : Statement.Tends allowed before exchanges after)
    (same : next.closed = stream.closed) (owner : next.finalizeStatement = stream.finalizeStatement) :
    Tends allowed ⟨before, stream⟩ exchanges ⟨after, next⟩ :=
  ⟨tends, fun releases closed owns =>
    (tends.silent (releases (same.symm.trans closed) (owner.symm.trans owns))).2⟩

theorem Tends.refl (reading : Reading) : Tends allowed reading [] reading := ⟨.refl _, id⟩

variable {reading : Reading}

/-- Closing a stream handles one cursor at a time and releases it where the stream owns it. -/
theorem Closed.tends {run : Run Reading τ Unit} (closed : Closed engine reading start run) :
    Tends allowed reading run.exchanges run.state := by
  cases closed with
  | already closed => exact .refl _
  | borrowed live borrows => exact ⟨.refl _, fun _ _ owns => nomatch borrows.symm.trans owns⟩
  | owned live owns finalized => exact ⟨finalized.tends, fun _ _ _ => finalized.ends⟩

/-- Fetching a chunk for a stream handles one cursor at a time. -/
theorem Chunked.tends {run : Run Reading τ Unit} (chunked : Chunked engine database reading start run) :
    Tends allowed reading run.exchanges run.state := by
  cases chunked with
  | failed took fails closes => exact (Tends.ofStatement took.tends rfl rfl).append closes.tends
  | received took gives => exact .ofStatement took.tends rfl rfl

/-- Looking for the next row does too. -/
theorem Looked.tends {run : Run Reading τ Unit} (looked : Looked engine database reading start run) :
    Tends allowed reading run.exchanges run.state := by
  cases looked with
  | known settled => exact .refl _
  | fetched bare more live chunked => exact chunked.tends

/-- So does going on to it. -/
theorem Advanced.tends {run : Run Reading τ (Option Row)}
    (advanced : Advanced engine database reading start run) :
    Tends allowed reading run.exchanges run.state := by
  cases advanced with
  | failed looked fails => exact looked.tends
  | delivered looked finds waits =>
      have found : Tends allowed reading _ _ := looked.tends
      exact ⟨found.statement, found.releases⟩
  | finished looked finds bare closes => exact looked.tends.append closes.tends

/-- Reading any number of rows handles one cursor at a time. -/
theorem Gathered.tends {count : Nat} {run : Run Reading τ (List Row)}
    (gathered : Gathered engine database count reading start run) :
    Tends allowed reading run.exchanges run.state := by
  induction gathered with
  | enough => exact .refl _
  | failed advanced fails => exact advanced.tends
  | ended advanced gives => exact advanced.tends
  | went advanced gives others inductionHypothesis => exact advanced.tends.append inductionHypothesis

variable (engine database reading start) in
/-- A call on a stream handles the cursor of its statement. -/
theorem perform_tends (call : Call) :
    Tends allowed reading ((call.perform database).runOn engine reading start).exchanges
      ((call.perform database).runOn engine reading start).state := by
  cases call with
  | next =>
      rw [Call.runOn_next]
      exact (next_advanced engine database reading start).tends
  | read count => exact (read_gathered engine database reading start count.toNat).tends
  | close =>
      rw [Call.perform, runOn_bind]
      exact Run.follow_keeps Tends.append (close_closed engine reading start).tends fun _ _ => .refl _

end Reading

/-! ## Streams for writing rows -/

namespace WriteStream

/-- The cursor of the statement. -/
def held (stream : WriteStream) : Option Cursor := stream.statement.bind Statement.cursor

/-- The statement of a stream that is closed is finalized. -/
def Sound (stream : WriteStream) : Prop :=
  ∀ statement, stream.statement = some statement →
    statement.Sound ∧ (stream.closed = true → statement.finalized = true)

/-- A stream that is closed holds no cursor. -/
theorem Sound.held_none {stream : WriteStream} (sound : stream.Sound) (closed : stream.closed = true) :
    stream.held = none := by
  rw [held]
  cases holds : stream.statement with
  | none => rfl
  | some statement =>
      obtain ⟨bare, finalized⟩ := sound statement holds
      exact bare (finalized closed)

/-- A stream goes from one state to another and handles one cursor at a time. The bounds of a
transaction are executed on others. -/
structure Tends (before : WriteStream) (exchanges : List Exchange) (after : WriteStream) : Prop where
  handles : Handles controlTexts before.held exchanges after.held
  sound : before.Sound → after.Sound
  stays : before.closed = true → after.closed = true

variable {stream : WriteStream}

namespace Tends

variable {before middle after : WriteStream} {earlier later exchanges : List Exchange}

theorem refl (stream : WriteStream) : Tends stream [] stream := ⟨.done _, id, id⟩

/-- Two parts that handle one cursor at a time do so together. -/
theorem append (starts : Tends before earlier middle) (ends : Tends middle later after) :
    Tends before (earlier ++ later) after :=
  ⟨starts.handles.append ends.handles, fun sound => ends.sound (starts.sound sound),
    fun closed => ends.stays (starts.stays closed)⟩

/-- Nothing but the statement and the flag of a stream matters. -/
theorem ofSame (same : after.statement = before.statement) (flag : after.closed = before.closed) :
    Tends before [] after := by
  refine ⟨?_, fun sound statement holds => ?_, fun closed => flag.trans closed⟩
  · rw [held, held, same]
    exact .done _
  · rw [flag]
    exact sound statement (same.symm.trans holds)

/-- The bounds of a transaction leave the cursor of a stream alone. -/
theorem apart (apart : Database.Apart allowed exchanges) (subset : allowed ⊆ controlTexts) :
    Tends stream exchanges stream :=
  ⟨(apart.handles _).mono subset, id, id⟩

/-- What its statement handles, the stream handles. -/
theorem ofStatement {statement next : Statement} (holds : stream.statement = some statement)
    (tends : Statement.Tends controlTexts statement exchanges next) :
    Tends stream exchanges { stream with statement := some next } := by
  refine ⟨?_, fun sound other held => ?_, id⟩
  · rw [held, holds]
    exact tends.handles
  · cases held
    obtain ⟨bare, releases⟩ := sound statement holds
    exact ⟨tends.sound bare, fun closed => (tends.silent (releases closed)).2⟩

end Tends

/-- Preparing the statement of a stream handles no cursor. -/
theorem Prepared.tends {row : Value} {prepared : WriteStream} (live : stream.closed = false)
    (prepares : Prepared row stream prepared) : Tends stream [] prepared := by
  cases prepares with
  | already holds => exact .refl _
  | first bare names text =>
      refine ⟨?_, fun _ statement holds => ?_, fun closed => nomatch live.symm.trans closed⟩
      · rw [held, held, bare]
        exact .done _
      · cases holds
        exact ⟨fun _ => rfl, fun closed => nomatch live.symm.trans closed⟩

/-- Taking a row handles no cursor either. -/
theorem Taken.tends {row : Value} {run : Run WriteStream τ Unit} (taken : Taken row stream start run) :
    Tends stream run.exchanges run.state := by
  cases taken with
  | closed closed => exact .refl _
  | nameless live bare names columns failure => exact .ofSame rfl rfl
  | unfit live prepares fails => exact prepares.tends live
  | accepted live prepares fits => exact (prepares.tends live).append (.ofSame rfl rfl)

/-- Releasing a stream handles one cursor at a time and closes the stream. -/
theorem Released.tends {run : Run WriteStream τ Unit} (released : Released engine stream start run) :
    Tends stream run.exchanges run.state ∧ run.state.closed = true := by
  cases released with
  | bare none =>
      exact ⟨⟨.done _, fun _ _ holds => (nomatch none.symm.trans holds), fun _ => rfl⟩, rfl⟩
  | @finalized statement holds run finalized =>
      have tends : Statement.Tends controlTexts statement run.exchanges run.state := finalized.tends
      refine ⟨⟨?_, fun sound other next => ?_, fun _ => rfl⟩, rfl⟩
      · rw [held, holds]
        exact tends.handles
      · cases next
        exact ⟨tends.sound (sound statement holds).1, fun _ => finalized.ends⟩

variable (engine database) (start)

/-- Writing one row handles one cursor at a time. -/
theorem runStatement_tends (stream : WriteStream) (row : Value) :
    Tends stream ((runStatement database row).runOn engine stream start).exchanges
      ((runStatement database row).runOn engine stream start).state := by
  cases holds : stream.statement with
  | none =>
      simp only [runStatement, runOn_bind, runOn_get, Run.follow, holds, runOn_pure, List.append_nil]
      exact .refl _
  | some statement =>
      rw [runOn_runStatement engine database start holds row rfl]
      exact .ofStatement holds (Statement.bind_bound engine database statement start row).tends

/-- Writing buffered rows does too, by induction on the rows. -/
theorem runAll_tends (rows : List Value) (stream : WriteStream) :
    Tends stream ((runAll database rows).runOn engine stream start).exchanges
      ((runAll database rows).runOn engine stream start).state := by
  induction rows generalizing stream start with
  | nil => exact .refl _
  | cons row rest inductionHypothesis =>
      rw [runAll, runOn_bind]
      exact Run.follow_keeps Tends.append (runStatement_tends engine database start stream row)
        fun _ _ => inductionHypothesis _ _

variable {engine database start} in
/-- Writing them inside a transaction handles one cursor at a time besides the bounds. -/
theorem tends_enclosed {rows : List Value} {run : Run WriteStream τ Unit}
    (encloses : Database.Enclosed engine database (runAll database rows) stream start run) :
    Tends stream run.exchanges run.state := by
  have bounds : [commitText, rollbackText] ⊆ controlTexts := List.subset_cons_self _ _
  cases encloses with
  | refused failure final outside =>
      exact .apart outside (List.cons_subset_cons _ (List.nil_subset _))
  | joined opened runs =>
      subst runs
      exact (Tends.apart Database.Apart.nil.asked (List.nil_subset _)).append
        (runAll_tends engine database _ rows stream)
  | committed opened runs returns first last begun ended final =>
      subst runs
      exact ((Tends.apart (.begun List.mem_cons_self) (List.Subset.refl _)).append
        (runAll_tends engine database _ rows stream)).append
        (.apart (.executed List.mem_cons_self _ _ _) bounds)
  | failed opened runs first begun outside failure final =>
      subst runs
      exact ((Tends.apart (.begun List.mem_cons_self) (List.Subset.refl _)).append
        (runAll_tends engine database _ rows stream)).append (.apart outside bounds)

/-- Flushing a stream handles one cursor at a time. -/
theorem flush_tends (stream : WriteStream) :
    Tends stream ((flush database).runOn engine stream start).exchanges
      ((flush database).runOn engine stream start).state := by
  rw [flush, runOn_bind]
  refine Run.follow_keeps Tends.append (.refl stream) fun found _ => ?_
  dsimp only
  split
  · exact .refl _
  rw [runOn_bind]
  refine Run.follow_keeps Tends.append (.ofSame rfl rfl) fun _ _ => ?_
  rw [runOn_bind]
  refine Run.follow_keeps Tends.append
    (tends_enclosed (Database.transaction_enclosed engine database _ _ _)) fun _ _ => ?_
  rw [runOn_bind]
  refine Run.follow_keeps Tends.append (.ofSame rfl rfl) fun _ _ => ?_
  exact ⟨.quiet rfl rfl (.done _), id, id⟩

/-- Accepting a row does too, with the flush that it may cause. -/
theorem write_tends (stream : WriteStream) (row : Value) :
    Tends stream ((write database row).runOn engine stream start).exchanges
      ((write database row).runOn engine stream start).state := by
  rw [write_eq_bind, runOn_bind]
  refine Run.follow_keeps Tends.append (take_taken engine row stream start).tends fun _ _ => ?_
  rw [settle, runOn_bind]
  refine Run.follow_keeps Tends.append (.refl _) fun _ _ => ?_
  split
  · exact flush_tends engine database _ _
  · exact .refl _

/-- Accepting rows handles one cursor at a time, by induction on the rows. -/
theorem writeAll_tends (rows : List Value) (stream : WriteStream) :
    Tends stream ((writeAll database rows).runOn engine stream start).exchanges
      ((writeAll database rows).runOn engine stream start).state := by
  induction rows generalizing stream start with
  | nil => exact .refl _
  | cons row rest inductionHypothesis =>
      rw [writeAll, runOn_bind]
      refine Run.follow_keeps Tends.append (write_tends engine database start stream row) fun _ _ => ?_
      rw [runOn_bind]
      exact Run.follow_keeps Tends.append (inductionHypothesis _ _) fun _ _ => .refl _

/-- A stream is closed in the end, whether or not its last batch was written. -/
theorem close_tends (stream : WriteStream) :
    Tends stream ((close database).runOn engine stream start).exchanges
        ((close database).runOn engine stream start).state ∧
      ((close database).runOn engine stream start).state.closed = true := by
  simp only [close, runOn_bind, runOn_get, Run.follow, List.nil_append]
  split
  · rename_i closed
    exact ⟨.refl _, closed⟩
  · have releases := release_released engine
      ((flush database).runOn engine stream start).final
      ((flush database).runOn engine stream start).state
    rw [runOn_ensuring]
    exact ⟨Run.afterwards_keeps Tends.append (flush_tends engine database start stream)
      releases.tends.1, releases.tends.2⟩

/-- Aborting a stream handles one cursor at a time and closes the stream. -/
theorem abort_tends (stream : WriteStream) :
    Tends stream (abort.runOn engine stream start).exchanges (abort.runOn engine stream start).state ∧
      (abort.runOn engine stream start).state.closed = true := by
  have drops : Tends stream [] { stream with waiting := [] } := .ofSame rfl rfl
  have releases := release_released engine start { stream with waiting := [] }
  simp only [abort, runOn_bind, runOn_modify, Run.follow, List.nil_append]
  exact ⟨drops.append releases.tends.1, releases.tends.2⟩

/-- A call on a stream handles the cursor of its statement. -/
theorem perform_tends (call : Call) (stream : WriteStream) :
    Tends stream ((call.perform database).runOn engine stream start).exchanges
      ((call.perform database).runOn engine stream start).state := by
  cases call with
  | write row => exact write_tends engine database start stream row
  | writeAll rows =>
      rw [Call.perform, runOn_bind]
      exact Run.follow_keeps Tends.append (writeAll_tends engine database start rows stream)
        fun _ _ => .refl _
  | flush => exact flush_tends engine database start stream
  | close => exact (close_tends engine database start stream).1
  | abort => exact (abort_tends engine start stream).1

end WriteStream

end Tabular
