import Tabular.Proofs.Query.Computed
import Tabular.Proofs.Statement.Attribution
import Tabular.Proofs.Stream.Release

/-!
This module tells which statement a failure names, where rows are read or written through streams. A
stream of rows that fails has closed itself before it raises the failure.
-/

namespace Tabular

open Tabular.Action Exchange

variable {τ : Type} {engine : Engine τ} {database : Database} {connection : Connection} {start : τ}
  {before : List Exchange}

/-- A chunk that cannot be fetched raises the failure of the statement of its cursor. -/
theorem Statement.Took.traced {statement : Statement}
    (opened : database.connection = some connection) (live : statement.finalized = false)
    (last : statement.Last before) {count : Int} {run : Run Statement τ (List Row)}
    (took : Took engine database count statement start run) : Traced before run.state run := by
  cases took with
  | refused reached fails =>
      have traced := reached.traced opened live last
      exact ⟨traced.attributed.refused fails _ _, traced.last⟩
  | @answered _ reached _ reaches answer _ answers =>
      exact reached.asked opened live last reaches rfl answer (by cases answer <;> rfl) _ _

namespace Reading

variable {reading : Reading}

/-! ## Streams of rows -/

/-- Nothing fails when a stream is closed. -/
theorem Closed.faultless {run : Run Reading τ Unit} (closed : Closed engine reading start run) :
    Faultless run.exchanges := by
  cases closed with
  | already | borrowed => exact .nil
  | owned live owns finalized => exact finalized.faultless

/-- Closing a stream keeps what its cursor executed last. -/
theorem Closed.last (last : reading.statement.Last before) {run : Run Reading τ Unit}
    (closed : Closed engine reading start run) :
    run.state.statement.Last (before ++ run.exchanges) := by
  cases closed with
  | already | borrowed => exact (List.append_nil _).symm ▸ last
  | owned live owns finalized => exact finalized.last last

section

variable (opened : database.connection = some connection) (live : reading.statement.finalized = false)
  (last : reading.statement.Last before)

include opened live last

/-- Fetching a chunk for a stream raises the failure of its own statement. -/
theorem Chunked.traced {run : Run Reading τ Unit} (chunked : Chunked engine database reading start run) :
    Statement.Traced before run.state.statement run := by
  cases chunked with
  | failed took fails closes =>
      have traced := took.traced opened live last
      constructor
      · exact (traced.attributed.followed closes.faultless).refused fails _ _
      · rw [← List.append_assoc]
        exact closes.last traced.last
  | received took gives =>
      have traced := took.traced opened live last
      exact ⟨traced.attributed.returned gives () _ _, traced.last⟩

/-- Looking for the next row raises the failure of the statement of the stream. -/
theorem Looked.traced {run : Run Reading τ Unit} (looked : Looked engine database reading start run) :
    Statement.Traced before run.state.statement run := by
  cases looked with
  | known settled => exact last.traced _ _ _
  | fetched bare more opens chunked => exact chunked.traced opened live last

/-- So does going on to it. -/
theorem Advanced.traced {run : Run Reading τ (Option Row)}
    (advanced : Advanced engine database reading start run) :
    Statement.Traced before run.state.statement run := by
  cases advanced with
  | failed looked fails =>
      have traced := looked.traced opened live last
      exact ⟨traced.attributed.refused fails _ _, traced.last⟩
  | delivered looked finds waits =>
      have traced := looked.traced opened live last
      exact ⟨traced.attributed.returned finds _ _ _, traced.last⟩
  | finished looked finds bare closes =>
      have traced := looked.traced opened live last
      constructor
      · exact (traced.attributed.followed closes.faultless).returned finds _ _ _
      · rw [← List.append_assoc]
        exact closes.last traced.last

end

/-- A statement of which a row was delivered is not finalized. -/
theorem Advanced.live (live : reading.statement.finalized = false) {run : Run Reading τ (Option Row)}
    (advanced : Advanced engine database reading start run) {row : Row}
    (gives : run.outcome = .ok (some row)) : run.state.statement.finalized = false := by
  cases advanced with
  | failed looked fails => exact nomatch gives
  | finished looked finds bare closes => exact nomatch gives
  | delivered looked finds waits =>
      cases looked with
      | known settled => exact live
      | fetched bare more opens chunked =>
          cases chunked with
          | failed took fails closes => exact nomatch finds
          | received took rows =>
              cases took with
              | refused reached fails => exact nomatch rows
              | answered reached reaches answers => exact (reached.holds reaches).2

/-- A run that returned and one that goes on from it. -/
theorem traced_more {α β : Type} {run : Run Reading τ α}
    (traced : Statement.Traced before run.state.statement run) {value : α} (gives : run.outcome = .ok value)
    {rest : Run Reading τ β}
    (later : Statement.Traced (before ++ run.exchanges) rest.state.statement rest) :
    Statement.Traced before rest.state.statement
      ⟨rest.outcome, rest.state, rest.final, run.exchanges ++ rest.exchanges⟩ := by
  have both : Run.Attributed before (run.follow fun _ _ _ => rest) :=
    traced.attributed.follow fun _ _ => later.attributed
  have last := later.last
  rw [Run.follow, gives] at both
  rw [List.append_assoc] at last
  exact ⟨both, last⟩

/-- Reading rows raises the failure of the statement of the stream. -/
theorem Gathered.traced (opened : database.connection = some connection) {count : Nat}
    {run : Run Reading τ (List Row)} (gathered : Gathered engine database count reading start run)
    (live : reading.statement.finalized = false) (last : reading.statement.Last before) :
    Statement.Traced before run.state.statement run := by
  -- From row to row the statement stays live, and it is the last one that was executed on its cursor.
  induction gathered generalizing before with
  | enough => exact last.traced _ _ _
  | failed advanced fails =>
      have traced := advanced.traced opened live last
      exact ⟨traced.attributed.refused fails _ _, traced.last⟩
  | ended advanced gives =>
      have traced := advanced.traced opened live last
      exact ⟨traced.attributed.returned gives _ _ _, traced.last⟩
  | @went count reading start run advanced row gives rest others inductionHypothesis =>
      have traced := advanced.traced opened live last
      have later := inductionHypothesis (advanced.live live gives) traced.last
      exact traced_more traced gives ⟨later.attributed.map _ _ _, later.last⟩

/-- A call on a stream. -/
theorem perform_traced (opened : database.connection = some connection)
    (live : reading.statement.finalized = false) (last : reading.statement.Last before) (call : Call)
    {run} (runs : (call.perform database).runOn engine reading start = run) :
    Statement.Traced before run.state.statement run := by
  subst runs
  cases call with
  | next =>
      have traced := (next_advanced engine database reading start).traced opened live last
      rw [Call.runOn_next]
      exact ⟨traced.attributed.map _ _ _, traced.last⟩
  | read count =>
      exact (read_gathered engine database reading start count.toNat).traced opened live last
  | close =>
      have closed := close_closed engine reading start
      simp only [Call.perform, runOn_bind, Run.follow, closed.returns, runOn_pure, List.append_nil]
      exact ⟨.still closed.faultless rfl, closed.last last⟩

end Reading

/-! ## Streams for writing rows -/

namespace WriteStream

variable {stream : WriteStream}

/-- A stream that may be written to. Its statement is not finalized. -/
structure Live (stream : WriteStream) : Prop where
  live : stream.closed = false
  holds : ∀ statement, stream.statement = some statement → statement.finalized = false

/-- A stream that is closed. No row waits. -/
structure Shut (stream : WriteStream) : Prop where
  closed : stream.closed = true
  bare : stream.waiting = []

/-- Preparing the statement of a stream is attributed. -/
theorem prepare_attributes (row : Value) : Attributes (prepare row) := by
  apply Attributes.get.bind
  intro stream
  split
  · exact .pure _
  · apply (Attributes.lift row.items_computed).bind
    intro columns
    dsimp only
    split
    · exact .throw rfl
    · apply (Attributes.modify _).bind
      intro _
      apply (Attributes.lift (stream.insertText_computed columns)).bind
      exact fun _ => .modify _

/-- Taking a row raises no failure of a statement. -/
theorem take_attributes (row : Value) : Attributes (take row) := by
  apply Attributes.get.bind
  intro stream
  dsimp only
  split
  · exact .throw rfl
  · apply (prepare_attributes row).bind
    intro _
    apply Attributes.get.bind
    intro prepared
    apply (Attributes.lift (rowParameters_computed prepared.columns row)).bind
    exact fun _ => .modify _

/-- A stream may be written to or is closed. -/
def Usable (stream : WriteStream) : Prop := stream.Live ∨ stream.Shut

/-- Preparing its statement keeps a stream open. -/
theorem Prepared.live {row : Value} {prepared : WriteStream} (live : stream.Live)
    (prepares : Prepared row stream prepared) : prepared.Live := by
  cases prepares with
  | already holds => exact live
  | first bare names text =>
      refine ⟨live.live, fun statement holds => ?_⟩
      cases holds
      rfl

/-- Taking a row keeps a stream usable. -/
theorem Taken.usable {row : Value} {run : Run WriteStream τ Unit} (usable : stream.Usable)
    (taken : Taken row stream start run) : run.state.Usable := by
  rcases usable with live | shut
  · cases taken with
    | closed closed => exact nomatch live.live.symm.trans closed
    | nameless _ bare names columns failure => exact .inl ⟨live.live, live.holds⟩
    | unfit _ prepares fails => exact .inl (prepares.live live)
    | accepted _ prepares fits =>
        have ready := prepares.live live
        exact .inl ⟨ready.live, ready.holds⟩
  · cases taken with
    | closed closed => exact .inr shut
    | nameless opens | unfit opens | accepted opens => exact nomatch opens.symm.trans shut.closed

/-- A stream that is released is closed. -/
theorem Released.closes {run : Run WriteStream τ Unit} (released : Released engine stream start run)
    (bare : stream.waiting = []) : run.outcome = .ok () ∧ Faultless run.exchanges ∧ run.state.Shut := by
  cases released with
  | bare none => exact ⟨rfl, .nil, rfl, bare⟩
  | finalized holds finalized => exact ⟨rfl, finalized.faultless, rfl, bare⟩

/-- Binding a statement does not finalize it. -/
theorem bind_live {statement : Statement} (live : statement.finalized = false) {parameters : Value}
    {run : Run Statement τ RunResult}
    (bound : Statement.Bound engine database parameters statement start run) :
    run.state.finalized = false := by
  cases bound with
  | finalized ended => exact nomatch live.symm.trans ended
  | unconnected _ bare closed => exact live
  | executed _ takes answered => exact live

/-- A stream that may be written to and has no batch. -/
def Idle (stream : WriteStream) : Prop := stream.Live ∧ stream.waiting = []

section

variable (opened : database.connection = some connection)

include opened

/-- Writing one row raises the failure of its own statement. -/
theorem runStatement_attributes (row : Value) :
    AttributesWhile Idle (runStatement database row) := by
  intro τ engine stream start idle
  cases holds : stream.statement with
  | none =>
      simp only [runStatement, runOn_bind, runOn_get, Run.follow, holds, runOn_pure, List.append_nil]
      exact ⟨.still .nil rfl, idle⟩
  | some statement =>
      have live := idle.1.holds statement holds
      have bound := Statement.bind_bound engine database statement start row
      rw [runOn_runStatement engine database start holds row rfl]
      refine ⟨(bound.traced opened live []).attributed.map _ _ _, ⟨idle.1.live, fun other same => ?_⟩,
        idle.2⟩
      cases same
      exact bind_live live bound

/-- Writing rows raises the failure of the first that is refused, by induction on the rows. -/
theorem runAll_attributes (rows : List Value) : AttributesWhile Idle (runAll database rows) := by
  induction rows with
  | nil => exact .ofAttributes (.pure _) fun _ _ _ _ idle => idle
  | cons row rest inductionHypothesis =>
      exact (runStatement_attributes opened row).bind fun _ => inductionHypothesis

/-- A batch leaves the stream, whether or not it is written. -/
theorem flush_attributed (live : stream.Live) (engine : Engine τ) (start : τ) :
    ((flush database).runOn engine stream start).Attributed [] ∧
      ((flush database).runOn engine stream start).state.Idle := by
  by_cases bare : stream.waiting = []
  · rw [flush_idle engine database start bare]
    exact ⟨.still .nil rfl, live, bare⟩
  · -- The batch leaves the stream before its transaction begins.
    have idle : ({ stream with waiting := [] } : WriteStream).Idle := ⟨⟨live.live, live.holds⟩, rfl⟩
    obtain ⟨attributed, stays⟩ := Database.transaction_attributesWhile opened
      (runAll_attributes opened stream.waiting) engine { stream with waiting := [] } start idle
    simp only [flush, runOn_bind, runOn_get, runOn_modify, runOn_log, Run.follow, List.isEmpty_iff,
      bare, if_false, List.nil_append]
    generalize (database.transaction (runAll database stream.waiting)).runOn engine
      { stream with waiting := [] } start = run at attributed stays
    cases ended : run.outcome with
    | error failure => exact ⟨attributed.refused ended _ _, stays⟩
    | ok _ =>
        have logged (entry : LogRecord) : Faultless [⟨.log entry, ()⟩] :=
          List.forall_mem_singleton.mpr rfl
        exact ⟨(attributed.followed (logged _)).returned ended _ _ _, ⟨stays.1.live, stays.1.holds⟩,
          stays.2⟩

/-- Flushing a stream is attributed, and the stream stays usable. -/
theorem flush_attributes : AttributesWhile Usable (flush database) := by
  rintro τ engine stream start (live | shut)
  · obtain ⟨attributed, idle⟩ := flush_attributed opened live engine start
    exact ⟨attributed, .inl idle.1⟩
  · rw [flush_idle engine database start shut.bare]
    exact ⟨.still .nil rfl, .inr shut⟩

/-- Accepting a row is attributed, with the flush that it may cause. -/
theorem write_attributes (row : Value) : AttributesWhile Usable (write database row) := by
  rw [write_eq_bind]
  apply AttributesWhile.bind
  · apply AttributesWhile.ofAttributes (take_attributes row)
    exact fun τ engine stream start usable => (take_taken engine row stream start).usable usable
  · intro _ τ engine stream start usable
    simp only [settle, runOn_bind, runOn_get, Run.follow, List.nil_append]
    split
    · exact flush_attributes opened engine stream start usable
    · exact ⟨.still .nil rfl, usable⟩

/-- Accepting rows is attributed, by induction on the rows. -/
theorem writeAll_attributes (rows : List Value) : AttributesWhile Usable (writeAll database rows) := by
  induction rows with
  | nil => exact .ofAttributes (.pure _) fun _ _ _ _ usable => usable
  | cons row rest inductionHypothesis =>
      apply (write_attributes opened row).bind
      intro _
      apply inductionHypothesis.bind
      exact fun _ => .ofAttributes (.pure _) fun _ _ _ _ usable => usable

/-- Closing a stream is attributed, with its last flush. -/
theorem close_attributes : AttributesWhile Usable (close database) := by
  intro τ engine stream start usable
  simp only [close, runOn_bind, runOn_get, Run.follow, List.nil_append]
  split
  · exact ⟨.still .nil rfl, usable⟩
  · rename_i unclosed
    rcases usable with live | shut
    · obtain ⟨attributed, idle⟩ := flush_attributed opened live engine start
      obtain ⟨returns, faultless, shut⟩ := (release_released engine
        ((flush database).runOn engine stream start).final
        ((flush database).runOn engine stream start).state).closes idle.2
      have closes : (((flush database).runOn engine stream start).afterwards
          fun _ => release.runOn engine).Attributed [] := attributed.afterwards (.returned faultless returns)
      rw [runOn_ensuring]
      exact ⟨closes, .inr shut⟩
    · exact absurd shut.closed unclosed

omit opened in
/-- Aborting a stream is attributed. -/
theorem abort_attributes : AttributesWhile Usable abort := by
  intro τ engine stream start usable
  obtain ⟨returns, faultless, shut⟩ :=
    (release_released engine start { stream with waiting := [] }).closes rfl
  simp only [abort, runOn_bind, runOn_modify, Run.follow, List.nil_append]
  exact ⟨.still faultless returns, .inr shut⟩

/-- A block around a stream ends with one of two calls. -/
theorem leave_attributes (failed : Bool) :
    AttributesWhile Usable (if failed then abort else close database) := by
  cases failed with
  | true => exact abort_attributes
  | false => exact close_attributes opened

/-- A call on a stream for writing rows. -/
theorem perform_attributes (call : Call) : AttributesWhile Usable (call.perform database) := by
  cases call with
  | write row => exact write_attributes opened row
  | writeAll rows =>
      apply (writeAll_attributes opened rows).bind
      exact fun _ => .ofAttributes (.pure _) fun _ _ _ _ usable => usable
  | flush => exact flush_attributes opened
  | close => exact close_attributes opened
  | abort => exact abort_attributes

end

end WriteStream

/-! ## Calls in any order -/

namespace Sharing

variable {ι σ : Type} {sharing after : Sharing ι σ} {exchanges : List Exchange}

/-- Callbacks of the calls do not fail. -/
def Call.Silent : Call ι σ → Prop
  | .statement call => call.Silent
  | _ => True

/-- The statement was executed last on its cursor, by itself or through a stream of its rows, and the
stream for writing rows is usable. -/
structure Kept (before : List Exchange) (sharing : Sharing ι σ) : Prop where
  last : sharing.statement.Last before
  sound : sharing.statement.Sound
  usable : sharing.writer.Usable

/-- Objects that were made have asked for nothing. -/
theorem kept_nil {sql : String} {parameters : Value} {readers : ι → ReadStream} {table : Value}
    {replaces : Bool} {size : Int} {writer : WriteStream}
    (made : WriteStream.make table replaces size = .ok writer) (inner : σ) :
    Kept [] ⟨{ sql, parameters }, readers, writer, inner⟩ := by
  obtain ⟨-, rfl⟩ := WriteStream.make_eq_ok.mp made
  exact ⟨fun _ held => (nomatch held), fun _ => rfl, .inl ⟨rfl, fun _ holds => nomatch holds⟩⟩

/-- A call on the statement, or on a stream that reads it. One that is finalized has no cursor. -/
theorem Kept.read (kept : Kept before sharing)
    (tends : Statement.Tends [] sharing.statement exchanges after.statement)
    (last : sharing.statement.finalized = false → after.statement.Last (before ++ exchanges))
    (same : after.writer = sharing.writer) : Kept (before ++ exchanges) after := by
  refine ⟨?_, tends.sound kept.sound, same ▸ kept.usable⟩
  cases ended : sharing.statement.finalized with
  | false => exact last ended
  | true =>
      have bare := tends.sound kept.sound (tends.silent ended).2
      exact fun cursor held => nomatch bare.symm.trans held

variable [DecidableEq ι] (engine : Engine τ) (opened : database.connection = some connection)
  (call : Call ι σ) (start : τ) (kept : Kept before sharing)

include opened kept

/-- Every call keeps the statement on its cursor and the stream usable. -/
theorem Kept.performed :
    Kept (before ++ if call.writes then []
        else ((call.perform database).runOn engine sharing start).exchanges)
      ((call.perform database).runOn engine sharing start).state := by
  cases call with
  | statement call =>
      have tends : Statement.Tends [] sharing.statement _ _ :=
        Statement.Call.perform_tends engine database sharing.statement start call sharing.inner
      simp only [Call.perform, onStatement, runOn_wrap, runOn_onPart]
      refine kept.read tends (fun live => ?_) rfl
      exact call.perform_last engine start opened live kept.last sharing.inner rfl
  | reader index call =>
      have tends : Reading.Tends [] (sharing.reading index) _ _ :=
        Reading.perform_tends engine database start (sharing.reading index) call
      simp only [Call.perform, onReader, runOn_wrap, runOn_onPart]
      refine kept.read tends.statement (fun live => ?_) rfl
      exact (Reading.perform_traced opened live kept.last call rfl).last
  | writer call =>
      have writes := WriteStream.perform_attributes opened call engine _ start kept.usable
      rw [Call.perform, runOn_onWriter]
      exact ⟨(List.append_nil before).symm ▸ kept.last, kept.sound, writes.2⟩
  | leave failed =>
      have writes := WriteStream.leave_attributes opened failed engine _ start kept.usable
      rw [Call.perform, runOn_onWriter]
      exact ⟨(List.append_nil before).symm ▸ kept.last, kept.sound, writes.2⟩

/-- A call is attributed, unless it finds the statement finalized. -/
theorem Kept.attributed (silent : call.Silent)
    (live : call.writes = false → sharing.statement.finalized = false) :
    ((call.perform database).runOn engine sharing start).Attributed
      (if call.writes then [] else before) := by
  cases call with
  | statement call =>
      simp only [Call.perform, onStatement, runOn_wrap, runOn_onPart]
      exact (Statement.Call.perform_attributed engine start opened (live rfl) kept.last silent
        sharing.inner).map Answer.told _ _
  | reader index call =>
      have traced : Statement.Traced before _
          ((call.perform database).runOn engine (sharing.reading index) start) :=
        Reading.perform_traced opened (live rfl) kept.last call rfl
      simp only [Call.perform, onReader, runOn_wrap, runOn_onPart]
      exact traced.attributed.map Answer.rows _ _
  | writer call =>
      have writes := WriteStream.perform_attributes opened call engine _ start kept.usable
      rw [Call.perform, runOn_onWriter]
      exact writes.1.map (fun _ => Answer.done) _ _
  | leave failed =>
      have writes := WriteStream.leave_attributes opened failed engine _ start kept.usable
      rw [Call.perform, runOn_onWriter]
      exact writes.1.map (fun _ => Answer.done) _ _

end Sharing

end Tabular
