import Mathlib.Logic.Function.Basic
import Tabular.Engine.Script
import Tabular.Proofs.Stream.Holding

/-!
This module makes calls on a statement, on the streams that read it and on a stream for writing rows, in
any order. Each cursor is closed once, whoever closes it, and nothing works on it afterwards.
-/

namespace Tabular

open Tabular.Action Exchange

variable {ι σ τ : Type}

/-- A statement that streams share, and a stream for writing rows beside the state of callbacks. -/
structure Sharing (ι σ : Type) where
  statement : Statement
  readers : ι → ReadStream
  writer : WriteStream
  inner : σ

/-- This exchange begins or ends a transaction. -/
def WriteStream.boundsTransaction (exchange : Exchange) : Bool :=
  exchange.statement?.any fun executed => executed.1 ∈ controlTexts

namespace Sharing

/-- A call on the statement or on one of the streams. The stream for writing may also leave its block,
on a failure or not. The blocks of the others end with a call that they have. -/
inductive Call (ι σ : Type) where
  | statement (call : Statement.Call σ)
  | reader (index : ι) (call : Reading.Call)
  | writer (call : WriteStream.Call)
  | leave (failed : Bool)

/-- What a call returns. -/
inductive Answer where
  | told (answer : Statement.Answer)
  | rows (found : List Row)
  | done

def reading (sharing : Sharing ι σ) (index : ι) : Reading :=
  ⟨sharing.statement, sharing.readers index⟩

def onStatement (action : Action (Statement × σ) Statement.Answer) : Action (Sharing ι σ) Answer := do
  pure (.told (← onPart (fun sharing => (sharing.statement, sharing.inner))
    (fun sharing after => { sharing with statement := after.1, inner := after.2 }) action))

def onReader [DecidableEq ι] (index : ι) (action : Action Reading (List Row)) :
    Action (Sharing ι σ) Answer := do
  pure (.rows (← onPart (fun sharing => sharing.reading index)
    (fun sharing after => { sharing with
      statement := after.statement
      readers := Function.update sharing.readers index after.stream }) action))

def onWriter (action : Action WriteStream Unit) : Action (Sharing ι σ) Answer := do
  onPart Sharing.writer (fun sharing writer => { sharing with writer }) action
  pure .done

theorem runOn_onWriter (engine : Engine τ) (action : Action WriteStream Unit)
    (sharing : Sharing ι σ) (start : τ) :
    (onWriter action : Action (Sharing ι σ) Answer).runOn engine sharing start =
      let run := action.runOn engine sharing.writer start
      ⟨run.outcome.map fun _ => .done, { sharing with writer := run.state }, run.final,
        run.exchanges⟩ := by
  refine (runOn_wrap engine sharing start (fun _ : Unit => Answer.done) _).trans ?_
  rw [runOn_onPart]

namespace Call

/-- This action makes a call. -/
def perform [DecidableEq ι] (database : Database) : Call ι σ → Action (Sharing ι σ) Answer
  | .statement call => onStatement (call.perform database)
  | .reader index call => onReader index (call.perform database)
  | .writer call => onWriter (call.perform database)
  | .leave failed => onWriter (if failed then WriteStream.abort else WriteStream.close database)

/-- These calls are made on the stream for writing rows. -/
def writes : Call ι σ → Bool
  | .writer _ | .leave _ => true
  | .statement _ | .reader _ _ => false

/-- These calls close or abort the stream for writing rows. -/
def ends : Call ι σ → Bool
  | .writer .close | .writer .abort | .leave _ => true
  | _ => false

theorem writes_of_ends {call : Call ι σ} (ended : call.ends = true) : call.writes = true := by
  cases call with
  | statement | reader => exact nomatch ended
  | writer | leave => rfl

end Call

/-- The exchanges of the statement and of the streams that read it. -/
def readings (turns : List (Turn (Call ι σ) (Sharing ι σ) τ Answer)) : List Exchange :=
  Turn.exchanges (turns.filter fun turn => !turn.call.writes)

/-- The exchanges of the stream for writing rows. -/
def writings (turns : List (Turn (Call ι σ) (Sharing ι σ) τ Answer)) : List Exchange :=
  Turn.exchanges (turns.filter fun turn => turn.call.writes)

/-- The cursors on which the stream for writing rows inserted rows. A transaction begins and ends on
cursors that no statement holds, and these are not among them. -/
def used (turns : List (Turn (Call ι σ) (Sharing ι σ) τ Answer)) : List Cursor :=
  addressed ((writings turns).filter fun exchange => !WriteStream.boundsTransaction exchange)

variable {turns : List (Turn (Call ι σ) (Sharing ι σ) τ Answer)} {sharing : Sharing ι σ}

theorem exchanges_perm (turns : List (Turn (Call ι σ) (Sharing ι σ) τ Answer)) :
    (Turn.exchanges turns).Perm (writings turns ++ readings turns) :=
  Turn.exchanges_perm _ turns

/-! ## What every call keeps -/

/-- After some turns, the statement and the stream for writing rows have each handled one cursor at a
time. -/
structure Tended (turns : List (Turn (Call ι σ) (Sharing ι σ) τ Answer)) (sharing : Sharing ι σ) :
    Prop where
  statement : Handles [] none (readings turns) sharing.statement.cursor
  sound : sharing.statement.Sound
  readers : ∀ index, (sharing.readers index).Releases sharing.statement
  writer : Handles WriteStream.controlTexts none (writings turns) sharing.writer.held
  writerSound : sharing.writer.Sound
  ended : (∃ turn ∈ turns, turn.call.ends = true) → sharing.writer.closed = true

/-- A turn on the statement or on a stream that reads it. -/
theorem Tended.read (tended : Tended turns sharing) {turn : Turn (Call ι σ) (Sharing ι σ) τ Answer}
    (reads : turn.call.writes = false) {next : Sharing ι σ}
    (tends : Statement.Tends [] sharing.statement turn.run.exchanges next.statement)
    (readers : ∀ index, (next.readers index).Releases next.statement)
    (same : next.writer = sharing.writer) : Tended (turns ++ [turn]) next := by
  refine ⟨?_, tends.sound tended.sound, readers, ?_, same ▸ tended.writerSound, ?_⟩
  · rw [readings, Turn.exchanges_filter_concat, reads]
    exact tended.statement.append tends.handles
  · rw [writings, Turn.exchanges_filter_concat, reads, same]
    exact (List.append_nil _).symm ▸ tended.writer
  · rintro ⟨other, member, ends⟩
    rw [same]
    refine tended.ended ⟨other, ?_, ends⟩
    rcases List.mem_append.mp member with earlier | last
    · exact earlier
    · cases List.mem_singleton.mp last
      exact nomatch reads.symm.trans (Call.writes_of_ends ends)

/-- A turn on the stream for writing rows. -/
theorem Tended.wrote (tended : Tended turns sharing) {turn : Turn (Call ι σ) (Sharing ι σ) τ Answer}
    (writes : turn.call.writes = true) {writer : WriteStream}
    (tends : WriteStream.Tends sharing.writer turn.run.exchanges writer)
    (ends : turn.call.ends = true → writer.closed = true) :
    Tended (turns ++ [turn]) { sharing with writer } := by
  refine ⟨?_, tended.sound, tended.readers, ?_, tends.sound tended.writerSound, ?_⟩
  · rw [readings, Turn.exchanges_filter_concat, writes]
    exact (List.append_nil _).symm ▸ tended.statement
  · rw [writings, Turn.exchanges_filter_concat, writes]
    exact tended.writer.append tends.handles
  · rintro ⟨other, member, ended⟩
    rcases List.mem_append.mp member with earlier | last
    · exact tends.stays (tended.ended ⟨other, earlier, ended⟩)
    · cases List.mem_singleton.mp last
      exact ends ended

/-- Objects that were made have handled no cursor. -/
theorem tended_nil {sql : String} {parameters : Value} {readers : ι → ReadStream}
    (opened : ∀ index, ∃ prefetch owns, ReadStream.make prefetch owns = .ok (readers index))
    {table : Value} {replaces : Bool} {size : Int} {writer : WriteStream}
    (made : WriteStream.make table replaces size = .ok writer) (inner : σ) :
    Tended (τ := τ) [] ⟨{ sql, parameters }, readers, writer, inner⟩ := by
  obtain ⟨-, rfl⟩ := WriteStream.make_eq_ok.mp made
  refine ⟨.done _, fun _ => rfl, fun index closed => ?_, ?_, fun _ holds => ?_, ?_⟩
  · obtain ⟨prefetch, owns, makes⟩ := opened index
    have live : (readers index).closed = false := by rw [(ReadStream.make_eq_ok.mp makes).2]
    cases live.symm.trans closed
  · exact .done _
  · cases holds
  · rintro ⟨turn, member, -⟩
    exact absurd member List.not_mem_nil

/-! ## What comes of all turns -/

section

variable (fresh : (given (Turn.exchanges turns)).Nodup)

include fresh

/-- The statement and the stream for writing rows got different cursors. -/
theorem fresh_parts : (given (writings turns)).Nodup ∧ (given (readings turns)).Nodup ∧
    ∀ cursor ∈ given (writings turns), cursor ∉ given (readings turns) := by
  have gives := (exchanges_perm turns).filterMap given?
  rw [List.filterMap_append] at gives
  obtain ⟨writes, reads, apart⟩ := List.nodup_append.mp (gives.nodup_iff.mp fresh)
  exact ⟨writes, reads, fun cursor member other => apart cursor member cursor other rfl⟩

/-- What the stream for writing rows works on, the statement does not. -/
theorem Tended.apart (tended : Tended turns sharing) {one other : Exchange}
    (writes : one ∈ writings turns) (reads : other ∈ readings turns) {cursor : Cursor}
    (here : one.addressed? = some cursor) : other.addressed? ≠ some cursor := fun there =>
  (fresh_parts fresh).2.2 cursor
    (tended.writer.addressed_subset (List.mem_filterMap.mpr ⟨one, writes, here⟩))
    (tended.statement.addressed_subset (List.mem_filterMap.mpr ⟨other, reads, there⟩))

theorem Tended.closedLast (tended : Tended turns sharing) : ClosedLast (Turn.exchanges turns) := by
  obtain ⟨freshWritings, freshReadings, -⟩ := fresh_parts fresh
  refine Turn.exchanges_pairwise _ (tended.writer.closedLast freshWritings)
    (tended.statement.closedLast freshReadings) fun one writes other reads => ⟨?_, ?_⟩
  · intro cursor closing
    exact tended.apart fresh writes reads (addressed?_of_closed? closing)
  · intro cursor closing here
    exact tended.apart fresh writes reads here (addressed?_of_closed? closing)

/-- The cursors of a statement that is finalized are closed. -/
theorem Tended.readings_closed (tended : Tended turns sharing)
    (ended : sharing.statement.finalized = true) :
    given (readings turns) ⊆ closed (Turn.exchanges turns) := by
  have closes := (exchanges_perm turns).filterMap closed?
  rw [List.filterMap_append] at closes
  intro cursor member
  rcases tended.statement.settled (fresh_parts fresh).2.1 cursor member with held | closing | passing
  · exact nomatch (tended.sound ended).symm.trans held
  · exact closes.mem_iff.mpr (List.mem_append_right _ closing)
  · obtain ⟨sql, -, -, none, -⟩ := passing.once
    exact absurd none List.not_mem_nil

/-- The cursors of a stream for writing rows that is closed are closed, or it used them aside. -/
theorem Tended.writings_closed (tended : Tended turns sharing) (ended : sharing.writer.closed = true) :
    ∀ cursor ∈ given (writings turns), cursor ∈ closed (Turn.exchanges turns) ∨
      Passing WriteStream.controlTexts (Turn.exchanges turns) cursor := by
  have closes := (exchanges_perm turns).filterMap closed?
  rw [List.filterMap_append] at closes
  intro cursor member
  rcases tended.writer.settled (fresh_parts fresh).1 cursor member with held | closing | passing
  · exact nomatch (tended.writerSound.held_none ended).symm.trans held
  · exact .inl (closes.mem_iff.mpr (List.mem_append_left _ closing))
  · refine .inr (passing.append (exchanges_perm turns) fun other reads there => ?_)
    exact (fresh_parts fresh).2.2 cursor member
      (tended.statement.addressed_subset (List.mem_filterMap.mpr ⟨other, reads, there⟩))

/-- The cursors that a stream for writing rows used, the bounds of transactions apart, are closed. -/
theorem Tended.used_closed (tended : Tended turns sharing) (ended : sharing.writer.closed = true) :
    used turns ⊆ closed (Turn.exchanges turns) := by
  intro cursor member
  obtain ⟨exchange, inside, asks⟩ := List.mem_filterMap.mp member
  obtain ⟨writes, other⟩ := List.mem_filter.mp inside
  have own := tended.writer.addressed_subset (List.mem_filterMap.mpr ⟨exchange, writes, asks⟩)
  rcases tended.writings_closed fresh ended cursor own with closing | passing
  · exact closing
  · obtain ⟨sql, parameters, answer, allows, alone⟩ := passing.once
    have only : exchange ∈ (Turn.exchanges turns).filter fun exchange =>
        exchange.addressed? = some cursor := by
      refine List.mem_filter.mpr ⟨?_, decide_eq_true asks⟩
      exact (exchanges_perm turns).mem_iff.mpr (List.mem_append_left _ writes)
    rw [alone] at only
    cases List.mem_singleton.mp only
    simp [WriteStream.boundsTransaction, statement?, allows] at other

end

/-- A turn that found its statement finalized. It asked for nothing, and a call on the statement failed
unless it finalized it again. -/
def Refused (turn : Turn (Call ι σ) (Sharing ι σ) τ Answer) : Prop :=
  match turn.call with
  | .statement call =>
      turn.run = ⟨(call.refusal turn.state.statement).map .told, turn.state, turn.start, []⟩
  | .reader _ _ => turn.run.exchanges = []
  | .writer _ | .leave _ => True

/-- Each cursor that a statement holds is released once, and nothing works on it afterwards. The statement
and the stream for writing rows work on cursors of their own. Those of the statement are closed when it is
finalized, also by a stream that owns it and is closed. Those of the statement for insertions are closed
when the stream for writing rows is closed or aborted. The cursors of BEGIN, COMMIT and ROLLBACK are
excepted: the connection makes each of them for one execution, no statement holds it, and nobody closes
it. -/
structure Disposed (played : Played (Call ι σ) (Sharing ι σ) τ Answer) : Prop where
  last : ClosedLast played.exchanges
  once : (closed played.exchanges).Nodup
  refused : ∀ turn ∈ played.turns, turn.state.statement.finalized = true → Refused turn
  own : addressed (readings played.turns) ⊆ given (readings played.turns) ∧
    addressed (writings played.turns) ⊆ given (writings played.turns)
  statement : played.state.statement.finalized = true →
    given (readings played.turns) ⊆ closed played.exchanges
  readers : ∀ index, (played.state.readers index).closed = true →
    (played.state.readers index).finalizeStatement = true →
    given (readings played.turns) ⊆ closed played.exchanges
  ended : (∃ turn ∈ played.turns, turn.call.ends = true) → played.state.writer.closed = true
  writer : played.state.writer.closed = true → used played.turns ⊆ closed played.exchanges
  others : played.state.writer.closed = true → ∀ cursor ∈ given (writings played.turns),
    cursor ∈ closed played.exchanges ∨ Passing WriteStream.controlTexts played.exchanges cursor

/-! ## Calls in any order -/

variable [DecidableEq ι] (engine : Engine τ) (database : Database)

theorem Tended.performed (tended : Tended turns sharing) (call : Call ι σ) (start : τ) :
    Tended (turns ++ [⟨call, sharing, start, (call.perform database).runOn engine sharing start⟩])
      ((call.perform database).runOn engine sharing start).state := by
  cases call with
  | statement call =>
      have tends : Statement.Tends [] sharing.statement _ _ :=
        Statement.Call.perform_tends engine database sharing.statement start call sharing.inner
      simp only [Call.perform, onStatement, runOn_wrap, runOn_onPart]
      exact tended.read rfl tends
        (fun index closed owns => (tends.silent (tended.readers index closed owns)).2) rfl
  | reader index call =>
      have tends : Reading.Tends [] (sharing.reading index) _ _ :=
        Reading.perform_tends engine database start (sharing.reading index) call
      simp only [Call.perform, onReader, runOn_wrap, runOn_onPart]
      refine tended.read rfl tends.statement (Function.forall_update_iff _
        (fun _ stream => ReadStream.Releases stream _) |>.mpr ⟨?_, fun other _ => ?_⟩) rfl
      · exact tends.releases (tended.readers index)
      · exact fun closed owns => (tends.statement.silent (tended.readers other closed owns)).2
  | writer call =>
      have tends := WriteStream.perform_tends engine database start call sharing.writer
      rw [Call.perform, runOn_onWriter]
      refine tended.wrote rfl tends fun ends => ?_
      cases call with
      | write | writeAll | flush => exact nomatch ends
      | close => exact (WriteStream.close_tends engine database start sharing.writer).2
      | abort => exact (WriteStream.abort_tends engine start sharing.writer).2
  | leave failed =>
      rw [Call.perform, runOn_onWriter]
      cases failed with
      | true =>
          obtain ⟨tends, closed⟩ := WriteStream.abort_tends engine start sharing.writer
          exact tended.wrote rfl tends fun _ => closed
      | false =>
          obtain ⟨tends, closed⟩ := WriteStream.close_tends engine database start sharing.writer
          exact tended.wrote rfl tends fun _ => closed

theorem performed_refused {sharing : Sharing ι σ} (ended : sharing.statement.finalized = true)
    (call : Call ι σ) (start : τ) :
    Refused ⟨call, sharing, start, (call.perform database).runOn engine sharing start⟩ := by
  cases call with
  | statement call =>
      have refused := Statement.Call.perform_finalized engine database start ended call sharing.inner
      simp only [Refused, Call.perform, onStatement, runOn_wrap, runOn_onPart, refused]
  | reader index call =>
      have tends : Reading.Tends [] (sharing.reading index) _ _ :=
        Reading.perform_tends engine database start (sharing.reading index) call
      simp only [Refused, Call.perform, onReader, runOn_wrap, runOn_onPart]
      exact (tends.statement.silent ended).1
  | writer | leave => trivial

/-- After any calls in any order, whatever the engine refuses, each cursor has been closed once at most,
nothing has worked on it afterwards, and those that statements held and had to release are closed. The
engine must only give new cursors. The calls follow each other, also those that a program makes while a
callback sees a row. -/
theorem calls_release (engine : Engine τ) (database : Database) (sql : String) (parameters : Value)
    {readers : ι → ReadStream}
    (opened : ∀ index, ∃ prefetch owns, ReadStream.make prefetch owns = .ok (readers index))
    {table : Value} {replaces : Bool} {size : Int} {writer : WriteStream}
    (made : WriteStream.make table replaces size = .ok writer) (inner : σ) (start : τ)
    (calls : List (Call ι σ)) {played}
    (plays : Action.plays engine (Call.perform database) calls
      ⟨{ sql, parameters }, readers, writer, inner⟩ start = played)
    (fresh : (given played.exchanges).Nodup) : Disposed played := by
  subst plays
  have tended := plays_keep engine (Call.perform database)
    (fun turns sharing _ => Tended turns sharing)
    (fun turns sharing start call tended => tended.performed engine database call start) calls
    ⟨{ sql, parameters }, readers, writer, inner⟩ start (tended_nil opened made inner)
  refine ⟨tended.closedLast fresh, (tended.closedLast fresh).nodup, fun turn member ended => ?_,
    ⟨tended.statement.addressed_subset, tended.writer.addressed_subset⟩, tended.readings_closed fresh,
    fun index closed owns => tended.readings_closed fresh (tended.readers index closed owns),
    tended.ended, tended.used_closed fresh, tended.writings_closed fresh⟩
  have refused := performed_refused engine database ended turn.call turn.start
  rw [← plays_runs engine (Call.perform database) calls _ start turn member] at refused
  exact refused

/-! ## A shop whose last order is refused -/

def shopDatabase : Database := { path := "shop.db", settings := {}, connection := some ⟨0⟩ }

/-- One stream owns the statement and the other one does not. -/
def shopReaders (owns : Bool) : ReadStream := { prefetch := 1, finalizeStatement := owns }

def shopWriter : WriteStream := { table := .text "orders", batchSize := 2 }

def order : Value := .map [(.text "id", .int 1)]

/-- The rows of the statement, then a transaction in which the order is refused. -/
def shopScript : Script where
  replies := [{ columns := ["n"], rows := [[.int 1], [.int 2]] }, {},
    { failure := some ⟨.integrity, "UNIQUE constraint failed: orders.id"⟩ }, {}]
  transactions := [false]

def shopPlayed : Played (Call Bool Unit) (Sharing Bool Unit) Script Answer :=
  plays Script.engine (Call.perform shopDatabase)
    [.reader false .next, .writer (.write order), .statement (.many 1), .leave false,
      .reader true .close, .reader false .close, .statement .first]
    ⟨{ sql := "SELECT n FROM shop" }, shopReaders, shopWriter, ()⟩ shopScript

/-- The block ends with the failure of the last batch, and later a stream that owns the statement is
closed. -/
theorem calls_release_shop :
    (∀ owns, ∃ prefetch finalizes, ReadStream.make prefetch finalizes = .ok (shopReaders owns)) ∧
      WriteStream.make (.text "orders") false 2 = .ok shopWriter ∧
      shopPlayed.outcomes.map Except.isOk = [true, true, true, false, true, true, false] ∧
      given shopPlayed.exchanges = [⟨⟨0⟩, 0⟩, ⟨⟨0⟩, 1⟩, ⟨⟨0⟩, 2⟩, ⟨⟨0⟩, 3⟩] ∧
      closed shopPlayed.exchanges = [⟨⟨0⟩, 2⟩, ⟨⟨0⟩, 0⟩] ∧ Disposed shopPlayed := by
  have opened (owns : Bool) :
      ∃ prefetch finalizes, ReadStream.make prefetch finalizes = .ok (shopReaders owns) :=
    ⟨1, owns, rfl⟩
  have gives : given shopPlayed.exchanges = [⟨⟨0⟩, 0⟩, ⟨⟨0⟩, 1⟩, ⟨⟨0⟩, 2⟩, ⟨⟨0⟩, 3⟩] := by
    decide +kernel
  have made : WriteStream.make (.text "orders") false 2 = .ok shopWriter := rfl
  exact ⟨opened, made, by decide +kernel, gives, by decide +kernel,
    calls_release Script.engine shopDatabase "SELECT n FROM shop" .null opened made () shopScript _ rfl
      (gives ▸ by decide)⟩

end Sharing

end Tabular
