import Tabular.Proofs.Table.Writing
import Tabular.Proofs.Value.Shown

/-!
This module counts what an upsert executes. Of all its writes at most one succeeds. It stops at a failure
unless this counts as a taken key, and there a value that shows the same words makes it go on.
-/

namespace Tabular

open Tabular.Action Exchange

variable {σ τ α : Type}

/-! ## Failures that count as taken keys -/

namespace Failure

/-- The parameters show the words also where the driver gets an empty tuple for none. -/
theorem showsTaken_driver (sql : String) (parameters : Value) :
    ShowsTaken sql (Database.driverParameters parameters) ↔ ShowsTaken sql parameters := by
  cases parameters with
  | null => simp [ShowsTaken, Database.driverParameters, Value.isNull, Value.isTrue]
  | _ => rfl

/-- A failure of the driver counts as a taken key where the driver is the engine's, and its message, the
statement or the parameters show the words. -/
theorem violates_attach (cause : Outside) (sql : String) (parameters : Value) :
    ((outside cause).attach sql parameters).violates = true ↔
      cause.kind.isEngine = true ∧ (SaysTaken cause.message ∨ ShowsTaken sql parameters) := by
  by_cases engine : cause.kind.isEngine = true
  · have attached : (outside cause).attach sql parameters = .engine cause.message sql parameters :=
      if_pos engine
    rw [attached, violates, ← isUniqueViolation_engine]
    simp [engine, isEngine]
  · have kept : (outside cause).attach sql parameters = outside cause := if_neg engine
    rw [kept, violates]
    simp [engine, isEngine]

end Failure

/-- The driver is the engine's, and its own message says that a key is taken. -/
def Outside.SaysKeyTaken (cause : Outside) : Prop :=
  cause.kind.isEngine = true ∧ SaysTaken cause.message

instance (cause : Outside) : Decidable cause.SaysKeyTaken :=
  inferInstanceAs (Decidable (_ ∧ _))

namespace Move

/-- The failure of a statement counts as a taken key. The driver is the engine's, and its message, the
statement or the parameters show the words. -/
def CountsAsTaken (move : Move) : Prop :=
  ∃ cause, move.fault? = some cause ∧ cause.kind.isEngine = true ∧
    (SaysTaken cause.message ∨ ShowsTaken move.sql move.parameters)

/-- What is raised where a statement failed counts as a taken key as the failed statement does. -/
theorem Fails.violates_iff {move : Move} {failure : Failure} (fails : move.Fails failure) :
    failure.violates = true ↔ move.CountsAsTaken := by
  obtain ⟨cause, parameters, fault, bound, rfl⟩ := fails
  rw [Failure.violates_attach, CountsAsTaken, fault, bound, Failure.showsTaken_driver]
  simp

/-- An upsert goes on after a failure that is the first one and counts as a taken key. -/
structure GoesOn (before : List Move) (failing : Move) : Prop where
  first : ∀ move ∈ before, move.fault? = none
  taken : failing.CountsAsTaken

end Move

namespace Schema

variable {schema : Schema} {database : Database} {connection : Connection}
  (opened : database.connection = some connection) (engine : Engine τ) (state : σ) (start : τ)

/-! ## Counting -/

/-- The moves of an attempt, counted by their kinds. At most one is a lookup, and at most one is a write,
which succeeds where the attempt returns. -/
structure Counted (lookups insertions : Nat) (moves : List Move) (outcome : Except Failure Value) :
    Prop where
  lookups : moves.countP Move.isLookup ≤ lookups
  insertions : moves.countP Move.isInsertion ≤ insertions
  writes : moves.countP Move.isWrite ≤ 1
  written : moves.countP Move.isWritten = if outcome.isOk then 1 else 0

section

variable {filter : Value} {original : Option Failure} {moves : List Move}
  {outcome : Except Failure Value}

/-- A row that was looked up again is not inserted. -/
theorem WritesOver.insertions {found : Option Row} {move : Move}
    (writes : schema.WritesOver filter found move)
    (known : original.isSome = true → found.isSome = true) :
    [move].countP Move.isInsertion ≤ if original.isSome then 0 else 1 := by
  cases again : original.isSome with
  | false => exact List.countP_le_length
  | true =>
      have present := known again
      simp [writes.isInsertion, Option.isNone_eq_false_iff.mpr present]

/-- What comes of a write is at most one write, and it succeeds where it returns. -/
theorem Written.counted {found : Option Row}
    (written : schema.Written filter original found moves outcome) :
    Counted 0 (if original.isSome then 0 else 1) moves outcome := by
  cases written with
  | refused known own => exact ⟨by simp, by simp, by simp, rfl⟩
  | missing again absent => exact ⟨by simp, by simp, by simp, rfl⟩
  | failed writes known fails =>
      refine ⟨by simp [Move.isLookup_write writes.isWrite], writes.insertions known,
        by simp [writes.isWrite], ?_⟩
      simp [Move.isWritten, fails.isFault, Except.isOk, Except.toBool]
  | done writes known calm =>
      refine ⟨by simp [Move.isLookup_write writes.isWrite], writes.insertions known,
        by simp [writes.isWrite], ?_⟩
      simp [Move.isWritten, writes.isWrite, calm, Except.isOk, Except.toBool]

/-- An attempt is one lookup and at most one write. -/
theorem Attempt.counted (attempt : schema.Attempt filter original moves outcome) :
    Counted 1 (if original.isSome then 0 else 1) moves outcome := by
  cases attempt with
  | refused own => exact ⟨by simp, by simp, by simp, rfl⟩
  | failed reads fails =>
      refine ⟨by simp [reads], by simp [Move.isInsertion_lookup reads],
        by simp [Move.isWrite_lookup reads], ?_⟩
      simp [Move.isWritten, fails.isFault, Except.isOk, Except.toBool]
  | found reads finds written =>
      have rest := written.counted
      refine ⟨?_, ?_, ?_, ?_⟩
      · simpa [reads] using rest.lookups
      · simpa [Move.isInsertion_lookup reads] using rest.insertions
      · simpa [Move.isWrite_lookup reads] using rest.writes
      · simpa [Move.isWritten, Move.isWrite_lookup reads] using rest.written

/-! ## The order of the moves -/

/-- A write stands right after the lookup that found what it writes over. -/
structure Placed (schema : Schema) (filter : Value) (before : List Move) (write : Move) : Prop where
  latest : ∃ earlier lookup found, before = earlier ++ [lookup] ∧ lookup.isLookup = true ∧
    lookup.found? = some found ∧ schema.WritesOver filter found write ∧ (found = none → earlier = [])

/-- What was executed failed, and nothing comes after it. -/
def Ends (failing : Move) (after : List Move) (outcome : Except Failure Value) : Prop :=
  after = [] ∧ ∃ failure, failing.Fails failure ∧ outcome = .error failure

/-- The only move after a lookup writes over what it found. -/
theorem Written.only {found : Option Row}
    (written : schema.Written filter original found moves outcome) {before after : List Move}
    {move : Move} (split : moves = before ++ move :: after) :
    before = [] ∧ schema.WritesOver filter found move ∧
      (original.isSome = true → found.isSome = true) ∧
      (move.fault? ≠ none → Ends move after outcome) := by
  cases written with
  | refused known own => simp at split
  | missing again absent => simp at split
  | failed writes known fails =>
      obtain ⟨rfl, same⟩ := List.append_eq_singleton_iff.mp split.symm |>.resolve_right (by simp)
      obtain ⟨rfl, rfl⟩ := List.cons.inj same
      exact ⟨rfl, writes, known, fun _ => ⟨rfl, _, fails, rfl⟩⟩
  | done writes known calm =>
      obtain ⟨rfl, same⟩ := List.append_eq_singleton_iff.mp split.symm |>.resolve_right (by simp)
      obtain ⟨rfl, rfl⟩ := List.cons.inj same
      exact ⟨rfl, writes, known, fun fault => absurd calm fault⟩

/-- In an attempt, a write comes right after the lookup, and nothing comes after a failure. -/
theorem Attempt.ordered (attempt : schema.Attempt filter original moves outcome)
    {before after : List Move} {move : Move} (split : moves = before ++ move :: after) :
    (move.isWrite = true → ∃ lookup found, before = [lookup] ∧ lookup.isLookup = true ∧
      lookup.found? = some found ∧ schema.WritesOver filter found move ∧
      (original.isSome = true → found.isSome = true)) ∧
    (move.fault? ≠ none → Ends move after outcome) := by
  cases attempt with
  | refused own => simp at split
  | failed reads fails =>
      obtain ⟨rfl, same⟩ := List.append_eq_singleton_iff.mp split.symm |>.resolve_right (by simp)
      obtain ⟨rfl, rfl⟩ := List.cons.inj same
      refine ⟨fun writes => ?_, fun _ => ⟨rfl, _, fails, rfl⟩⟩
      exact nomatch writes.symm.trans (Move.isWrite_lookup reads)
  | @found lookup found rest outcome reads finds written =>
      rcases List.cons_eq_append_iff.mp split with ⟨rfl, same⟩ | ⟨others, rfl, same⟩
      · obtain ⟨rfl, rfl⟩ := List.cons.inj same
        refine ⟨fun writes => ?_, fun fault => absurd (Move.fault?_found finds) fault⟩
        exact nomatch writes.symm.trans (Move.isWrite_lookup reads)
      · obtain ⟨rfl, writes, known, ends⟩ := written.only same
        exact ⟨fun _ => ⟨lookup, found, rfl, reads, finds, writes, known⟩, ends⟩

/-- Nothing failed before a move of an attempt, as nothing comes after a failure. -/
theorem Attempt.quiet (attempt : schema.Attempt filter original moves outcome)
    {before after : List Move} {move : Move} (split : moves = before ++ move :: after) :
    ∀ earlier ∈ before, earlier.fault? = none := by
  intro earlier member
  by_contra fault
  obtain ⟨front, back, rfl⟩ := List.append_of_mem member
  rw [List.append_assoc, List.cons_append] at split
  obtain ⟨none, -⟩ := (attempt.ordered split).2 fault
  simp at none

/-- A first attempt that fails with a taken key has a statement that failed so. -/
theorem Attempt.fails {failure : Failure}
    (attempt : schema.Attempt filter none moves (.error failure)) (taken : failure.violates = true) :
    ∃ failing ∈ moves, failing.Fails failure := by
  cases attempt with
  | refused own => cases own.symm.trans taken
  | failed reads fails => exact ⟨_, List.mem_singleton_self _, fails⟩
  | found reads finds written =>
      cases written with
      | refused known own => cases own.symm.trans taken
      | missing again absent => cases again
      | failed writes known fails => exact ⟨_, by simp, fails⟩

/-- When the row is missing after an original failure, this is raised again. -/
theorem Attempt.missing {failure : Failure}
    (attempt : schema.Attempt filter (some failure) moves outcome) {lookup : Move} {rest : List Move}
    (split : moves = lookup :: rest) (absent : lookup.found? = some none) :
    rest = [] ∧ outcome = .error failure := by
  cases attempt with
  | refused own => exact nomatch split
  | failed reads fails =>
      obtain ⟨rfl, rfl⟩ := List.cons.inj split
      have calm := fails.isFault
      rw [Move.fault?_found absent] at calm
      exact nomatch calm
  | found reads finds written =>
      obtain ⟨rfl, rfl⟩ := List.cons.inj split
      obtain rfl := Option.some.inj (finds.symm.trans absent)
      cases written with
      | refused known own => exact nomatch known rfl
      | missing again absent =>
          obtain rfl := Option.some.inj again
          exact ⟨rfl, rfl⟩
      | failed writes known fails => exact nomatch known rfl
      | done writes known calm => exact nomatch known rfl

/-- A member of two lists in a row is a member of the first one or of the second one. -/
theorem split_append {first second before after : List α} {item : α}
    (split : first ++ second = before ++ item :: after) :
    (∃ rest, first = before ++ item :: rest ∧ after = rest ++ second) ∨
      ∃ part, before = first ++ part ∧ second = part ++ item :: after := by
  rcases List.append_eq_append_iff.mp split with ⟨part, same, rest⟩ | ⟨part, same, rest⟩
  · exact .inr ⟨part, same, rest⟩
  · rcases List.cons_eq_append_iff.mp rest with ⟨rfl, whole⟩ | ⟨others, rfl, whole⟩
    · exact .inr ⟨[], by simpa using same.symm, by simpa using whole⟩
    · exact .inl ⟨others, same, whole⟩

/-! ## Upserts -/

/-- What an upsert executes and how it ends. At most one of its writes succeeds, a row that is missing is
inserted and one that was found is updated, and nothing follows a failure unless it is the first one and
counts as a taken key. Then the row is looked up again. -/
structure WritesOnce (schema : Schema) (row : Value) (moves : List Move)
    (outcome : Except Failure Value) : Prop where
  lookups : moves.countP Move.isLookup ≤ 2
  insertions : moves.countP Move.isInsertion ≤ 1
  writes : moves.countP Move.isWrite ≤ 2
  written : moves.countP Move.isWritten ≤ 1
  returns : (∃ value, outcome = .ok value) ↔ moves.countP Move.isWritten = 1
  placed : ∀ before write after, moves = before ++ write :: after → write.isWrite = true →
    ∃ filter, schema.lookup row = .ok filter ∧ schema.Placed filter before write
  stops : ∀ before failing after, moves = before ++ failing :: after → failing.fault? ≠ none →
    ∃ failure, failing.Fails failure ∧ (after = [] ↔ ¬ Move.GoesOn before failing) ∧
      (after = [] → outcome = .error failure) ∧
      ∀ lookup rest, after = lookup :: rest → lookup.found? = some none →
        rest = [] ∧ outcome = .error failure

/-- After a failed statement whose driver does not say that a key is taken, nothing more is executed and
the failure is raised. -/
def StopsUnlessTaken (moves : List Move) (outcome : Except Failure Value) : Prop :=
  ∀ before failing after cause, moves = before ++ failing :: after → failing.fault? = some cause →
    ¬ cause.SaysKeyTaken → after = [] ∧ ∃ failure, failing.Fails failure ∧ outcome = .error failure

/-- An upsert stops at such a failure unless the first failed statement shows the words of a taken key,
which the message does not have. -/
theorem WritesOnce.stopsUnlessTaken_iff {row : Value} (once : schema.WritesOnce row moves outcome) :
    StopsUnlessTaken moves outcome ↔
      ∀ before failing after cause, moves = before ++ failing :: after → failing.fault? = some cause →
        (∀ move ∈ before, move.fault? = none) → cause.kind.isEngine = true →
        ShowsTaken failing.sql failing.parameters → SaysTaken cause.message := by
  constructor
  · intro stops before failing after cause split fault first engine shown
    by_contra unsaid
    obtain ⟨ended, -⟩ := stops before failing after cause split fault fun said => unsaid said.2
    obtain ⟨failure, -, goesOn, -⟩ := once.stops before failing after split (by simp [fault])
    exact goesOn.mp ended ⟨first, cause, fault, engine, .inr shown⟩
  · intro said before failing after cause split fault unsaid
    obtain ⟨failure, fails, goesOn, raises, -⟩ :=
      once.stops before failing after split (by simp [fault])
    have ended : after = [] := by
      refine goesOn.mpr ?_
      rintro ⟨first, other, same, engine, shows⟩
      obtain rfl := Option.some.inj (fault.symm.trans same)
      refine unsaid ⟨engine, shows.elim id fun shown => ?_⟩
      exact said before failing after cause split fault first engine shown
    exact ⟨ended, failure, fails, raises ended⟩

variable {row : Value}

/-- A refusal before the first statement writes nothing. -/
theorem WritesOnce.nothing (failure : Failure) : schema.WritesOnce row [] (.error failure) where
  lookups := Nat.zero_le _
  insertions := Nat.zero_le _
  writes := Nat.zero_le _
  written := Nat.zero_le _
  returns := ⟨nofun, nofun⟩
  placed before write after split := by simp at split
  stops before failing after split := by simp at split

theorem isOk_iff : outcome.isOk = true ↔ ∃ value, outcome = .ok value := by
  cases outcome <;> simp [Except.isOk, Except.toBool]

/-- An attempt on its own writes at most once, if what it fails with does not count as a taken key. -/
theorem Attempt.writesOnce (attempt : schema.Attempt filter none moves outcome)
    (calm : ∀ failure, outcome = .error failure → failure.violates = false)
    (looked : schema.lookup row = .ok filter) : schema.WritesOnce row moves outcome where
  lookups := attempt.counted.lookups.trans (by decide)
  insertions := attempt.counted.insertions
  writes := attempt.counted.writes.trans (by decide)
  written := by
    rw [attempt.counted.written]
    split <;> decide
  returns := by
    rw [attempt.counted.written, ← isOk_iff]
    simp
  placed before write after split isWrite := by
    obtain ⟨lookup, found, rfl, reads, finds, writes, -⟩ := (attempt.ordered split).1 isWrite
    exact ⟨filter, looked, ⟨[], lookup, found, rfl, reads, finds, writes, fun _ => rfl⟩⟩
  stops before failing after split fault := by
    obtain ⟨rfl, failure, fails, raised⟩ := (attempt.ordered split).2 fault
    refine ⟨failure, fails, iff_of_true rfl fun goesOn => ?_, fun _ => raised,
      fun _ _ again => nomatch again⟩
    simpa [calm failure raised] using fails.violates_iff.mpr goesOn.taken

/-- An attempt that failed because a key was taken, and the one after it. -/
theorem Attempt.retried {failure : Failure} {others : List Move}
    (attempt : schema.Attempt filter none moves (.error failure)) (taken : failure.violates = true)
    (again : schema.Attempt filter (some failure) others outcome) (executes : others ≠ [])
    (looked : schema.lookup row = .ok filter) : schema.WritesOnce row (moves ++ others) outcome where
  lookups := by
    rw [List.countP_append]
    exact Nat.add_le_add attempt.counted.lookups again.counted.lookups
  insertions := by
    rw [List.countP_append]
    exact Nat.add_le_add attempt.counted.insertions again.counted.insertions
  writes := by
    rw [List.countP_append]
    exact Nat.add_le_add attempt.counted.writes again.counted.writes
  written := by
    have unwritten : moves.countP Move.isWritten = 0 := attempt.counted.written
    rw [List.countP_append, unwritten, again.counted.written]
    split <;> decide
  returns := by
    have unwritten : moves.countP Move.isWritten = 0 := attempt.counted.written
    rw [List.countP_append, unwritten, again.counted.written, ← isOk_iff]
    simp
  placed before write after split isWrite := by
    refine ⟨filter, looked, ?_⟩
    rcases split_append split with ⟨rest, inside, -⟩ | ⟨part, rfl, inside⟩
    · obtain ⟨lookup, found, rfl, reads, finds, writes, -⟩ := (attempt.ordered inside).1 isWrite
      exact ⟨[], lookup, found, rfl, reads, finds, writes, fun _ => rfl⟩
    · obtain ⟨lookup, found, rfl, reads, finds, writes, known⟩ := (again.ordered inside).1 isWrite
      refine ⟨moves, lookup, found, rfl, reads, finds, writes, ?_⟩
      rintro rfl
      exact nomatch known rfl
  stops before failing after split fault := by
    rcases split_append split with ⟨rest, inside, rfl⟩ | ⟨part, rfl, inside⟩
    · obtain ⟨rfl, raised, fails, same⟩ := (attempt.ordered inside).2 fault
      obtain rfl := Except.error.inj same
      have goesOn : Move.GoesOn before failing := ⟨attempt.quiet inside, fails.violates_iff.mp taken⟩
      refine ⟨failure, fails, iff_of_false executes (not_not_intro goesOn),
        fun ended => absurd ended executes, ?_⟩
      exact fun lookup rest isNext absent => again.missing isNext absent
    · obtain ⟨rfl, raised, fails, same⟩ := (again.ordered inside).2 fault
      refine ⟨raised, fails, iff_of_true rfl fun goesOn => ?_, fun _ => same, fun _ _ next => nomatch next⟩
      -- The first attempt failed, so this failure is not the first one.
      obtain ⟨earlier, member, failed⟩ := attempt.fails taken
      have calm := failed.isFault
      rw [goesOn.first earlier (List.mem_append_left _ member)] at calm
      cases calm

end

section

variable {row : Value} {run : Run σ τ Value}

variable (schema) in
/-- On a database that is not open nothing is executed. -/
theorem storedRow_closed (closed : database.connection = none) (filter : Value) :
    moves ((schema.storedRow database filter).runOn engine state start).exchanges = [] ∧
      ∃ failure, ((schema.storedRow database filter).runOn engine state start).outcome =
        .error failure := by
  rw [storedRow, runOn_bind, runOn_lift]
  cases schema.find filter with
  | error failure => exact ⟨rfl, failure, rfl⟩
  | ok query =>
      simp only [Run.follow, Query.first, runOn_bind, runOn_lift]
      cases query.selectStatement with
      | error failure => exact ⟨rfl, failure, rfl⟩
      | ok bound =>
          simp only [Database.first, Database.execute, Database.connected, closed, runOn_bind,
            runOn_log, runOn_throw, Run.follow]
          exact ⟨rfl, _, rfl⟩

/-- What was executed stays executed, whatever comes after it. -/
theorem moves_append_ne_nil {first : List Exchange} (executes : moves first ≠ []) (rest : List Exchange) :
    moves (first ++ rest) ≠ [] := by
  induction first with
  | nil => exact absurd rfl executes
  | cons exchange others inductionHypothesis =>
      obtain ⟨request, answer⟩ := exchange
      cases request with
      | execute cursor sql parameters => cases answer <;> exact List.cons_ne_nil _ _
      | script connection text => exact List.cons_ne_nil _ _
      | _ => exact inductionHypothesis executes

variable (schema) in
include opened in
/-- A lookup is refused in every run of it, or every run executes its statement. -/
theorem lookup_executes (filter : Value) :
    (∃ failure, failure.violates = false ∧ ∀ state start,
      ((schema.storedRow database filter : Action σ _).runOn engine state start).outcome =
        .error failure) ∨
    ∀ state start,
      moves ((schema.storedRow database filter : Action σ _).runOn engine state start).exchanges ≠ [] := by
  simp only [storedRow, runOn_bind, runOn_lift]
  cases found : schema.find filter with
  | error failure =>
      have own := (schema.find_computed filter).unreported found
      exact .inl ⟨failure, Failure.violates_own own, fun _ _ => rfl⟩
  | ok query =>
      simp only [Run.follow, Query.first, runOn_bind, runOn_lift]
      cases built : query.selectStatement with
      | error failure =>
          have own := query.selectStatement_computed.unreported built
          exact .inl ⟨failure, Failure.violates_own own, fun _ _ => rfl⟩
      | ok bound =>
          refine .inr fun state start => ?_
          obtain ⟨cursor, answer, final, -, executes⟩ :=
            Database.runOn_execute engine state start opened bound.sql bound.parameters
          simp only [Database.first, runOn_bind, executes]
          cases answer with
          | error cause => exact List.cons_ne_nil _ _
          | ok result =>
              have executed : moves (Database.executed connection bound.sql bound.parameters cursor
                  (.ok result)) ≠ [] := List.cons_ne_nil _ _
              exact moves_append_ne_nil executed _

include opened in
/-- Where an attempt failed with a taken key, the row is looked up again. -/
theorem retry_executes {filter : Value} {failure : Failure} (taken : failure.violates = true)
    (failed : ((schema.tryUpsert database filter row).runOn engine state start).outcome =
      .error failure) (after : σ) (middle : τ) :
    moves ((schema.retry database filter row failure).runOn engine after middle).exchanges ≠ [] := by
  rcases lookup_executes schema opened engine filter with ⟨other, own, refuses⟩ | executes
  · rw [tryUpsert, runOn_bind, Run.follow, refuses] at failed
    cases failed
    cases own.symm.trans taken
  · rw [retry, runOn_bind, Run.follow]
    have lookup := executes after middle
    split
    · exact moves_append_ne_nil lookup _
    · exact lookup

variable (schema) in
/-- On a database that is not open nothing comes after a lookup. -/
theorem attempt_closed (closed : database.connection = none) (filter : Value)
    (next : Option Row → Action σ Value) :
    moves ((schema.storedRow database filter >>= next).runOn engine state start).exchanges = [] ∧
      ∃ failure, ((schema.storedRow database filter >>= next).runOn engine state start).outcome =
        .error failure := by
  obtain ⟨silent, failure, failed⟩ :=
    storedRow_closed schema engine state start closed filter
  rw [runOn_bind, Run.follow, failed]
  exact ⟨silent, failure, rfl⟩

/-- An upsert writes at most once, whatever the engine answers. -/
theorem upsert_once (schema : Schema) (database : Database) (row : Value) (engine : Engine τ)
    (state : σ) (start : τ) {run : Run σ τ Value}
    (runs : (schema.upsert database row).runOn engine state start = run)
    (sqlite : ∀ move ∈ moves run.exchanges, move.findsSqlite = true) :
    schema.WritesOnce row (moves run.exchanges) run.outcome := by
  cases looked : schema.lookup row with
  | error failure =>
      rw [upsert, looked] at runs
      subst runs
      exact .nothing failure
  | ok filter =>
      have courses := upsert_cases engine state start looked runs rfl
      cases opened : database.connection with
      | none =>
          obtain ⟨silent, failure, failed⟩ := attempt_closed schema engine state start
            opened filter (schema.writeOver database filter row)
          rw [tryUpsert] at courses
          rcases courses with ⟨same, ended, -⟩ | ⟨_, middle, second, -, -, retries, same, ended⟩
          · rw [same, ended, silent, failed]
            exact .nothing failure
          · obtain ⟨again, failure, failed⟩ := attempt_closed schema engine _ middle
              opened filter _
            rw [retry] at retries
            rw [same, ended, silent, ← retries, again, failed]
            exact .nothing failure
      | some connection =>
          obtain ⟨entries, column, value, rfl, rfl, has⟩ := lookup_eq_ok looked
          rcases courses with
            ⟨same, ended, calm⟩ | ⟨failure, middle, second, failed, taken, retries, same, ended⟩
          · rw [same] at sqlite ⊢
            rw [ended]
            exact (tryUpsert_attempt opened engine state start has rfl sqlite).writesOnce calm looked
          · rw [same] at sqlite ⊢
            obtain ⟨valid, others⟩ := List.forall_mem_append.mp sqlite
            have first := tryUpsert_attempt opened engine state start has rfl valid
            have again := retry_attempt opened engine _ middle has retries others
            have executes := retry_executes opened engine state start taken failed
            rw [failed] at first
            rw [ended]
            exact first.retried taken again (retries ▸ executes _ middle) looked

/-- An upsert writes at most once, whatever the engine answers. It stops at every failure whose message does
not say that a key is taken, as long as the statement and the values that it binds do not show the words
either. -/
theorem upsert_writesOnce (schema : Schema) (database : Database) (row : Value) (engine : Engine τ)
    (state : σ) (start : τ) {run : Run σ τ Value}
    (runs : (schema.upsert database row).runOn engine state start = run)
    (sqlite : ∀ move ∈ moves run.exchanges, move.findsSqlite = true) :
    schema.WritesOnce row (moves run.exchanges) run.outcome ∧
      (StopsUnlessTaken (moves run.exchanges) run.outcome ↔
        ∀ before failing after cause, moves run.exchanges = before ++ failing :: after →
          failing.fault? = some cause → (∀ move ∈ before, move.fault? = none) →
          cause.kind.isEngine = true → ShowsTaken failing.sql failing.parameters →
          SaysTaken cause.message) := by
  have once := upsert_once schema database row engine state start runs sqlite
  exact ⟨once, once.stopsUnlessTaken_iff⟩

end

/-! ## A member who is inserted at the same time -/

def members : Schema where
  name := .text "members"
  columns := [(.text "id", { storage := .integer, primaryKey := true }),
    (.text "email", { storage := .text, unique := true })]

/-- The first lookup finds no member, the insertion is refused, and the next lookup finds the member that
another writer has inserted. -/
def membersEngine : Engine Nat where
  answer
    | .execute _ sql _, found =>
        if sql.startsWith "INSERT" then
          (.error ⟨.integrity, "UNIQUE constraint failed: members.email"⟩, found)
        else (.ok ⟨none, 1⟩, found)
    | .fetchOne _, found =>
        (.ok (if found = 0 then none else some [(.text "id", .int 7), (.text "email", .text "ann")]),
          found + 1)
    | request, found => (((Latch.engine fun _ => false).answer request true).1, found)

def membersRun : Run Unit Nat Value :=
  (members.upsert Database.lockedDatabase (.map [(.text "email", .text "ann")])).runOn membersEngine () 0

/-- The row is looked up again after the insertion, and the member is updated. -/
theorem upsert_writesOnce_members :
    (∀ move ∈ moves membersRun.exchanges, move.findsSqlite = true) ∧
      members.WritesOnce (.map [(.text "email", .text "ann")]) (moves membersRun.exchanges)
        membersRun.outcome ∧
      texts membersRun.exchanges = ["SELECT * FROM members WHERE ((email = $p1))",
        "INSERT INTO members (email) VALUES ($email)", "SELECT * FROM members WHERE ((email = $p1))",
        "UPDATE members SET email = $p2 WHERE ((id = $p1))"] := by
  have sqlite : ∀ move ∈ moves membersRun.exchanges, move.findsSqlite = true := by decide +kernel
  exact ⟨sqlite, (upsert_writesOnce members _ _ membersEngine () 0 rfl sqlite).1, by decide +kernel⟩

/-! ## A member without a name -/

/-- Members have an address that no other one has, and a name. -/
def namedMembers : Schema where
  name := .text "members"
  columns := [(.text "id", { storage := .integer, primaryKey := true }),
    (.text "email", { storage := .text, unique := true }),
    (.text "name", { storage := .text, notNull := true })]

/-- No member is found, and every insertion is refused because a member has no name. -/
def namelessEngine : Engine Unit where
  answer
    | .execute _ sql _, _ =>
        if sql.startsWith "INSERT" then
          (.error ⟨.integrity, "NOT NULL constraint failed: members.name"⟩, ())
        else (.ok ⟨none, 1⟩, ())
    | .fetchOne _, _ => (.ok none, ())
    | request, _ => (((Latch.engine fun _ => false).answer request true).1, ())

/-- The address of this member is the words with which the engine says that a key is taken. -/
def namelessRun : Run Unit Unit Value :=
  (namedMembers.upsert Database.lockedDatabase
    (.map [(.text "email", .text "UNIQUE constraint failed")])).runOn namelessEngine () ()

/-- The engine says only that a name is missing, and yet the row is looked up again. -/
theorem namelessRun_goesOn :
    ¬ StopsUnlessTaken (moves namelessRun.exchanges) namelessRun.outcome ∧
      texts namelessRun.exchanges = ["SELECT * FROM members WHERE ((email = $p1))",
        "INSERT INTO members (email) VALUES ($email)",
        "SELECT * FROM members WHERE ((email = $p1))"] := by
  refine ⟨fun stops => ?_, by decide +kernel⟩
  obtain ⟨lookup, insertion, again, split⟩ :=
    List.length_eq_three.mp (by decide +kernel : (moves namelessRun.exchanges).length = 3)
  have fault : (moves namelessRun.exchanges)[1]?.bind Move.fault? =
      some ⟨.integrity, "NOT NULL constraint failed: members.name"⟩ := by decide +kernel
  rw [split] at fault
  obtain ⟨ended, -⟩ := stops [lookup] insertion [again] _ split fault (by decide)
  cases ended

end Schema

end Tabular
