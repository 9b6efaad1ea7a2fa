import Mathlib.Data.List.Nodup
import Tabular.Engine

/-!
This module tells what becomes of cursors. An object holds one cursor at a time, which it gets from the
engine and closes. It may use others aside, each for one statement. As far as the engine gives new
cursors, nothing works on a cursor after it was closed.
-/

namespace Tabular

namespace Request

/-- The cursor whose rows a request asks for. -/
def source? : Request → Option Cursor
  | .fetchOne source | .fetchMany source _ | .fetchAll source | .rows source | .advance source _
  | .remaining source => some source
  | _ => none

/-- The cursor that a request works on. -/
def addressed? : Request → Option Cursor
  | .execute source _ _ | .closeCursor source => some source
  | request => request.source?

end Request

namespace Exchange

/-- The cursor that the engine gave. -/
def given? : Exchange → Option Cursor
  | ⟨.cursor _, cursor⟩ => some cursor
  | _ => none

/-- The cursor that was closed. -/
def closed? : Exchange → Option Cursor
  | ⟨.closeCursor cursor, _⟩ => some cursor
  | _ => none

/-- The cursor that was worked on. -/
def addressed? (exchange : Exchange) : Option Cursor := exchange.request.addressed?

def given (exchanges : List Exchange) : List Cursor := exchanges.filterMap given?

def closed (exchanges : List Exchange) : List Cursor := exchanges.filterMap closed?

def addressed (exchanges : List Exchange) : List Cursor := exchanges.filterMap addressed?

theorem addressed?_of_closed? {exchange : Exchange} {cursor : Cursor}
    (closes : exchange.closed? = some cursor) : exchange.addressed? = some cursor := by
  obtain ⟨request, answer⟩ := exchange
  cases request with
  | closeCursor => exact closes
  | _ => exact nomatch closes

theorem given?_of_addressed? {exchange : Exchange} {cursor : Cursor}
    (asks : exchange.addressed? = some cursor) : exchange.given? = none := by
  obtain ⟨request, answer⟩ := exchange
  cases request with
  | cursor => exact nomatch asks
  | _ => rfl

theorem closed?_of_addressed? {exchange : Exchange} (asks : exchange.addressed? = none) :
    exchange.closed? = none := by
  cases closes : exchange.closed? with
  | none => rfl
  | some cursor => exact nomatch asks.symm.trans (addressed?_of_closed? closes)

/-- A request for rows works on the cursor and does not close it. -/
theorem addressed?_of_source? {exchange : Exchange} {cursor : Cursor}
    (asks : exchange.request.source? = some cursor) :
    exchange.addressed? = some cursor ∧ exchange.closed? = none := by
  obtain ⟨request, answer⟩ := exchange
  cases request with
  | execute | closeCursor => exact nomatch asks
  | _ => exact ⟨asks, rfl⟩

/-- Nothing works on a cursor after it was closed, not even to close it again. -/
def ClosedLast (exchanges : List Exchange) : Prop :=
  exchanges.Pairwise fun earlier later =>
    ∀ cursor, earlier.closed? = some cursor → later.addressed? ≠ some cursor

/-- No cursor is closed twice. -/
theorem ClosedLast.nodup {exchanges : List Exchange} (last : ClosedLast exchanges) :
    (closed exchanges).Nodup := by
  refine List.pairwise_filterMap.mpr (last.imp fun apart cursor closes other again => ?_)
  rintro rfl
  exact apart cursor closes (addressed?_of_closed? again)

/-- The engine gave this cursor for the execution of one statement, and nothing else worked on it. -/
structure Passing (allowed : List String) (exchanges : List Exchange) (cursor : Cursor) : Prop where
  given : cursor ∈ given exchanges
  once : ∃ sql parameters answer, sql ∈ allowed ∧
    exchanges.filter (fun exchange => exchange.addressed? = some cursor) =
      [⟨.execute cursor sql parameters, answer⟩]

variable {allowed : List String} {before middle after : Option Cursor} {exchanges : List Exchange}

theorem Passing.cons {cursor : Cursor} (passing : Passing allowed exchanges cursor)
    {exchange : Exchange} (apart : exchange.addressed? ≠ some cursor) :
    Passing allowed (exchange :: exchanges) cursor := by
  obtain ⟨gives, once⟩ := passing
  refine ⟨((List.sublist_cons_self exchange exchanges).filterMap given?).subset gives, ?_⟩
  rw [List.filter_cons_of_neg (by simpa using apart)]
  exact once

/-- A cursor stays passing among exchanges that do not work on it. -/
theorem Passing.append {first second whole : List Exchange} {cursor : Cursor}
    (passing : Passing allowed first cursor) (perm : whole.Perm (first ++ second))
    (apart : ∀ exchange ∈ second, exchange.addressed? ≠ some cursor) :
    Passing allowed whole cursor := by
  obtain ⟨gives, sql, parameters, answer, allows, alone⟩ := passing
  have none : second.filter (fun exchange => exchange.addressed? = some cursor) = [] :=
    List.filter_eq_nil_iff.mpr (by simpa using apart)
  have filtered := perm.filter fun exchange => exchange.addressed? = some cursor
  rw [List.filter_append, alone, none, List.append_nil] at filtered
  refine ⟨(perm.filterMap given?).mem_iff.mpr ?_, sql, parameters, answer, allows,
    List.perm_singleton.mp filtered⟩
  rw [List.filterMap_append]
  exact List.mem_append_left _ gives

/-! ## One cursor at a time -/

/-- These exchanges lead from one cursor that is held to another. Cursors aside only execute one of the
allowed statements. -/
inductive Handles (allowed : List String) : Option Cursor → List Exchange → Option Cursor → Prop where
  | done (held : Option Cursor) : Handles allowed held [] held
  | quiet {held after : Option Cursor} {exchange : Exchange} {rest : List Exchange}
      (aloof : exchange.addressed? = none) (bare : exchange.given? = none)
      (goes : Handles allowed held rest after) : Handles allowed held (exchange :: rest) after
  | take {after : Option Cursor} {connection : Connection} {cursor : Cursor} {rest : List Exchange}
      (goes : Handles allowed (some cursor) rest after) :
      Handles allowed none (⟨.cursor connection, cursor⟩ :: rest) after
  | use {after : Option Cursor} {exchange : Exchange} {cursor : Cursor} {rest : List Exchange}
      (asks : exchange.addressed? = some cursor) (keeps : exchange.closed? = none)
      (goes : Handles allowed (some cursor) rest after) :
      Handles allowed (some cursor) (exchange :: rest) after
  | close {after : Option Cursor} {cursor : Cursor} {rest : List Exchange}
      (goes : Handles allowed none rest after) :
      Handles allowed (some cursor) (⟨.closeCursor cursor, ()⟩ :: rest) after
  | aside {held after : Option Cursor} {connection : Connection} {cursor : Cursor} {sql : String}
      {parameters : Value} {answer : Except Outside RunResult} {rest : List Exchange}
      (allows : sql ∈ allowed) (goes : Handles allowed held rest after) :
      Handles allowed held
        (⟨.cursor connection, cursor⟩ :: ⟨.execute cursor sql parameters, answer⟩ :: rest) after

namespace Handles

theorem append {first second : List Exchange} (starts : Handles allowed before first middle)
    (ends : Handles allowed middle second after) : Handles allowed before (first ++ second) after := by
  induction starts with
  | done held => exact ends
  | quiet aloof bare _ inductionHypothesis => exact .quiet aloof bare (inductionHypothesis ends)
  | take _ inductionHypothesis => exact .take (inductionHypothesis ends)
  | use asks keeps _ inductionHypothesis => exact .use asks keeps (inductionHypothesis ends)
  | close _ inductionHypothesis => exact .close (inductionHypothesis ends)
  | aside allows _ inductionHypothesis => exact .aside allows (inductionHypothesis ends)

theorem mono {more : List String} (subset : allowed ⊆ more)
    (handles : Handles allowed before exchanges after) : Handles more before exchanges after := by
  induction handles with
  | done held => exact .done held
  | quiet aloof bare _ inductionHypothesis => exact .quiet aloof bare inductionHypothesis
  | take _ inductionHypothesis => exact .take inductionHypothesis
  | use asks keeps _ inductionHypothesis => exact .use asks keeps inductionHypothesis
  | close _ inductionHypothesis => exact .close inductionHypothesis
  | aside allows _ inductionHypothesis => exact .aside (subset allows) inductionHypothesis

/-- Requests for the rows of a cursor keep it. -/
theorem uses {cursor : Cursor}
    (asks : ∀ exchange ∈ exchanges, exchange.request.source? = some cursor) :
    Handles allowed (some cursor) exchanges (some cursor) := by
  induction exchanges with
  | nil => exact .done _
  | cons exchange rest inductionHypothesis =>
      obtain ⟨here, others⟩ := List.forall_mem_cons.mp asks
      obtain ⟨addresses, keeps⟩ := addressed?_of_source? here
      exact .use addresses keeps (inductionHypothesis others)

/-- What is worked on was held at first or given. -/
theorem addressed_subset (handles : Handles allowed before exchanges after) :
    addressed exchanges ⊆ before.toList ++ given exchanges := by
  induction handles with
  | done held => exact List.nil_subset _
  | quiet aloof bare _ inductionHypothesis =>
      rwa [addressed, given, List.filterMap_cons_none aloof, List.filterMap_cons_none bare]
  | take _ inductionHypothesis => exact inductionHypothesis
  | use asks _ _ inductionHypothesis =>
      rw [addressed, given, List.filterMap_cons_some asks,
        List.filterMap_cons_none (given?_of_addressed? asks)]
      exact List.cons_subset.mpr ⟨List.mem_cons_self, inductionHypothesis⟩
  | close _ inductionHypothesis => exact List.cons_subset_cons _ inductionHypothesis
  | aside _ _ inductionHypothesis =>
      refine List.cons_subset.mpr ⟨by simp [given, given?], List.Subset.trans inductionHypothesis ?_⟩
      exact (List.Sublist.append_left (List.sublist_cons_self _ _) _).subset

/-- A cursor that was neither held nor given is not worked on. -/
theorem addressed?_ne (handles : Handles allowed before exchanges after) {cursor : Cursor}
    (new : cursor ∉ before.toList ++ given exchanges) :
    ∀ exchange ∈ exchanges, exchange.addressed? ≠ some cursor := fun exchange member asks =>
  new (handles.addressed_subset (List.mem_filterMap.mpr ⟨exchange, member, asks⟩))

theorem closedLast (handles : Handles allowed before exchanges after)
    (fresh : (before.toList ++ given exchanges).Nodup) : ClosedLast exchanges := by
  -- Only the closing of the held cursor matters, which the exchanges after it do not have any more.
  induction handles with
  | done held => exact .nil
  | quiet aloof bare _ inductionHypothesis =>
      rw [given, List.filterMap_cons_none bare] at fresh
      refine .cons (fun _ _ cursor closes => ?_) (inductionHypothesis fresh)
      exact nomatch (closed?_of_addressed? aloof).symm.trans closes
  | take _ inductionHypothesis => exact .cons (fun _ _ _ => nofun) (inductionHypothesis fresh)
  | use asks keeps _ inductionHypothesis =>
      rw [given, List.filterMap_cons_none (given?_of_addressed? asks)] at fresh
      exact .cons (fun _ _ _ closes => nomatch keeps.symm.trans closes) (inductionHypothesis fresh)
  | close goes inductionHypothesis =>
      obtain ⟨new, fresh⟩ := List.nodup_cons.mp fresh
      refine .cons (fun later member cursor closes => ?_) (inductionHypothesis fresh)
      cases closes
      exact goes.addressed?_ne new later member
  | aside allows _ inductionHypothesis =>
      have fewer := fresh.sublist (List.Sublist.append_left (List.sublist_cons_self _ _) _)
      exact .cons (fun _ _ _ => nofun) (.cons (fun _ _ _ => nofun) (inductionHypothesis fewer))

/-- Each cursor that was held or given is held at the end, or it was closed, or it was used aside. -/
theorem settled (handles : Handles allowed before exchanges after)
    (fresh : (before.toList ++ given exchanges).Nodup) :
    ∀ cursor ∈ before.toList ++ given exchanges,
      after = some cursor ∨ cursor ∈ closed exchanges ∨ Passing allowed exchanges cursor := by
  induction handles with
  | done held =>
      intro cursor member
      exact .inl (by simpa [given] using member)
  | quiet aloof bare _ inductionHypothesis =>
      rw [given, List.filterMap_cons_none bare] at fresh ⊢
      rw [closed, List.filterMap_cons_none (closed?_of_addressed? aloof)]
      intro cursor member
      refine (inductionHypothesis fresh cursor member).imp_right (Or.imp_right fun passing => ?_)
      exact passing.cons (by simp [aloof])
  | take _ inductionHypothesis =>
      intro cursor member
      refine (inductionHypothesis fresh cursor member).imp_right (Or.imp_right fun passing => ?_)
      exact passing.cons nofun
  | use asks keeps _ inductionHypothesis =>
      rw [given, List.filterMap_cons_none (given?_of_addressed? asks)] at fresh ⊢
      rw [closed, List.filterMap_cons_none keeps]
      intro cursor member
      refine (inductionHypothesis fresh cursor member).imp_right (Or.imp_right fun passing => ?_)
      -- A cursor that is used is held, so that it is not one that a transaction passes.
      refine passing.cons fun same => ?_
      cases asks.symm.trans same
      exact (List.nodup_cons.mp fresh).1 passing.given
  | close _ inductionHypothesis =>
      obtain ⟨new, fresh⟩ := List.nodup_cons.mp fresh
      intro cursor member
      rcases List.mem_cons.mp member with rfl | member
      · exact .inr (.inl List.mem_cons_self)
      · refine (inductionHypothesis fresh cursor member).imp_right ?_
        refine Or.imp (List.mem_cons_of_mem _) fun passing => passing.cons fun same => ?_
        cases same
        exact new passing.given
  | @aside _ _ _ _ sql parameters answer _ allows goes inductionHypothesis =>
      obtain ⟨new, fresh⟩ := List.nodup_cons.mp (List.nodup_middle.mp fresh)
      intro cursor member
      rcases List.mem_cons.mp (List.perm_middle.mem_iff.mp member) with rfl | member
      · refine .inr (.inr ⟨List.mem_cons_self, sql, parameters, answer, allows, ?_⟩)
        rw [List.filter_cons_of_neg (by simp [addressed?, Request.addressed?, Request.source?]),
          List.filter_cons_of_pos (by simp [addressed?, Request.addressed?]),
          List.filter_eq_nil_iff.mpr (by simpa using goes.addressed?_ne new)]
      · refine (inductionHypothesis fresh cursor member).imp_right (Or.imp_right fun passing => ?_)
        refine (passing.cons fun same => ?_).cons nofun
        cases same
        exact new member

end Handles

end Exchange

end Tabular
