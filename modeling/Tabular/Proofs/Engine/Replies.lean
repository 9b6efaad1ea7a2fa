import Tabular.Proofs.Engine.Attribution
import Tabular.Proofs.Statement.Execution

/-!
This module compares runs by the rows that the engine replies. Two runs of one action end alike where
they get the same replies and nothing fails.
-/

namespace Tabular

open Tabular.Action Exchange

variable {σ τ α β : Type}

namespace Exchange

/-- The rows that were given where rows were asked for. -/
def reply? : Exchange → Option (List Row)
  | ⟨.fetchOne _, .ok found⟩ => some found.toList
  | ⟨.fetchMany _ _, .ok rows⟩ => some rows
  | ⟨.fetchAll _, .ok rows⟩ => some rows
  | ⟨.rows _, (rows, _)⟩ => some rows
  | _ => none

def replies (exchanges : List Exchange) : List (List Row) := exchanges.filterMap reply?

theorem replies_append (first second : List Exchange) :
    replies (first ++ second) = replies first ++ replies second := List.filterMap_append

theorem replies_extend {first second : List Exchange} (starts : first <+: second) :
    replies first <+: replies second := starts.filterMap reply?

/-- The clock was not asked. -/
def Untimed (exchanges : List Exchange) : Prop := ∀ exchange ∈ exchanges, exchange.request ≠ .time

theorem Untimed.append {first second : List Exchange} (untimed : Untimed first)
    (others : Untimed second) : Untimed (first ++ second) :=
  List.forall_mem_append.mpr ⟨untimed, others⟩

end Exchange

namespace Run

/-- Two runs end alike if they get the same replies and nothing fails. -/
def Settles (first second : Run σ τ α) : Prop :=
  Faultless first.exchanges → Faultless second.exchanges → ∀ rest others,
    replies first.exchanges ++ rest = replies second.exchanges ++ others →
      first.outcome = second.outcome ∧ rest = others

/-- The replies come from one list, which is the same for both runs. -/
theorem Settles.equal {first second : Run σ τ α} (settles : first.Settles second)
    (faultless : Faultless first.exchanges) (calm : Faultless second.exchanges)
    {answers : List (List Row)} (told : replies first.exchanges <+: answers)
    (tells : replies second.exchanges <+: answers) : first.outcome = second.outcome := by
  obtain ⟨rest, begins⟩ := told
  obtain ⟨others, starts⟩ := tells
  exact (settles faultless calm rest others (begins.trans starts.symm)).1

theorem follow_exchanges (first : Run σ τ α) (next : α → σ → τ → Run σ τ β) :
    first.exchanges <+: (first.follow next).exchanges := by
  rw [follow]
  split
  · exact List.prefix_append _ _
  · exact List.prefix_refl _

/-- Runs that end alike go on with the same value. -/
theorem Settles.follow {first second : Run σ τ α} {next : α → σ → τ → Run σ τ β}
    (settles : first.Settles second)
    (goes : ∀ value,
      (next value first.state first.final).Settles (next value second.state second.final)) :
    (first.follow next).Settles (second.follow next) := by
  intro faultless calm rest others same
  -- The replies of a whole run begin with those of its first part.
  have equal : first.outcome = second.outcome := by
    obtain ⟨later, parts⟩ := first.follow_exchanges next
    obtain ⟨after, split⟩ := second.follow_exchanges next
    rw [← parts] at faultless same
    rw [← split] at calm same
    simp only [replies_append, List.append_assoc] at same
    exact (settles faultless.left calm.left _ _ same).1
  cases ended : second.outcome with
  | error failure =>
      simp only [Run.follow, equal, ended] at faultless calm same ⊢
      exact ⟨trivial, (settles faultless calm rest others same).2⟩
  | ok value =>
      simp only [Run.follow, equal, ended] at faultless calm same ⊢
      simp only [replies_append, List.append_assoc] at same
      have remaining := (settles faultless.left calm.left _ _ same).2
      exact goes value faultless.right calm.right rest others remaining

/-- A run that asks for rows gets them in its only reply, unless something fails. -/
structure Told (run : Run σ τ α) (rows : α → List Row) : Prop where
  untimed : Untimed run.exchanges
  gives : Faultless run.exchanges →
    ∃ value, run.outcome = .ok value ∧ replies run.exchanges = [rows value]

theorem Told.settles {first second : Run σ τ α} {rows : α → List Row} (told : first.Told rows)
    (tells : second.Told rows) (distinct : Function.Injective rows) : first.Settles second := by
  intro faultless calm rest others same
  obtain ⟨value, returns, reply⟩ := told.gives faultless
  obtain ⟨other, ends, another⟩ := tells.gives calm
  rw [reply, another] at same
  obtain ⟨equal, remaining⟩ := List.cons.inj same
  rw [returns, ends, distinct equal]
  exact ⟨rfl, remaining⟩

end Run

theorem toList_injective : Function.Injective (Option.toList (α := α)) := by
  intro first second same
  cases first <;> cases second <;> simp_all

namespace Database

variable {database : Database} {connection : Connection}
  (opened : database.connection = some connection) (engine : Engine τ) (state : σ) (start : τ)
  (sql : String) (parameters : Value)

include opened

/-- What is asked of the cursor of a statement gets the only reply. -/
theorem executing_told (asks : Cursor → Action σ α) {rows : α → List Row}
    (told : ∀ cursor start, ((asks cursor).runOn engine state start).Told rows) :
    ((database.execute sql parameters >>= fun executed => asks executed.1).runOn engine state
      start).Told rows := by
  obtain ⟨cursor, answer, final, -, runs⟩ := runOn_execute engine state start opened sql parameters
  have untimed : Untimed (executed connection sql parameters cursor answer) := by
    simp [Untimed, executed]
  rw [runOn_bind, runs]
  cases answer with
  | error cause =>
      have failed : ¬ Faultless (executed connection sql parameters cursor (.error cause)) := by
        simp [Faultless, executed, fault?]
      exact ⟨untimed, fun faultless => absurd faultless failed⟩
  | ok result =>
      refine ⟨untimed.append (told cursor final).untimed, fun faultless => ?_⟩
      obtain ⟨value, returns, reply⟩ := (told cursor final).gives faultless.right
      refine ⟨value, returns, ?_⟩
      simp only [Run.follow, replies_append, reply]
      rfl

theorem first_told : ((database.first sql parameters).runOn engine state start).Told Option.toList := by
  apply executing_told opened engine state start sql parameters fun cursor => do
    attached sql parameters (← ask (.fetchOne cursor))
  intro cursor start
  simp only [runOn_bind, runOn_fetchOne, Run.follow, Statement.runOn_attached]
  generalize engine.answer (.fetchOne cursor) start = fetched
  obtain ⟨reply, last⟩ := fetched
  refine ⟨by simp [Untimed], fun faultless => ?_⟩
  cases reply with
  | error cause => simp [Faultless, fault?] at faultless
  | ok found => exact ⟨found, rfl, rfl⟩

theorem all_told : ((database.all sql parameters).runOn engine state start).Told id := by
  apply executing_told opened engine state start sql parameters fun cursor => do
    attached sql parameters (← ask (.fetchAll cursor))
  intro cursor start
  simp only [runOn_bind, runOn_fetchAll, Run.follow, Statement.runOn_attached]
  generalize engine.answer (.fetchAll cursor) start = fetched
  obtain ⟨reply, last⟩ := fetched
  refine ⟨by simp [Untimed], fun faultless => ?_⟩
  cases reply with
  | error cause => simp [Faultless, fault?] at faultless
  | ok found => exact ⟨found, rfl, rfl⟩

end Database

end Tabular
