import Mathlib.Data.List.Perm.Basic
import Tabular.Proofs.Engine.Run

/-!
This module makes calls on an object one after another, whether or not they fail. What holds at first
and is kept by each call holds after all of them.
-/

namespace Tabular

variable {κ σ τ α : Type}

/-- A call with the state and the engine that it found, and its run. -/
structure Turn (κ σ τ α : Type) where
  call : κ
  state : σ
  start : τ
  run : Run σ τ α

/-- The calls that were made on an object, with the state and the engine that they left. -/
structure Played (κ σ τ α : Type) where
  turns : List (Turn κ σ τ α)
  state : σ
  final : τ

namespace Turn

/-- The exchanges of turns in their order. -/
def exchanges (turns : List (Turn κ σ τ α)) : List Exchange :=
  turns.flatMap fun turn => turn.run.exchanges

theorem exchanges_append (first second : List (Turn κ σ τ α)) :
    exchanges (first ++ second) = exchanges first ++ exchanges second :=
  List.flatMap_append

@[simp] theorem exchanges_single (turn : Turn κ σ τ α) : exchanges [turn] = turn.run.exchanges :=
  List.flatMap_singleton _ _

/-- The exchanges of some of the turns, and those of the last turn if it is one of them. -/
theorem exchanges_filter_concat (part : Turn κ σ τ α → Bool) (turns : List (Turn κ σ τ α))
    (turn : Turn κ σ τ α) :
    exchanges ((turns ++ [turn]).filter part) =
      exchanges (turns.filter part) ++ if part turn then turn.run.exchanges else [] := by
  rw [List.filter_append, exchanges_append, List.filter_singleton]
  cases part turn with
  | true => exact congrArg _ (exchanges_single turn)
  | false => rfl

/-- The exchanges are those of some turns and those of the others. -/
theorem exchanges_perm (part : Turn κ σ τ α → Bool) (turns : List (Turn κ σ τ α)) :
    (exchanges turns).Perm
      (exchanges (turns.filter part) ++ exchanges (turns.filter fun turn => !part turn)) := by
  rw [← exchanges_append]
  exact (List.filter_append_perm part turns).symm.flatMap_right _

/-- What holds along the exchanges of some turns, along those of the others, and between them, holds
along all. -/
theorem exchanges_pairwise {holds : Exchange → Exchange → Prop} (part : Turn κ σ τ α → Bool)
    {turns : List (Turn κ σ τ α)} (some : (exchanges (turns.filter part)).Pairwise holds)
    (others : (exchanges (turns.filter fun turn => !part turn)).Pairwise holds)
    (across : ∀ one ∈ exchanges (turns.filter part),
      ∀ other ∈ exchanges (turns.filter fun turn => !part turn), holds one other ∧ holds other one) :
    (exchanges turns).Pairwise holds := by
  simp only [exchanges, List.pairwise_flatMap, List.pairwise_filter, List.mem_filter,
    List.mem_flatMap, forall_exists_index, and_imp] at some others across ⊢
  refine ⟨fun turn member => ?_, ?_⟩
  · cases takes : part turn with
    | true => exact some.1 turn member takes
    | false => exact others.1 turn member (by rw [takes, Bool.not_false])
  · refine (some.2.and others.2).imp_of_mem fun {first second} early late both => ?_
    obtain ⟨inside, outside⟩ := both
    intro one here other there
    cases takesFirst : part first <;> cases takesSecond : part second
    · exact outside (by simp [takesFirst]) (by simp [takesSecond]) one here other there
    · exact (across other second late takesSecond there one first early (by simp [takesFirst]) here).2
    · exact (across one first early takesFirst here other second late (by simp [takesSecond]) there).1
    · exact inside takesFirst takesSecond one here other there

end Turn

namespace Played

def exchanges (played : Played κ σ τ α) : List Exchange := Turn.exchanges played.turns

def outcomes (played : Played κ σ τ α) : List (Except Failure α) :=
  played.turns.map fun turn => turn.run.outcome

end Played

namespace Action

variable (engine : Engine τ) (perform : κ → Action σ α)

/-- This function makes calls on what the calls before them left. -/
def plays : List κ → σ → τ → Played κ σ τ α
  | [], state, start => ⟨[], state, start⟩
  | call :: rest, state, start =>
      let run := (perform call).runOn engine state start
      let others := plays rest run.state run.final
      { others with turns := ⟨call, state, start, run⟩ :: others.turns }

/-- The calls of the turns are those that were to be made. -/
theorem plays_calls (calls : List κ) (state : σ) (start : τ) :
    (plays engine perform calls state start).turns.map Turn.call = calls := by
  induction calls generalizing state start with
  | nil => rfl
  | cons call rest inductionHypothesis =>
      rw [plays, List.map_cons, inductionHypothesis]

section

variable (holds : List (Turn κ σ τ α) → σ → τ → Prop)
  (step : ∀ turns state start call, holds turns state start →
    holds (turns ++ [⟨call, state, start, (perform call).runOn engine state start⟩])
      ((perform call).runOn engine state start).state
      ((perform call).runOn engine state start).final)

include step

theorem plays_keep_after (calls : List κ) (before : List (Turn κ σ τ α)) {state : σ} {start : τ}
    (begins : holds before state start) :
    holds (before ++ (plays engine perform calls state start).turns)
      (plays engine perform calls state start).state
      (plays engine perform calls state start).final := by
  induction calls generalizing before state start with
  | nil =>
      rw [plays, List.append_nil]
      exact begins
  | cons call rest inductionHypothesis =>
      have after := inductionHypothesis _ (step before state start call begins)
      rw [List.append_assoc, List.singleton_append] at after
      exact after

/-- What each call keeps holds after all of them. -/
theorem plays_keep (calls : List κ) (state : σ) (start : τ) (begins : holds [] state start) :
    holds (plays engine perform calls state start).turns
      (plays engine perform calls state start).state
      (plays engine perform calls state start).final :=
  plays_keep_after engine perform holds step calls [] begins

end

/-- Each turn holds the run of its call. -/
theorem plays_runs (calls : List κ) (state : σ) (start : τ) :
    ∀ turn ∈ (plays engine perform calls state start).turns,
      turn.run = (perform turn.call).runOn engine turn.state turn.start :=
  plays_keep engine perform
    (fun turns _ _ => ∀ turn ∈ turns, turn.run = (perform turn.call).runOn engine turn.state turn.start)
    (fun _ _ _ _ runs => List.forall_mem_append.mpr ⟨runs, List.forall_mem_singleton.mpr rfl⟩)
    calls state start (List.forall_mem_nil _)

end Action

end Tabular
