import Tabular.Program

/-!
This module runs programs against engines and keeps the exchanges of a run.
-/

namespace Tabular

/-- An engine answers every request and may change its state. -/
structure Engine (σ : Type) where
  answer : (request : Request) → σ → request.Answer × σ

/-- A request with the answer that it got. -/
structure Exchange where
  request : Request
  answer : request.Answer

namespace Engine

variable {σ : Type}

/-- This engine also keeps its exchanges in order. -/
def recorded (engine : Engine σ) : Engine (σ × List Exchange) where
  answer request state :=
    let (answer, next) := engine.answer request state.1
    (answer, next, state.2 ++ [⟨request, answer⟩])

end Engine

namespace Program

variable {σ α β : Type}

/-- This function runs a program against an engine. -/
def run (engine : Engine σ) : Program α → σ → α × σ
  | .done result, state => (result, state)
  | .ask request next, state =>
      let (answer, state) := engine.answer request state
      (next answer).run engine state

theorem runBind (engine : Engine σ) (program : Program α) (next : α → Program β) (state : σ) :
    (program.bind next).run engine state =
      (next (program.run engine state).1).run engine (program.run engine state).2 := by
  induction program generalizing state with
  | done result => rfl
  | ask request rest inductionHypothesis => exact inductionHypothesis _ _

end Program

namespace Exchange

/-- This function gives the records that are at or above the threshold. A request may change the
threshold, and zero stands for the usual one. -/
def shownRecords : Int → List Exchange → List LogRecord
  | _, [] => []
  | level, ⟨.log entry, _⟩ :: rest =>
      if level ≤ entry.level.number then entry :: shownRecords level rest
      else shownRecords level rest
  | _, ⟨.threshold level, _⟩ :: rest =>
      shownRecords (if level = 0 then Level.warning.number else level) rest
  | level, _ :: rest => shownRecords level rest

end Exchange

end Tabular
