import Tabular.Failure

/-!
This module tells with which failures a computation does not end. What its parts avoid is avoided by the
whole.
-/

namespace Tabular

variable {α β : Type}

/-- A computation does not fail with one of these causes. -/
def Outcome.Avoids (causes : Failure → Bool) (outcome : Except Failure α) : Prop :=
  ∀ failure, outcome = .error failure → causes failure = false

namespace Outcome.Avoids

variable {causes : Failure → Bool}

theorem pure (value : α) : Avoids causes (Pure.pure value) := fun _ failed => nomatch failed

theorem throw {failure : Failure} (avoids : causes failure = false) :
    Avoids causes (MonadExcept.throw failure : Except Failure α) := by
  intro other failed
  rw [← Except.error.inj failed]
  exact avoids

/-- Two computations that avoid some failures avoid them one after the other. -/
theorem bind {first : Except Failure α} {next : α → Except Failure β} (avoids : Avoids causes first)
    (rest : ∀ value, Avoids causes (next value)) : Avoids causes (first >>= next) := by
  cases first with
  | ok value => exact rest value
  | error failure => exact throw (avoids failure rfl)

/-- Nothing comes after a failure. -/
theorem refused {failure : Failure} (avoids : causes failure = false)
    (next : α → Except Failure β) : Avoids causes (MonadExcept.throw failure >>= next) := throw avoids

/-- A computation that avoids more failures avoids fewer. -/
theorem mono {others : Failure → Bool} {outcome : Except Failure α} (avoids : Avoids others outcome)
    (weaker : ∀ failure, others failure = false → causes failure = false) : Avoids causes outcome :=
  fun failure failed => weaker failure (avoids failure failed)

end Outcome.Avoids

end Tabular
