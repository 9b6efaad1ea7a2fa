import Tabular.Parameter
import Tabular.Proofs.Value.Sameness

/-!
This module says what each step of a binding does to the binder, and how a bound value is found by
the name of its number.
-/

namespace Tabular

namespace Binding

variable {α β : Type}

@[simp] theorem runWith_pure (result : α) (binder : Binder) :
    (pure result : Binding α).runWith binder = (.ok result, binder) := rfl

/-- A step that succeeds hands its binder to the next one. -/
theorem runWith_bind (step : Binding α) (next : α → Binding β) (binder : Binder) :
    (step >>= next).runWith binder =
      match step.runWith binder with
      | (.ok result, later) => (next result).runWith later
      | (.error failure, later) => (.error failure, later) := by
  simp only [runWith, ExceptT.run, StateT.run, bind, ExceptT.bind, ExceptT.mk, StateT.bind]
  rcases step binder with ⟨outcome, later⟩
  cases outcome <;> rfl

theorem runWith_bind_ok {step : Binding α} {next : α → Binding β} {binder later : Binder}
    {result : α} (done : step.runWith binder = (.ok result, later)) :
    (step >>= next).runWith binder = (next result).runWith later := by
  rw [runWith_bind, done]

theorem runWith_bind_eq_ok {step : Binding α} {next : α → Binding β} {binder later : Binder}
    {result : β} (done : (step >>= next).runWith binder = (.ok result, later)) :
    ∃ value middle, step.runWith binder = (.ok value, middle) ∧
      (next value).runWith middle = (.ok result, later) := by
  rw [runWith_bind] at done
  split at done
  · next value middle first => exact ⟨value, middle, first, done⟩
  · exact nomatch done

@[simp] theorem runWith_lift (outcome : Except Failure α) (binder : Binder) :
    (liftM outcome : Binding α).runWith binder = (outcome, binder) := by
  cases outcome <;> rfl

/-- The binder gets the stored form of a value under the next number. -/
theorem runWith_add {value stored : Value} (kept : value.stored = .ok stored) (binder : Binder) :
    (add value).runWith binder =
      (.ok (Binder.placeholder (binder.size + 1)), ⟨binder.values ++ [stored]⟩) := by
  unfold add
  rw [kept]
  rfl

theorem runWith_add_error {value : Value} {failure : Failure}
    (refused : value.stored = .error failure) (binder : Binder) :
    (add value).runWith binder = (.error failure, binder) := by
  unfold add
  rw [refused]
  rfl

end Binding

namespace Binder

theorem name_injective {number count : Nat} (same : name number = name count) :
    number = count := by
  have digits : Nat.toDigits 10 number = Nat.toDigits 10 count := by
    simpa [name] using congrArg String.toList same
  rw [← Nat.ofDigitChars_ten_toDigits (n := number), digits, Nat.ofDigitChars_ten_toDigits]

theorem named_values (start : Nat) (values : List Value) :
    (named start values).map Prod.snd = values := by
  induction values generalizing start with
  | nil => rfl
  | cons value rest inductionHypothesis => exact congrArg (value :: ·) (inductionHypothesis _)

/-- The values that are named from `start` on are found by their numbers. -/
theorem named_get? (start index : Nat) (values : List Value) :
    Keyed.get? (named start values) (.text (name (start + index))) = values[index]? := by
  induction values generalizing start index with
  | nil => rfl
  | cons value rest inductionHypothesis =>
      cases index with
      | zero => simp [named, Keyed.get?_cons]
      | succ index =>
          have differ : name (start + (index + 1)) ≠ name start := fun same =>
            absurd (name_injective same) (by omega)
          have tail := inductionHypothesis (start + 1) index
          rw [show start + 1 + index = start + (index + 1) by omega] at tail
          simpa [named, Keyed.get?_cons, differ] using tail

/-- The parameters of a statement hold each bound value under its number. -/
theorem parameters_get? (binder : Binder) (number : Nat) :
    Keyed.get? (named 1 binder.values) (.text (name (number + 1))) = binder.values[number]? := by
  rw [Nat.add_comm]
  exact named_get? 1 number binder.values

end Binder

end Tabular
