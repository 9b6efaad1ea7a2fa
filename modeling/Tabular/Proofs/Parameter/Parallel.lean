import Tabular.Proofs.Parameter.Binding

/-!
This module compares two runs that bind different values. Two steps are parallel when nothing that
they give shows which values they bind.
-/

namespace Tabular.Binding

variable {α β : Type}

/-- From binders of one size, two parallel steps that both succeed give the same result and reach
binders of one size. -/
def Parallel (first second : Binding α) : Prop :=
  ∀ binder other : Binder, binder.size = other.size → ∀ result outcome later after,
    first.runWith binder = (.ok result, later) → second.runWith other = (.ok outcome, after) →
      result = outcome ∧ later.size = after.size

/-- A computation that binds nothing is parallel to itself. -/
theorem parallel_lift (outcome : Except Failure α) :
    Parallel (liftM outcome : Binding α) (liftM outcome) := by
  intro binder other size _ _ _ _ done also
  rw [runWith_lift, Prod.mk.injEq] at done also
  obtain ⟨given, rfl⟩ := done
  obtain ⟨again, rfl⟩ := also
  exact ⟨Except.ok.inj (given.symm.trans again), size⟩

theorem parallel_pure (result : α) : Parallel (pure result) (pure result) :=
  parallel_lift (.ok result)

/-- The placeholder of a value does not show the value. -/
theorem parallel_add (value instead : Value) : Parallel (add value) (add instead) := by
  intro binder other size _ _ _ _ done also
  cases kept : value.stored with
  | error failure => rw [runWith_add_error kept] at done; exact nomatch done
  | ok stored =>
      cases keptInstead : instead.stored with
      | error failure => rw [runWith_add_error keptInstead] at also; exact nomatch also
      | ok storedInstead =>
          rw [runWith_add kept, Prod.mk.injEq] at done
          rw [runWith_add keptInstead, Prod.mk.injEq] at also
          obtain ⟨given, rfl⟩ := done
          obtain ⟨again, rfl⟩ := also
          rw [size] at given
          refine ⟨Except.ok.inj (given.symm.trans again), ?_⟩
          simpa [Binder.size] using size

theorem Parallel.bind {first second : Binding α} (parallel : Parallel first second)
    {next follow : α → Binding β} (rest : ∀ result, Parallel (next result) (follow result)) :
    Parallel (first >>= next) (second >>= follow) := by
  intro binder other size result outcome later after done also
  obtain ⟨value, middle, firstDone, nextDone⟩ := runWith_bind_eq_ok done
  obtain ⟨_, between, secondDone, followDone⟩ := runWith_bind_eq_ok also
  obtain ⟨rfl, sizes⟩ := parallel binder other size _ _ _ _ firstDone secondDone
  exact rest value middle between sizes _ _ _ _ nextDone followDone

end Tabular.Binding
