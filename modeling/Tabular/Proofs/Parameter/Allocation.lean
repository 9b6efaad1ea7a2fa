import Mathlib.Data.List.Forall2
import Tabular.Proofs.Parameter.Binding

/-!
This module says what it means that a step allocates parameters exactly. The stored forms of its
operands follow the values that are bound before, and what the step gives shows their placeholders.
-/

namespace Tabular

namespace Binder

/-- The entries of parameters whose numbers count on from the first one. -/
def numbered (first : Nat) (values : List Value) : Row :=
  values.mapIdx fun index value => (.text ("p" ++ toString (first + index)), value)

theorem named_eq (first : Nat) (values : List Value) :
    named first values = numbered first values := by
  induction values generalizing first with
  | nil => rfl
  | cons value rest inductionHypothesis =>
      rw [named, inductionHypothesis, numbered, numbered, List.mapIdx_cons]
      simp only [name, Nat.add_zero, Nat.add_assoc, Nat.add_comm 1]

theorem numbered_append (first : Nat) (values others : List Value) :
    numbered first (values ++ others) =
      numbered first values ++ numbered (first + values.length) others := by
  rw [numbered, numbered, numbered, List.mapIdx_append]
  simp only [Nat.add_assoc, Nat.add_comm values.length]

theorem parameters_eq (binder : Binder) : binder.parameters = .map (numbered 1 binder.values) := by
  rw [parameters, named_eq]

/-- The names of parameters depend on their numbers only. -/
theorem named_keys (first : Nat) (values : List Value) :
    Keyed.keys (named first values) =
      (List.range' first values.length).map fun number => .text (name number) := by
  induction values generalizing first with
  | nil => rfl
  | cons value rest inductionHypothesis =>
      exact congrArg (Value.text (name first) :: ·) (inductionHypothesis (first + 1))

/-- This function gives the placeholders with consecutive numbers. -/
def placeholdersFrom (first count : Nat) : List String :=
  (List.range' first count).map fun number => "$p" ++ toString number

theorem placeholdersFrom_eq (first count : Nat) :
    placeholdersFrom first count = (List.range' first count).map placeholder := by
  refine List.map_congr_left fun number _ => ?_
  apply String.toList_injective
  simp [placeholder, name]

theorem placeholdersFrom_add (first count more : Nat) :
    placeholdersFrom first (count + more) =
      placeholdersFrom first count ++ placeholdersFrom (first + count) more := by
  rw [placeholdersFrom, ← List.range'_append_1, List.map_append]
  rfl

theorem mem_placeholdersFrom {first count : Nat} {text : String} :
    text ∈ placeholdersFrom first count ↔
      ∃ number, (first ≤ number ∧ number < first + count) ∧ text = placeholder number := by
  rw [placeholdersFrom_eq, List.mem_map]
  simp only [List.mem_range'_1, eq_comm (a := text)]

/-- Parameters with other numbers have other placeholders. -/
theorem placeholdersFrom_disjoint {first count later : Nat} (apart : first + count ≤ later)
    (more : Nat) : (placeholdersFrom first count).Disjoint (placeholdersFrom later more) := by
  intro text member memberLater
  obtain ⟨number, within, same⟩ := mem_placeholdersFrom.mp member
  obtain ⟨other, withinLater, sameLater⟩ := mem_placeholdersFrom.mp memberLater
  have equal : number = other := by
    apply name_injective
    simpa [placeholder] using same.symm.trans sameLater
  omega

end Binder

namespace Binding

variable {α β γ : Type}

/-- A step allocates operands when it binds their stored forms after the bound values, and what it
gives shows the placeholders of the new parameters in order. -/
def Allocates (step : Binding α) (shown : α → List String) (operands : List Value) : Prop :=
  ∀ binder : Binder, ∃ result bound,
    step.runWith binder = (.ok result, ⟨binder.values ++ bound⟩) ∧
      List.Forall₂ (fun operand stored => operand.stored = .ok stored) operands bound ∧
      shown result = Binder.placeholdersFrom (binder.size + 1) bound.length

theorem allocates_pure {shown : α → List String} {result : α} (none : shown result = []) :
    Allocates (pure result) shown [] := by
  intro binder
  refine ⟨result, [], ?_, .nil, none⟩
  rw [runWith_pure, List.append_nil]

theorem allocates_add {value stored : Value} (kept : value.stored = .ok stored)
    {shown : String → List String}
    (alone : ∀ number, shown (Binder.placeholder number) = [Binder.placeholder number]) :
    Allocates (add value) shown [value] := by
  intro binder
  refine ⟨_, [stored], runWith_add kept binder, .cons kept .nil, ?_⟩
  rw [alone, Binder.placeholdersFrom_eq]
  rfl

/-- A result may be written in another form that shows the same placeholders. -/
theorem Allocates.map {step : Binding α} {shown : α → List String} {operands : List Value}
    (allocates : Allocates step shown operands) {write : α → β} {visible : β → List String}
    (same : ∀ result, visible (write result) = shown result) :
    Allocates (step >>= fun result => pure (write result)) visible operands := by
  intro binder
  obtain ⟨result, bound, done, each, placeholders⟩ := allocates binder
  refine ⟨write result, bound, ?_, each, (same result).trans placeholders⟩
  rw [runWith_bind_ok done, runWith_pure]

/-- The second step counts on from the first one. -/
theorem Allocates.append {first : Binding α} {shown : α → List String} {operands : List Value}
    (allocates : Allocates first shown operands) {second : Binding β}
    {visible : β → List String} {others : List Value} (also : Allocates second visible others)
    {join : α → β → γ} {whole : γ → List String}
    (joined : ∀ result other, whole (join result other) = shown result ++ visible other) :
    Allocates (first >>= fun result => second >>= fun other => pure (join result other)) whole
      (operands ++ others) := by
  intro binder
  obtain ⟨result, bound, done, each, placeholders⟩ := allocates binder
  obtain ⟨other, more, alsoDone, eachOther, following⟩ := also ⟨binder.values ++ bound⟩
  refine ⟨join result other, bound ++ more, ?_, List.rel_append each eachOther, ?_⟩
  · rw [runWith_bind_ok done, runWith_bind_ok alsoDone, runWith_pure, List.append_assoc]
  · rw [joined, placeholders, following, List.length_append, Binder.placeholdersFrom_add]
    simp only [Binder.size, List.length_append, Nat.add_right_comm]

end Binding

end Tabular
