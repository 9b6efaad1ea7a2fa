import Mathlib.Data.List.Forall2

/-!
This module describes computations that can fail by their successes.
-/

namespace Tabular.Outcome

variable {ε α β γ : Type}

/-- Two computations in a row succeed when both of them do. -/
theorem bind_eq_ok {first : Except ε α} {next : α → Except ε β} {result : β} :
    first >>= next = .ok result ↔ ∃ value, first = .ok value ∧ next value = .ok result := by
  cases first with
  | error failure => exact ⟨nofun, fun ⟨_, done, _⟩ => nomatch done⟩
  | ok value => exact ⟨fun done => ⟨value, rfl, done⟩, fun ⟨_, rfl, done⟩ => done⟩

theorem map_eq_ok {change : α → β} {first : Except ε α} {result : β} :
    first.map change = .ok result ↔ ∃ value, first = .ok value ∧ change value = result := by
  cases first with
  | error failure => exact ⟨nofun, fun ⟨_, done, _⟩ => nomatch done⟩
  | ok value =>
      constructor
      · intro done
        exact ⟨value, rfl, Except.ok.inj done⟩
      · rintro ⟨_, done, rfl⟩
        rw [← Except.ok.inj done]
        rfl

theorem ok_bind (value : α) (next : α → Except ε β) : (Except.ok value >>= next) = next value := rfl

theorem pure_eq_ok {value result : α} :
    (pure value : Except ε α) = .ok result ↔ value = result :=
  ⟨Except.ok.inj, fun same => same ▸ rfl⟩

theorem throw_eq_error {failure other : ε} :
    (throw failure : Except ε α) = .error other ↔ other = failure :=
  ⟨fun same => (Except.error.inj same).symm, fun same => same ▸ rfl⟩

theorem pure_eq_error {value : α} {failure : ε} :
    (pure value : Except ε α) = .error failure ↔ False :=
  ⟨nofun, False.elim⟩

/-- What is done with a result cannot fail. -/
theorem bind_pure_eq_error {first : Except ε α} {give : α → β} {failure : ε} :
    (first >>= fun value => pure (give value)) = .error failure ↔ first = .error failure := by
  cases first with
  | error other => exact ⟨fun same => Except.error.inj same ▸ rfl, fun same => same ▸ rfl⟩
  | ok value => exact iff_of_false nofun nofun

/-- A traversal succeeds when each of its items does. -/
theorem mapM_eq_ok {read : α → Except ε β} {items : List α} {results : List β} :
    items.mapM read = .ok results ↔
      List.Forall₂ (fun item result => read item = .ok result) items results := by
  induction items generalizing results with
  | nil =>
      rw [List.mapM_nil, pure_eq_ok, List.forall₂_nil_left_iff]
      exact eq_comm
  | cons item rest inductionHypothesis =>
      rw [List.mapM_cons, bind_eq_ok, List.forall₂_cons_left_iff]
      constructor
      · rintro ⟨first, done, others⟩
        obtain ⟨tail, tailDone, same⟩ := bind_eq_ok.mp others
        exact ⟨first, tail, done, inductionHypothesis.mp tailDone, (pure_eq_ok.mp same).symm⟩
      · rintro ⟨first, tail, done, tailDone, rfl⟩
        exact ⟨first, done, bind_eq_ok.mpr ⟨tail, inductionHypothesis.mpr tailDone, rfl⟩⟩

/-- Traversals of lists whose items give the same give the same. -/
theorem mapM_related {read : α → Except ε β} {also : γ → Except ε β} {items : List α}
    {others : List γ} (each : List.Forall₂ (fun item other => read item = also other) items others) :
    items.mapM read = others.mapM also := by
  induction each with
  | nil => rfl
  | cons first rest inductionHypothesis =>
      rw [List.mapM_cons, List.mapM_cons, first, inductionHypothesis]

/-- What holds of each result of a traversal holds of all of them. -/
theorem each_of_mapM {read : α → Except ε β} {change : α → γ} {holds : β → γ → Prop}
    {items : List α} {results : List β} (done : items.mapM read = .ok results)
    (each : ∀ item ∈ items, ∀ result, read item = .ok result → holds result (change item)) :
    List.Forall₂ holds results (items.map change) := by
  induction mapM_eq_ok.mp done with
  | nil => exact .nil
  | cons first rest inductionHypothesis =>
      refine .cons (each _ (by simp) _ first) (inductionHypothesis (mapM_eq_ok.mpr rest) ?_)
      exact fun item member => each item (by simp [member])

/-- Each item of a traversal succeeds. -/
theorem item_of_mapM {read : α → Except ε β} {items : List α} {results : List β}
    (done : items.mapM read = .ok results) {item : α} (member : item ∈ items) :
    ∃ result, read item = .ok result := by
  induction mapM_eq_ok.mp done with
  | nil => exact absurd member List.not_mem_nil
  | cons first rest inductionHypothesis =>
      rcases List.mem_cons.mp member with rfl | member
      · exact ⟨_, first⟩
      · exact inductionHypothesis (mapM_eq_ok.mpr rest) member

/-- A traversal succeeds when each of its items can. -/
theorem mapM_total {read : α → Except ε β} {items : List α}
    (each : ∀ item ∈ items, ∃ result, read item = .ok result) :
    ∃ results, items.mapM read = .ok results := by
  induction items with
  | nil => exact ⟨[], rfl⟩
  | cons item rest inductionHypothesis =>
      obtain ⟨first, done⟩ := each item List.mem_cons_self
      obtain ⟨others, doneRest⟩ :=
        inductionHypothesis fun item member => each item (List.mem_cons_of_mem _ member)
      exact ⟨first :: others, mapM_eq_ok.mpr (.cons done (mapM_eq_ok.mp doneRest))⟩

/-- A traversal of what stands for other items gives a result for each of them. -/
theorem mapM_along {read : α → Except ε β} {stands : γ → α → Prop} {holds : γ → β → Prop}
    {listed : List γ} {items : List α} (each : List.Forall₂ stands listed items)
    (reads : ∀ entry ∈ listed, ∀ item, stands entry item →
      ∃ result, read item = .ok result ∧ holds entry result) :
    ∃ results, items.mapM read = .ok results ∧ List.Forall₂ holds listed results := by
  induction each with
  | nil => exact ⟨[], rfl, .nil⟩
  | cons first rest inductionHypothesis =>
      obtain ⟨result, done, holdsFirst⟩ := reads _ List.mem_cons_self _ first
      obtain ⟨results, doneRest, holdsRest⟩ :=
        inductionHypothesis fun entry member => reads entry (List.mem_cons_of_mem _ member)
      exact ⟨result :: results, mapM_eq_ok.mpr (.cons done (mapM_eq_ok.mp doneRest)),
        .cons holdsFirst holdsRest⟩

/-- What is known of each result of a traversal is known of its item. -/
theorem through_mapM {read : α → Except ε β} (holds : β → γ → Prop) (stands : α → γ → Prop)
    {items : List α} {results : List β} (done : items.mapM read = .ok results)
    (each : ∀ item ∈ items, ∀ result, read item = .ok result →
      ∃ value, holds result value ∧ stands item value) :
    ∃ values, List.Forall₂ holds results values ∧ List.Forall₂ stands items values := by
  induction mapM_eq_ok.mp done with
  | nil => exact ⟨[], .nil, .nil⟩
  | cons first rest inductionHypothesis =>
      obtain ⟨value, holdsFirst, standsFirst⟩ := each _ List.mem_cons_self _ first
      obtain ⟨values, holdsRest, standsRest⟩ := inductionHypothesis (mapM_eq_ok.mpr rest)
        fun item member => each item (List.mem_cons_of_mem _ member)
      exact ⟨value :: values, .cons holdsFirst holdsRest, .cons standsFirst standsRest⟩

/-- What stands in a list of the same length stands for one of its items. -/
theorem standing {stands : α → β → Prop} {listed : List α} {rows : List β}
    (each : List.Forall₂ stands listed rows) {row : β} (member : row ∈ rows) :
    ∃ item ∈ listed, stands item row := by
  induction each with
  | nil => exact absurd member List.not_mem_nil
  | @cons item _ _ _ first _ inductionHypothesis =>
      rcases List.mem_cons.mp member with rfl | member
      · exact ⟨item, List.mem_cons_self, first⟩
      · obtain ⟨other, inside, holds⟩ := inductionHypothesis member
        exact ⟨other, List.mem_cons_of_mem _ inside, holds⟩

end Tabular.Outcome
