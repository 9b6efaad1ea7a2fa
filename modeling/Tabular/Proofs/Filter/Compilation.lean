import Tabular.Proofs.Filter.Meaning

/-!
This module shows that a compiled filter is a text with exactly one reading, and that the reading
says what the mapping says.
-/

namespace Tabular

namespace Condition

variable (assignment : Assignment) (parameters : Value)

/-! ## Joining terms -/

/-- This function joins two terms by AND. -/
def Term.append : Term → Term → Term
  | .single factor, other => .both factor other
  | .both factor rest, other => .both factor (rest.append other)

/-- This function joins terms by AND. -/
def Term.join (term : Term) : List Term → Term
  | [] => term
  | other :: rest => term.append (other.join rest)

/-- This function joins terms by OR. -/
def Expression.join (term : Term) : List Term → Expression
  | [] => .single term
  | other :: rest => .either term (join other rest)

theorem Term.append_text (first second : Term) :
    (first.append second).text = first.text ++ (" AND ".toList ++ second.text) := by
  match first with
  | .single factor => rw [append, text, text]
  | .both factor rest =>
      rw [append, text, text, rest.append_text second, List.append_assoc, List.append_assoc]

theorem Term.append_truth (first second : Term) :
    (first.append second).truth assignment parameters = (do
      pure ((← first.truth assignment parameters).both (← second.truth assignment parameters))) := by
  match first with
  | .single factor => rw [append, truth, truth]
  | .both factor rest =>
      rw [append, truth, truth, rest.append_truth second]
      cases factor.truth assignment parameters <;> cases rest.truth assignment parameters <;>
        cases second.truth assignment parameters <;> simp [Truth.both_assoc]

def Term.written (term : Term) : String := String.ofList term.text

def Expression.written (expression : Expression) : String := String.ofList expression.text

/-- A joined term is written as its parts with AND between them. -/
theorem Term.join_text (term : Term) (rest : List Term) :
    String.intercalate " AND " ((term :: rest).map written) = (term.join rest).written := by
  induction rest generalizing term with
  | nil => rw [List.map_singleton, String.intercalate_singleton, join]
  | cons other rest inductionHypothesis =>
      have tail := inductionHypothesis other
      rw [List.map_cons] at tail
      rw [List.map_cons, List.map_cons, String.intercalate_cons_cons, tail, join]
      simp only [written, append_text, String.ofList_append, String.ofList_toList,
        String.append_assoc]

theorem Expression.join_text (term : Term) (rest : List Term) :
    String.intercalate " OR " ((term :: rest).map Term.written) = (join term rest).written := by
  induction rest generalizing term with
  | nil => rw [List.map_singleton, String.intercalate_singleton, join, written, text, Term.written]
  | cons other rest inductionHypothesis =>
      have tail := inductionHypothesis other
      rw [List.map_cons] at tail
      rw [List.map_cons, List.map_cons, String.intercalate_cons_cons, tail, join]
      simp only [written, text, Term.written, String.ofList_append, String.ofList_toList,
        String.append_assoc]

/-- The truth values of terms, in order. -/
def Term.truths (terms : List Term) : Option (List Truth) :=
  terms.mapM fun term => term.truth assignment parameters

theorem Term.join_truth (term : Term) (rest : List Term) :
    (term.join rest).truth assignment parameters =
      (Term.truths assignment parameters (term :: rest)).map Truth.all := by
  induction rest generalizing term with
  | nil => cases held : term.truth assignment parameters <;> simp [join, truths, held, Truth.all]
  | cons other rest inductionHypothesis =>
      rw [join, append_truth, inductionHypothesis]
      unfold truths
      rw [List.mapM_cons (a := term)]
      cases term.truth assignment parameters <;>
        cases List.mapM (fun term : Term => term.truth assignment parameters) (other :: rest) <;>
        simp [Truth.all]

theorem Expression.join_truth (term : Term) (rest : List Term) :
    (Expression.join term rest).truth assignment parameters =
      (Term.truths assignment parameters (term :: rest)).map Truth.any := by
  induction rest generalizing term with
  | nil =>
      cases held : term.truth assignment parameters <;>
        simp [join, truth, Term.truths, held, Truth.any]
  | cons other rest inductionHypothesis =>
      rw [join, truth, inductionHypothesis]
      unfold Term.truths
      rw [List.mapM_cons (a := term)]
      cases term.truth assignment parameters <;>
        cases List.mapM (fun term : Term => term.truth assignment parameters) (other :: rest) <;>
        simp [Truth.any]

end Condition

namespace Filter

open Condition

/-- The parameter of a comparison is found under its number, whatever is bound later. -/
theorem comparison_truth (assignment : Assignment) (binder : Binder) (column : ColumnName)
    (operator : Operator) (stored : Value) (later : List Value) :
    (Factor.comparison column operator (binder.size + 1)).truth assignment
      (Binder.mk (binder.values ++ [stored] ++ later)).parameters =
      some (assignment column.text operator.text stored) := by
  have found := Binder.parameters_get? ⟨binder.values ++ [stored] ++ later⟩ binder.size
  have place : (binder.values ++ [stored] ++ later)[binder.size]? = some stored := by
    simp [Binder.size]
  rw [place] at found
  have member : (Binder.mk (binder.values ++ [stored] ++ later)).parameters.member
      ("p" ++ toString (binder.size + 1)) = .ok stored := by
    unfold Value.member Binder.parameters
    rw [Binder.name] at found
    simp only [found]
    rfl
  rw [Factor.truth, member]

theorem symbol_known (comparator : Comparator) :
    comparator.symbol ∈ ["=", ">", "<", ">=", "<="] := by
  cases comparator <;> decide

mutual

/-- A filter is written as one term, which keeps its truth value whatever is bound later. -/
theorem condition_written (assignment : Assignment) : (filter : Filter) → filter.Writable →
    (binder : Binder) → ∃ (term : Term) (bound : List Value) (truth : Truth),
      (condition filter).runWith binder = (.ok term.written, ⟨binder.values ++ bound⟩) ∧
        filter.truth assignment = some truth ∧
        ∀ later, term.truth assignment (Binder.mk (binder.values ++ bound ++ later)).parameters =
          some truth
  | .comparison column comparator operand, writable, binder => by
      obtain ⟨named, valid⟩ := writable
      obtain ⟨stored, kept⟩ := operand_stored valid
      let factor := Factor.comparison ⟨column, named⟩ ⟨comparator.symbol, symbol_known comparator⟩
        (binder.size + 1)
      refine ⟨.single factor, [stored], assignment column comparator.symbol stored, ?_, ?_, ?_⟩
      · rw [condition, Binding.runWith_bind_ok (Binding.runWith_add kept binder),
          Binding.runWith_pure]
        congr 2
        apply String.toList_injective
        simp [Term.written, Term.text, factor, Factor.text, Binder.placeholder, Binder.name]
      · rw [truth, Value.comparisonTruth, kept]
      · intro later
        exact comparison_truth assignment binder ⟨column, named⟩
          ⟨comparator.symbol, symbol_known comparator⟩ stored later
  -- The operands are in a group of their own, so that what is written around them does not part them.
  | .logical connective operands, writable, binder => by
      obtain ⟨first, rest, bound, truths, written, same, held⟩ :=
        conditions_written assignment operands writable.1 writable.2 binder
      cases connective with
      | all =>
          refine ⟨.single (.group (.single (first.join rest))), bound, Truth.all truths, ?_, ?_, ?_⟩
          · rw [condition, Binding.runWith_bind_ok written, Binding.runWith_pure,
              Connective.symbol, Term.join_text]
            congr 2
            apply String.toList_injective
            simp [Term.written, Term.text, Factor.text, Expression.text]
          · rw [truth, same]
            rfl
          · intro later
            rw [Term.truth, Factor.truth, Expression.truth, Term.join_truth, held later]
            rfl
      | any =>
          refine ⟨.single (.group (Expression.join first rest)), bound, Truth.any truths, ?_, ?_, ?_⟩
          · rw [condition, Binding.runWith_bind_ok written, Binding.runWith_pure,
              Connective.symbol, Expression.join_text]
            congr 2
            apply String.toList_injective
            simp [Term.written, Term.text, Factor.text, Expression.written]
          · rw [truth, same]
            rfl
          · intro later
            rw [Term.truth, Factor.truth, Expression.join_truth, held later]
            rfl
  | .conjunction terms, writable, binder => by
      obtain ⟨first, rest, bound, truths, written, same, held⟩ :=
        conditions_written assignment terms writable.1 writable.2 binder
      refine ⟨first.join rest, bound, Truth.all truths, ?_, ?_, ?_⟩
      · rw [condition, Binding.runWith_bind_ok written, Binding.runWith_pure, Connective.symbol,
          Term.join_text]
      · rw [truth, same]
        rfl
      · intro later
        rw [Term.join_truth, held later]
        rfl

/-- A list of filters that is not empty is written as a list of terms. -/
theorem conditions_written (assignment : Assignment) : (filters : List Filter) → filters ≠ [] →
    AllWritable filters → (binder : Binder) →
    ∃ (first : Term) (rest : List Term) (bound : List Value) (truths : List Truth),
      (conditions filters).runWith binder =
        (.ok ((first :: rest).map Term.written), ⟨binder.values ++ bound⟩) ∧
        Filter.truths assignment filters = some truths ∧
        ∀ later, Term.truths assignment
          (Binder.mk (binder.values ++ bound ++ later)).parameters (first :: rest) = some truths
  | [], filled, _, _ => absurd rfl filled
  | [filter], _, writable, binder => by
      obtain ⟨term, bound, truth, written, same, held⟩ :=
        condition_written assignment filter writable.1 binder
      refine ⟨term, [], bound, [truth], ?_, ?_, ?_⟩
      · rw [conditions, Binding.runWith_bind_ok written, conditions, pure_bind,
          Binding.runWith_pure, List.map_singleton]
      · rw [truths, same, truths]
        rfl
      · intro later
        rw [Term.truths, List.mapM_cons, held later, List.mapM_nil]
        rfl
  | filter :: second :: others, _, writable, binder => by
      obtain ⟨term, bound, truth, written, same, held⟩ :=
        condition_written assignment filter writable.1 binder
      obtain ⟨first, rest, more, truths, restWritten, restSame, restHeld⟩ :=
        conditions_written assignment (second :: others) (by simp) writable.2
          ⟨binder.values ++ bound⟩
      refine ⟨term, first :: rest, bound ++ more, truth :: truths, ?_, ?_, ?_⟩
      · rw [conditions, Binding.runWith_bind_ok written, Binding.runWith_bind_ok restWritten,
          Binding.runWith_pure, List.append_assoc]
        rfl
      · rw [Filter.truths, same, restSame]
        rfl
      · intro later
        have early := held (more ++ later)
        have late := restHeld later
        rw [← List.append_assoc] at early
        rw [Term.truths] at late
        rw [Term.truths, List.mapM_cons, ← List.append_assoc binder.values, early, late]
        rfl

end

/-- A mapping that is read as a filter is compiled whatever is bound before. The written condition
has exactly one reading, which has the truth value of the mapping under the parameters. -/
theorem compile_keepsMeaning (mapping : Value) (filter : Filter)
    (accepted : read mapping = .ok filter) (binder : Binder) :
    ∃ sql later, (compile mapping).runWith binder = (.ok sql, later) ∧
      (∃! reading : Expression, reading.text = sql.toList) ∧
      ∀ reading : Expression, reading.text = sql.toList → ∀ assignment, ∃ truth,
        mapping.truth assignment = some truth ∧
          reading.truth assignment later.parameters = some truth := by
  have compiled : (compile mapping).runWith binder = (condition filter).runWith binder := by
    rw [compile, Binding.runWith_bind_ok (by rw [accepted, Binding.runWith_lift])]
  let anyAssignment : Assignment := fun _ _ _ => .unknown
  have writable := (read_ok anyAssignment mapping accepted).1
  obtain ⟨term, bound, -, written, -, -⟩ :=
    condition_written anyAssignment filter writable binder
  refine ⟨term.written, _, compiled.trans written, ⟨.single term, ?_, ?_⟩, ?_⟩
  · show (Expression.single term).text = term.written.toList
    rw [Expression.text, Term.written, String.toList_ofList]
  · intro other same
    apply Expression.reading_unique
    rw [same, Expression.text, Term.written, String.toList_ofList]
  · intro reading same assignment
    have direct := (read_ok assignment mapping accepted).2
    obtain ⟨again, values, truth, rewritten, filterTruth, held⟩ :=
      condition_written assignment filter writable binder
    -- The text does not depend on the assignment, and it has one reading only.
    obtain ⟨texts, binders⟩ := Prod.mk.inj (written.symm.trans rewritten)
    have unique : reading = .single again := by
      apply Expression.reading_unique
      rw [same, Except.ok.inj texts, Expression.text, Term.written, String.toList_ofList]
    refine ⟨truth, direct ▸ filterTruth, ?_⟩
    have found := held []
    rw [List.append_nil] at found
    rw [unique, Expression.truth, binders, found]

/-- Two fields stand without brackets of their own under an OR. -/
def fieldsOrField : Value :=
  .map [("$or", .list [.map [("a", .int 1), ("b", .map [("$gt", .text "x")])],
    .map [("t.c", .bool true)]])]

theorem compile_keepsMeaning_fieldsOrField :
    read fieldsOrField = .ok (.logical .any [.conjunction [.comparison "a" .equal (.int 1),
      .comparison "b" .greater "x"], .comparison "t.c" .equal (.bool true)]) ∧
    ∃ sql later, (compile fieldsOrField).runWith ⟨[.null]⟩ = (.ok sql, later) ∧
      (∃! reading : Expression, reading.text = sql.toList) ∧
      ∀ reading : Expression, reading.text = sql.toList → ∀ assignment, ∃ truth,
        fieldsOrField.truth assignment = some truth ∧
          reading.truth assignment later.parameters = some truth :=
  ⟨rfl, compile_keepsMeaning fieldsOrField _ rfl ⟨[.null]⟩⟩

end Filter

end Tabular
