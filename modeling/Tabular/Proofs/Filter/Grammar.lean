import Mathlib.Data.List.Basic
import Tabular.Proofs.Filter.Name

/-!
This module holds the grammar of written conditions. Alternatives are joined by OR, and each of them
joins factors by AND, so that AND binds tighter. A written condition has one reading only.
-/

namespace Tabular.Condition

/-- A column name as it stands in a condition. -/
structure ColumnName where
  text : String
  accepted : isColumnName text = true

/-- A comparison as it stands in a condition. -/
structure Operator where
  text : String
  known : text ∈ ["=", ">", "<", ">=", "<="]

mutual

/-- An expression joins terms by OR. -/
inductive Expression where
  | single (term : Term)
  | either (term : Term) (rest : Expression)

/-- A term joins factors by AND. -/
inductive Term where
  | single (factor : Factor)
  | both (factor : Factor) (rest : Term)

/-- A factor stands in brackets. It compares a column with a numbered parameter, or holds a whole
expression. -/
inductive Factor where
  | group (inner : Expression)
  | comparison (column : ColumnName) (operator : Operator) (number : Nat)

end

mutual

def Expression.text : Expression → List Char
  | .single term => term.text
  | .either term rest => term.text ++ (" OR ".toList ++ rest.text)

def Term.text : Term → List Char
  | .single factor => factor.text
  | .both factor rest => factor.text ++ (" AND ".toList ++ rest.text)

def Factor.text : Factor → List Char
  | .group inner => '(' :: (inner.text ++ [')'])
  | .comparison column operator number =>
      '(' :: (column.text.toList ++ ' ' :: (operator.text.toList ++ ' ' :: '$' :: 'p' ::
        ((toString number).toList ++ [')'])))

end

/-! ## The parts of a comparison -/

/-- A column name holds neither a blank nor a bracket. -/
theorem columnName_ne (name : String) (accepted : isColumnName name = true) :
    ∀ c ∈ name.toList, c ≠ ' ' ∧ c ≠ '(' := by
  intro c member
  have char := ColumnName.chars_of_isColumnName accepted c member
  constructor <;> rintro rfl <;> revert char <;> decide

theorem columnName_ne_nil (name : String) (accepted : isColumnName name = true) :
    name.toList ≠ [] := by
  intro empty
  rw [isColumnName, empty] at accepted
  exact absurd accepted (by decide)

theorem Operator.blank_notMem (operator : Operator) : ' ' ∉ operator.text.toList := by
  have known := operator.known
  revert known
  generalize operator.text = text
  simp only [List.mem_cons, List.not_mem_nil, or_false]
  rintro (rfl | rfl | rfl | rfl | rfl) <;> decide

theorem decimal_bracket_notMem (number : Nat) : ')' ∉ (toString number).toList := by
  intro member
  have digits : ')' ∈ Nat.toDigits 10 number := by simpa using member
  exact absurd (Nat.isDigit_of_mem_toDigits (by decide) (by decide) digits) (by decide)

theorem decimal_injective (number count : Nat)
    (same : (toString number).toList = (toString count).toList) : number = count := by
  have digits : Nat.toDigits 10 number = Nat.toDigits 10 count := by simpa using same
  rw [← Nat.ofDigitChars_ten_toDigits (n := number), digits, Nat.ofDigitChars_ten_toDigits]

theorem Expression.text_head (expression : Expression) : expression.text.head? = some '(' := by
  have factorHead (factor : Factor) : factor.text.head? = some '(' := by
    cases factor <;> simp [Factor.text]
  have termHead (term : Term) : term.text.head? = some '(' := by
    cases term <;> simp [Term.text, factorHead]
  cases expression <;> simp [Expression.text, termHead]

/-! ## Readings are unique -/

/-- A text is cut in one way only at its first mark. -/
theorem cut_unique {mark : Char} {first second rest more : List Char} (firstFree : mark ∉ first)
    (secondFree : mark ∉ second) (same : first ++ mark :: rest = second ++ mark :: more) :
    first = second ∧ rest = more := by
  induction first generalizing second with
  | nil =>
      cases second with
      | nil => simpa using same
      | cons c second =>
          simp only [List.nil_append, List.cons_append, List.cons.injEq] at same
          exact absurd (List.mem_cons.mpr (.inl same.1)) secondFree
  | cons c first inductionHypothesis =>
      cases second with
      | nil =>
          simp only [List.nil_append, List.cons_append, List.cons.injEq] at same
          exact absurd (List.mem_cons.mpr (.inl same.1.symm)) firstFree
      | cons d second =>
          simp only [List.cons_append, List.cons.injEq] at same
          obtain ⟨rfl, same⟩ := same
          have tails := inductionHypothesis (List.not_mem_of_not_mem_cons firstFree)
            (List.not_mem_of_not_mem_cons secondFree) same
          exact ⟨by rw [tails.1], tails.2⟩

/-- The text of a comparison determines its parts, whatever follows. -/
theorem comparison_text_injective (column other : ColumnName) (operator sign : Operator)
    (number count : Nat) (rest more : List Char)
    (same : (Factor.comparison column operator number).text ++ rest =
      (Factor.comparison other sign count).text ++ more) :
    Factor.comparison column operator number = Factor.comparison other sign count ∧
      rest = more := by
  simp only [Factor.text, List.cons_append, List.append_assoc, List.cons.injEq, true_and,
    List.nil_append] at same
  have blank (name : ColumnName) : ' ' ∉ name.text.toList := fun member =>
    (columnName_ne name.text name.accepted ' ' member).1 rfl
  obtain ⟨names, same⟩ := cut_unique (blank column) (blank other) same
  obtain ⟨signs, same⟩ := cut_unique operator.blank_notMem sign.blank_notMem same
  simp only [List.cons.injEq, true_and] at same
  obtain ⟨numbers, rests⟩ := cut_unique (decimal_bracket_notMem number)
    (decimal_bracket_notMem count) same
  refine ⟨?_, rests⟩
  obtain ⟨_, _⟩ := column
  obtain ⟨_, _⟩ := other
  obtain ⟨_, _⟩ := operator
  obtain ⟨_, _⟩ := sign
  obtain rfl := String.toList_injective names
  obtain rfl := String.toList_injective signs
  obtain rfl := decimal_injective number count numbers
  rfl

/-- A group begins with a second bracket, and a comparison with a column name. -/
theorem group_ne_comparison (inner : Expression) (column : ColumnName) (operator : Operator)
    (number : Nat) (rest more : List Char) :
    (Factor.group inner).text ++ rest ≠
      (Factor.comparison column operator number).text ++ more := by
  intro same
  simp only [Factor.text, List.cons_append, List.append_assoc, List.cons.injEq, true_and] at same
  have bracket := congrArg List.head? same
  rw [List.head?_append, inner.text_head, List.head?_append] at bracket
  cases name : column.text.toList with
  | nil => exact columnName_ne_nil column.text column.accepted name
  | cons c cs =>
      rw [name] at bracket
      simp only [Option.some_or, List.head?_cons, Option.some.injEq] at bracket
      exact (columnName_ne column.text column.accepted c (by simp [name])).2 bracket.symm

theorem noAnd {rest : List Char} (free : rest.head? ≠ some ' ') : ¬ " AND ".toList <+: rest := by
  rintro ⟨tail, rfl⟩
  exact free (by simp)

mutual

/-- Two expressions with the same text are the same, if no blank follows their texts. -/
theorem Expression.text_injective : (first second : Expression) → (rest more : List Char) →
    rest.head? ≠ some ' ' → more.head? ≠ some ' ' →
    first.text ++ rest = second.text ++ more → first = second ∧ rest = more
  | .single term, .single other, rest, more, restFree, moreFree, same => by
      obtain ⟨rfl, rfl⟩ := Term.text_injective term other rest more
        (noAnd restFree) (noAnd moreFree) same
      exact ⟨rfl, rfl⟩
  | .single term, .either other tail, rest, more, restFree, _, same => by
      simp only [Expression.text, List.append_assoc] at same
      obtain ⟨-, rfl⟩ := Term.text_injective term other rest _ (noAnd restFree) (by simp) same
      exact absurd rfl restFree
  | .either term tail, .single other, rest, more, _, moreFree, same => by
      simp only [Expression.text, List.append_assoc] at same
      obtain ⟨-, rfl⟩ := Term.text_injective term other _ more (by simp) (noAnd moreFree) same
      exact absurd rfl moreFree
  | .either term tail, .either other others, rest, more, restFree, moreFree, same => by
      simp only [Expression.text, List.append_assoc] at same
      obtain ⟨rfl, tails⟩ := Term.text_injective term other _ _ (by simp) (by simp) same
      obtain ⟨rfl, rfl⟩ := Expression.text_injective tail others rest more restFree moreFree
        (by simpa using tails)
      exact ⟨rfl, rfl⟩

/-- Two terms with the same text are the same, if no AND follows their texts. -/
theorem Term.text_injective : (first second : Term) → (rest more : List Char) →
    ¬ " AND ".toList <+: rest → ¬ " AND ".toList <+: more →
    first.text ++ rest = second.text ++ more → first = second ∧ rest = more
  | .single factor, .single other, rest, more, _, _, same => by
      obtain ⟨rfl, rfl⟩ := Factor.text_injective factor other rest more same
      exact ⟨rfl, rfl⟩
  | .single factor, .both other tail, rest, more, restFree, _, same => by
      simp only [Term.text, List.append_assoc] at same
      obtain ⟨-, rfl⟩ := Factor.text_injective factor other rest _ same
      exact absurd (by simp) restFree
  | .both factor tail, .single other, rest, more, _, moreFree, same => by
      simp only [Term.text, List.append_assoc] at same
      obtain ⟨-, rfl⟩ := Factor.text_injective factor other _ more same
      exact absurd (by simp) moreFree
  | .both factor tail, .both other others, rest, more, restFree, moreFree, same => by
      simp only [Term.text, List.append_assoc] at same
      obtain ⟨rfl, tails⟩ := Factor.text_injective factor other _ _ same
      obtain ⟨rfl, rfl⟩ := Term.text_injective tail others rest more restFree moreFree
        (by simpa using tails)
      exact ⟨rfl, rfl⟩

/-- Two factors with the same text are the same, whatever follows, since their brackets close. -/
theorem Factor.text_injective : (first second : Factor) → (rest more : List Char) →
    first.text ++ rest = second.text ++ more → first = second ∧ rest = more
  | .group inner, .group other, rest, more, same => by
      simp only [Factor.text, List.cons_append, List.append_assoc, List.cons.injEq, true_and,
        List.nil_append] at same
      obtain ⟨rfl, closed⟩ := Expression.text_injective inner other _ _ (by simp) (by simp) same
      exact ⟨rfl, (List.cons.inj closed).2⟩
  | .group inner, .comparison column operator number, rest, more, same => by
      exact absurd same (group_ne_comparison inner column operator number rest more)
  | .comparison column operator number, .group inner, rest, more, same => by
      exact absurd same.symm (group_ne_comparison inner column operator number more rest)
  | .comparison column operator number, .comparison other sign count, rest, more, same =>
      comparison_text_injective column other operator sign number count rest more same

end

/-- A condition has one reading at most. -/
theorem Expression.reading_unique (first second : Expression) (same : first.text = second.text) :
    first = second :=
  (first.text_injective second [] [] (by simp) (by simp) (by simpa using same)).1

end Tabular.Condition
