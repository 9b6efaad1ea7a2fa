import Tabular.Proofs.Filter.Meaning
import Tabular.Proofs.Parameter.Allocation
import Tabular.Proofs.Sql.Placeholder

/-!
This module shows that a compilation allocates one parameter for each comparison of a filter, from
left to right, or none at all.
-/

namespace Tabular

/-! ## The operands of a mapping -/

namespace Value

mutual

/-- This function lists the operands of the comparisons in a mapping from left to right. -/
def operands : Value → List Value
  | .map entries => entriesOperands entries
  | _ => []

/-- An entry holds mappings, or one operand under an operator, or an operand. -/
def entryOperands : Value → List Value
  | .list items => itemsOperands items
  | .tuple items => itemsOperands items
  | .map entries => entries.map Prod.snd
  | operand => [operand]

def entriesOperands : List (Value × Value) → List Value
  | [] => []
  | (_, value) :: rest => entryOperands value ++ entriesOperands rest

def itemsOperands : List Value → List Value
  | [] => []
  | item :: rest => operands item ++ itemsOperands rest

end

theorem entryOperands_operand {operand : Value} (valid : operand.isOperand = true) :
    entryOperands operand = [operand] := by
  cases operand <;> first | rfl | exact nomatch valid

end Value

namespace Filter

mutual

/-- This function lists the operands of a filter from left to right. -/
def operands : Filter → List Value
  | .comparison _ _ operand => [operand]
  | .logical _ filters => allOperands filters
  | .conjunction terms => allOperands terms

def allOperands : List Filter → List Value
  | [] => []
  | filter :: rest => operands filter ++ allOperands rest

end

mutual

/-- A filter has the operands of the mapping from which it is read. -/
theorem Reads.operands_eq : {value : Value} → {filter : Filter} → Reads value filter →
    filter.operands = value.operands
  | _, _, .single entry => by
      rw [entry.operands_eq, Value.operands, Value.entriesOperands, Value.entriesOperands,
        List.append_nil]
  | _, _, .several entries => by rw [operands, entries.operands_eq, Value.operands]

theorem ReadsEntry.operands_eq : {key value : Value} → {filter : Filter} →
    ReadsEntry key value filter → filter.operands = value.entryOperands
  | _, _, _, .equal _ valid => (Value.entryOperands_operand valid).symm
  | _, _, _, .compared _ _ _ => rfl
  | _, _, _, .list _ _ each => by rw [operands, each.operands_eq, Value.entryOperands]
  | _, _, _, .tuple _ _ each => by rw [operands, each.operands_eq, Value.entryOperands]

theorem ReadsEntries.operands_eq : {entries : List (Value × Value)} → {filters : List Filter} →
    ReadsEntries entries filters → allOperands filters = Value.entriesOperands entries
  | _, _, .nil => rfl
  | _, _, .cons entry entries => by
      rw [allOperands, Value.entriesOperands, entry.operands_eq, entries.operands_eq]

theorem ReadsAll.operands_eq : {items : List Value} → {filters : List Filter} →
    ReadsAll items filters → allOperands filters = Value.itemsOperands items
  | _, _, .nil => rfl
  | _, _, .cons item items => by
      rw [allOperands, Value.itemsOperands, item.operands_eq, items.operands_eq]

end

/-! ## The placeholders of a condition -/

open Binding

theorem comparison_placeholders {column : String} (named : isColumnName column = true)
    (comparator : Comparator) (text : String) :
    Sql.placeholders ("(" ++ column ++ " " ++ comparator.symbol ++ " " ++ text ++ ")") =
      Sql.placeholders text := by
  have dollarFree : '$' ∉ column.toList := fun member =>
    absurd (ColumnName.chars_of_isColumnName named '$' member) (by decide)
  have free : '$' ∉ ("(" ++ column ++ " " ++ comparator.symbol ++ " ").toList := by
    cases comparator <;> simp [String.toList_append, dollarFree, Comparator.symbol]
  rw [Sql.placeholders_closed _ (by decide) (by decide), Sql.placeholders_free free]

theorem joined_placeholders (connective : Connective) (parts : List String) :
    Sql.placeholders (String.intercalate connective.symbol parts) =
      parts.flatMap Sql.placeholders := by
  cases connective <;>
    exact Sql.placeholders_intercalate (by decide) (by decide) (by decide) parts

theorem bracket_placeholders (text : String) :
    Sql.placeholders ("(" ++ text ++ ")") = Sql.placeholders text := by
  rw [Sql.placeholders_closed _ (by decide) (by decide), Sql.placeholders_free (by decide)]

mutual

/-- A filter that can be written allocates its operands, and no conversion fails. -/
theorem condition_allocates : (filter : Filter) → filter.Writable →
    Allocates (condition filter) Sql.placeholders filter.operands
  | .comparison column comparator operand, ⟨named, valid⟩ => by
      obtain ⟨stored, kept⟩ := operand_stored valid
      rw [condition]
      exact (allocates_add kept Sql.placeholders_placeholder).map
        (comparison_placeholders named comparator)
  | .logical connective operands, ⟨_, writable⟩ => by
      rw [condition]
      refine (conditions_allocate operands writable).map fun parts => ?_
      rw [bracket_placeholders, joined_placeholders]
  | .conjunction terms, ⟨_, writable⟩ => by
      rw [condition]
      exact (conditions_allocate terms writable).map (joined_placeholders .all)

theorem conditions_allocate : (filters : List Filter) → AllWritable filters →
    Allocates (conditions filters) (fun parts => parts.flatMap Sql.placeholders)
      (allOperands filters)
  | [], _ => by
      rw [conditions]
      exact allocates_pure rfl
  | filter :: rest, ⟨writable, allWritable⟩ => by
      rw [conditions]
      exact (condition_allocates filter writable).append (conditions_allocate rest allWritable)
        fun _ _ => rfl

end

/-- A mapping that is read as a filter is compiled and allocates its operands. -/
theorem Reads.compile_allocates {mapping : Value} {filter : Filter} (reads : Reads mapping filter) :
    Allocates (compile mapping) Sql.placeholders mapping.operands := by
  rw [reads.compile_eq, ← reads.operands_eq]
  exact condition_allocates filter reads.writable

end Filter

/-! ## Binders -/

namespace Binder

/-- This function adds values to an empty binder one by one. A failed addition is passed over. -/
def reached (calls : List Value) : Binder :=
  calls.foldl (fun binder value => ((Binding.add value).runWith binder).2) .empty

theorem foldl_add_values (calls : List Value) (binder : Binder) :
    (calls.foldl (fun binder value => ((Binding.add value).runWith binder).2) binder).values =
      binder.values ++ calls.filterMap fun value => value.stored.toOption := by
  induction calls generalizing binder with
  | nil => exact (List.append_nil _).symm
  | cons value rest inductionHypothesis =>
      rw [List.foldl_cons, inductionHypothesis]
      cases outcome : value.stored with
      | error failure => simp [Binding.runWith_add_error outcome, outcome, Except.toOption]
      | ok stored => simp [Binding.runWith_add outcome, outcome, Except.toOption]

/-- The binder holds the stored forms of the values that have one, in order. -/
theorem reached_values (calls : List Value) :
    (reached calls).values = calls.filterMap fun value => value.stored.toOption :=
  foldl_add_values calls .empty

end Binder

/-- The parameters of a binder are numbered in order. A compilation either fails because the mapping
is no filter, and keeps the binder, or it adds one parameter for each comparison and shows exactly
the placeholders of these. -/
theorem Filter.compile_allocatesExactly (calls : List Value) (mapping : Value) :
    let binder := Binder.reached calls
    let kept := calls.filterMap fun value => value.stored.toOption
    (binder.size = kept.length ∧ binder.parameters = .map (Binder.numbered 1 kept)) ∧
      ((∃ failure, read mapping = .error failure ∧
          (compile mapping).runWith binder = (.error failure, binder)) ∨
        ∃ filter sql later bound, read mapping = .ok filter ∧
          (compile mapping).runWith binder = (.ok sql, later) ∧
          List.Forall₂ (fun operand stored => operand.stored = .ok stored) mapping.operands bound ∧
          later.size = kept.length + bound.length ∧
          later.parameters =
            .map (Binder.numbered 1 kept ++ Binder.numbered (kept.length + 1) bound) ∧
          Sql.placeholders sql = Binder.placeholdersFrom (kept.length + 1) bound.length) := by
  intro binder kept
  have values : binder.values = kept := Binder.reached_values calls
  have size : binder.size = kept.length := congrArg List.length values
  refine ⟨⟨size, by rw [Binder.parameters_eq, values]⟩, ?_⟩
  -- Nothing is bound before the whole mapping is read, and afterwards no operand is refused.
  cases outcome : read mapping with
  | error failure => exact .inl ⟨failure, rfl, compile_refused outcome binder⟩
  | ok filter =>
      obtain ⟨sql, bound, done, each, placeholders⟩ :=
        (read_eq_ok.mp outcome).compile_allocates binder
      refine .inr ⟨filter, sql, _, bound, rfl, done, each, ?_, ?_, ?_⟩
      · rw [Binder.size, List.length_append, values]
      · rw [Binder.parameters_eq, values, Binder.numbered_append, Nat.add_comm 1]
      · rw [placeholders, size]

end Tabular
