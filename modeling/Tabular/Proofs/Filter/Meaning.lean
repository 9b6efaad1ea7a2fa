import Tabular.Proofs.Filter.Reading
import Tabular.Proofs.Filter.Truth
import Tabular.Proofs.Parameter.Binding

/-!
This module shows that a filter says what the mapping says from which it was read.
-/

namespace Tabular.Filter

/-! ## Reading a mapping -/

theorem ReadsEntries.ne_nil {entries : List (Value × Value)} {filters : List Filter}
    (reads : ReadsEntries entries filters) (filled : entries ≠ []) : filters ≠ [] := by
  cases reads with
  | nil => exact absurd rfl filled
  | cons entry entries => exact List.cons_ne_nil _ _

theorem ReadsAll.ne_nil {items : List Value} {filters : List Filter}
    (reads : ReadsAll items filters) (filled : items ≠ []) : filters ≠ [] := by
  cases reads with
  | nil => exact absurd rfl filled
  | cons item items => exact List.cons_ne_nil _ _

mutual

/-- A filter that is read can be written. -/
theorem Reads.writable : {value : Value} → {filter : Filter} → Reads value filter →
    filter.Writable
  | _, _, .single entry => entry.writable
  | _, _, .several entries => ⟨entries.ne_nil (List.cons_ne_nil _ _), entries.writable⟩

theorem ReadsEntry.writable : {key value : Value} → {filter : Filter} →
    ReadsEntry key value filter → filter.Writable
  | _, _, _, .equal named valid => ⟨named, valid⟩
  | _, _, _, .compared named _ valid => ⟨named, valid⟩
  | _, _, _, .list _ filled each => ⟨each.ne_nil filled, each.writable⟩
  | _, _, _, .tuple _ filled each => ⟨each.ne_nil filled, each.writable⟩

theorem ReadsEntries.writable : {entries : List (Value × Value)} → {filters : List Filter} →
    ReadsEntries entries filters → AllWritable filters
  | _, _, .nil => trivial
  | _, _, .cons entry entries => ⟨entry.writable, entries.writable⟩

theorem ReadsAll.writable : {items : List Value} → {filters : List Filter} →
    ReadsAll items filters → AllWritable filters
  | _, _, .nil => trivial
  | _, _, .cons item items => ⟨item.writable, items.writable⟩

end

theorem operand_stored {operand : Value} (valid : operand.isOperand = true) :
    ∃ stored, operand.stored = .ok stored := by
  cases operand <;> first | exact ⟨_, rfl⟩ | exact nomatch valid

/-- Each comparison is written with the sign that its name stands for. -/
theorem symbol_ofName {name : String} {comparator : Comparator}
    (known : Comparator.ofName? name = some comparator) :
    Value.comparisonSign? name = some comparator.symbol := by
  unfold Comparator.ofName? at known
  split at known <;> cases known <;> rfl

/-- Each list is joined as its name says. -/
theorem listTruth_ofName {name : String} {connective : Connective}
    (known : Connective.ofName? name = some connective) (truths : Option (List Truth)) :
    Value.listTruth (.text name) truths = truths.map (connectiveTruth connective) := by
  unfold Connective.ofName? at known
  split at known <;> cases known <;> rfl

theorem entryTruth_operand (assignment : Assignment) (column : String) {value : Value}
    (valid : value.isOperand = true) :
    Value.entryTruth assignment (.text column) value =
      Value.comparisonTruth assignment column "=" value := by
  cases value <;> first | rfl | exact nomatch valid

mutual

/-- A filter has the truth value of the mapping from which it is read. -/
theorem Reads.truth_eq (assignment : Assignment) : {value : Value} → {filter : Filter} →
    Reads value filter → filter.truth assignment = value.truth assignment
  | _, _, .single entry => by
      rw [entry.truth_eq assignment, Value.truth, Value.entriesTruth, Value.entriesTruth]
      cases Value.entryTruth assignment _ _ <;> simp [Truth.all]
  | _, _, .several entries => by rw [truth, entries.truth_eq assignment, Value.truth]

theorem ReadsEntry.truth_eq (assignment : Assignment) : {key value : Value} →
    {filter : Filter} → ReadsEntry key value filter →
    filter.truth assignment = Value.entryTruth assignment key value
  | _, _, _, .equal _ valid => (entryTruth_operand assignment _ valid).symm
  | _, _, _, .compared _ known _ => by
      simp only [Value.entryTruth, Value.fieldTruth, symbol_ofName known, Option.bind_some, truth]
  | _, _, _, .list known _ each => by
      rw [truth, each.truth_eq assignment, Value.entryTruth, listTruth_ofName known]
  | _, _, _, .tuple known _ each => by
      rw [truth, each.truth_eq assignment, Value.entryTruth, listTruth_ofName known]

theorem ReadsEntries.truth_eq (assignment : Assignment) : {entries : List (Value × Value)} →
    {filters : List Filter} → ReadsEntries entries filters →
    truths assignment filters = Value.entriesTruth assignment entries
  | _, _, .nil => rfl
  | _, _, .cons entry entries => by
      rw [truths, Value.entriesTruth, entry.truth_eq assignment, entries.truth_eq assignment]

theorem ReadsAll.truth_eq (assignment : Assignment) : {items : List Value} →
    {filters : List Filter} → ReadsAll items filters →
    truths assignment filters = Value.itemsTruth assignment items
  | _, _, .nil => rfl
  | _, _, .cons item items => by
      rw [truths, Value.itemsTruth, item.truth_eq assignment, items.truth_eq assignment]

end

/-! ## Compiling a mapping -/

theorem Reads.compile_eq {mapping : Value} {filter : Filter} (reads : Reads mapping filter) :
    compile mapping = condition filter := by
  rw [compile, reads.read_ok]
  rfl

theorem compile_refused {mapping : Value} {failure : Failure}
    (refused : read mapping = .error failure) (binder : Binder) :
    (compile mapping).runWith binder = (.error failure, binder) := by
  rw [compile, Binding.runWith_bind, refused, Binding.runWith_lift]

/-- What is compiled is read as a filter and written. -/
theorem compile_eq_ok {mapping : Value} {binder later : Binder} {sql : String}
    (done : (compile mapping).runWith binder = (.ok sql, later)) :
    ∃ filter, Reads mapping filter ∧ (condition filter).runWith binder = (.ok sql, later) := by
  cases outcome : read mapping with
  | error failure =>
      rw [compile_refused outcome] at done
      exact absurd (Prod.mk.inj done).1 (by simp)
  | ok filter =>
      have reads := read_eq_ok.mp outcome
      exact ⟨filter, reads, reads.compile_eq ▸ done⟩

/-- A filter that is read can be written and has the truth value of its mapping. -/
theorem read_ok (assignment : Assignment) (value : Value) {filter : Filter}
    (accepted : read value = .ok filter) :
    filter.Writable ∧ filter.truth assignment = value.truth assignment :=
  have reads := read_eq_ok.mp accepted
  ⟨reads.writable, reads.truth_eq assignment⟩

end Tabular.Filter
