import Tabular.Proofs.Filter.Reading

/-!
This module gives the grammar of filters and shows that exactly the values of the grammar are read.
Every other value is refused as a filter, and for no other reason.
-/

namespace Tabular

/-! ## The grammar -/

/-- The values that can be compared with a column. -/
inductive Value.IsOperand : Value → Prop
  | bool (value : Bool) : IsOperand (.bool value)
  | int (value : Int) : IsOperand (.int value)
  | float (value : Binary64) : IsOperand (.float value)
  | bytes (value : List UInt8) : IsOperand (.bytes value)
  | date (value : Date) : IsOperand (.date value)
  | moment (value : Moment) : IsOperand (.moment value)
  | text {content : String} (plain : ¬ ['$'] <+: content.toList) : IsOperand (.text content)

mutual

/-- The least set of filters. A filter is a mapping that is not empty and has entries of the
grammar only. -/
inductive Filter.Grammar : Value → Prop
  | mapping {entries : List (Value × Value)} (filled : entries ≠ [])
      (each : ∀ entry ∈ entries, EntryGrammar entry.1 entry.2) : Grammar (.map entries)

/-- An entry compares a column with a value, joins filters, or compares by a named operator. -/
inductive Filter.EntryGrammar : Value → Value → Prop
  | equal {column : String} {operand : Value} (named : column.toList ∈ ColumnName.pattern)
      (valid : operand.IsOperand) : EntryGrammar (.text column) operand
  | list {name : String} {items : List Value} (known : name ∈ ["$and", "$or"])
      (filled : items ≠ []) (each : ∀ item ∈ items, Grammar item) :
      EntryGrammar (.text name) (.list items)
  | tuple {name : String} {items : List Value} (known : name ∈ ["$and", "$or"])
      (filled : items ≠ []) (each : ∀ item ∈ items, Grammar item) :
      EntryGrammar (.text name) (.tuple items)
  | compared {column operator : String} {operand : Value}
      (named : column.toList ∈ ColumnName.pattern)
      (known : operator ∈ ["$eq", "$gt", "$lt", "$ge", "$le"]) (valid : operand.IsOperand) :
      EntryGrammar (.text column) (.map [(.text operator, operand)])

end

namespace Filter

/-- The test of an operand decides the operands of the grammar. -/
theorem isOperand_iff (value : Value) : value.isOperand = true ↔ value.IsOperand := by
  constructor
  · intro valid
    cases value with
    | text content =>
        refine .text fun ⟨rest, same⟩ => ?_
        rw [Value.isOperand, ← same] at valid
        exact absurd valid (by simp)
    | bool value => exact .bool value
    | int value => exact .int value
    | float value => exact .float value
    | bytes value => exact .bytes value
    | date value => exact .date value
    | moment value => exact .moment value
    | _ => exact absurd valid Bool.false_ne_true
  · intro valid
    cases valid with
    | text plain =>
        rw [Value.isOperand, bne_iff_ne]
        intro first
        obtain ⟨rest, same⟩ := List.head?_eq_some_iff.mp first
        exact plain ⟨rest, same.symm⟩
    | _ => rfl

/-- The names of the comparators are the five of the grammar. -/
theorem comparator_known (name : String) :
    (∃ comparator, Comparator.ofName? name = some comparator) ↔
      name ∈ ["$eq", "$gt", "$lt", "$ge", "$le"] := by
  simp only [List.mem_cons, List.not_mem_nil, or_false]
  constructor
  · rintro ⟨comparator, known⟩
    unfold Comparator.ofName? at known
    split at known <;> cases known <;> simp
  · rintro (rfl | rfl | rfl | rfl | rfl) <;> exact ⟨_, rfl⟩

/-- The names of the connectives are the two of the grammar. -/
theorem connective_known (name : String) :
    (∃ connective, Connective.ofName? name = some connective) ↔ name ∈ ["$and", "$or"] := by
  simp only [List.mem_cons, List.not_mem_nil, or_false]
  constructor
  · rintro ⟨connective, known⟩
    unfold Connective.ofName? at known
    split at known <;> cases known <;> simp
  · rintro (rfl | rfl) <;> exact ⟨_, rfl⟩

/-! ## What is read is in the grammar -/

mutual

/-- A value that is read as a filter is in the grammar. -/
theorem Reads.grammar : {value : Value} → {filter : Filter} → Reads value filter → Grammar value
  | _, _, .single entry => .mapping (List.cons_ne_nil _ _) (by simpa using entry.grammar)
  | _, _, .several entries => .mapping (List.cons_ne_nil _ _) entries.grammar

/-- So is every entry that is read. -/
theorem ReadsEntry.grammar : {key value : Value} → {filter : Filter} →
    ReadsEntry key value filter → EntryGrammar key value
  | _, _, _, .equal named valid =>
      .equal ((ColumnName.isColumnName_iff _).mp named) ((isOperand_iff _).mp valid)
  | _, _, _, .compared named known valid =>
      .compared ((ColumnName.isColumnName_iff _).mp named) ((comparator_known _).mp ⟨_, known⟩)
        ((isOperand_iff _).mp valid)
  | _, _, _, .list known filled each =>
      .list ((connective_known _).mp ⟨_, known⟩) filled each.grammar
  | _, _, _, .tuple known filled each =>
      .tuple ((connective_known _).mp ⟨_, known⟩) filled each.grammar

/-- The entries of a mapping are so one by one. -/
theorem ReadsEntries.grammar : {entries : List (Value × Value)} → {filters : List Filter} →
    ReadsEntries entries filters → ∀ entry ∈ entries, EntryGrammar entry.1 entry.2
  | _, _, .nil => nofun
  | _, _, .cons entry entries => List.forall_mem_cons.mpr ⟨entry.grammar, entries.grammar⟩

/-- The operands of a connective are so one by one. -/
theorem ReadsAll.grammar : {items : List Value} → {filters : List Filter} →
    ReadsAll items filters → ∀ item ∈ items, Grammar item
  | _, _, .nil => nofun
  | _, _, .cons item items => List.forall_mem_cons.mpr ⟨item.grammar, items.grammar⟩

end

/-! ## What is in the grammar is read -/

/-- Entries that can each be read can be read together. -/
theorem readsEntries_of_each {entries : List (Value × Value)}
    (each : ∀ entry ∈ entries, ∃ filter, ReadsEntry entry.1 entry.2 filter) :
    ∃ filters, ReadsEntries entries filters := by
  induction entries with
  | nil => exact ⟨[], .nil⟩
  | cons entry rest inductionHypothesis =>
      obtain ⟨⟨filter, reads⟩, eachRest⟩ := List.forall_mem_cons.mp each
      obtain ⟨filters, readsRest⟩ := inductionHypothesis eachRest
      exact ⟨filter :: filters, .cons reads readsRest⟩

/-- Operands that can each be read can be read together. -/
theorem readsAll_of_each {items : List Value} (each : ∀ item ∈ items, ∃ filter, Reads item filter) :
    ∃ filters, ReadsAll items filters := by
  induction items with
  | nil => exact ⟨[], .nil⟩
  | cons item rest inductionHypothesis =>
      obtain ⟨⟨filter, reads⟩, eachRest⟩ := List.forall_mem_cons.mp each
      obtain ⟨filters, readsRest⟩ := inductionHypothesis eachRest
      exact ⟨filter :: filters, .cons reads readsRest⟩

/-- A mapping with some entries is read as its only entry or as all of them joined. -/
theorem reads_of_readsEntries {entries : List (Value × Value)} {filters : List Filter}
    (filled : entries ≠ []) (reads : ReadsEntries entries filters) :
    ∃ filter, Reads (.map entries) filter := by
  match entries, reads with
  | [], _ => exact absurd rfl filled
  | [(key, value)], .cons entry _ => exact ⟨_, .single entry⟩
  | first :: second :: rest, reads => exact ⟨_, .several reads⟩

mutual

/-- Every value in the grammar is read as some filter. -/
theorem Grammar.reads : {value : Value} → Grammar value → ∃ filter, Reads value filter
  | _, .mapping filled each => by
      obtain ⟨filters, reads⟩ := readsEntries_of_each fun entry member => (each entry member).reads
      exact reads_of_readsEntries filled reads

/-- Every entry in the grammar is read as some filter. -/
theorem EntryGrammar.reads : {key value : Value} → EntryGrammar key value →
    ∃ filter, ReadsEntry key value filter
  | _, _, .equal named valid =>
      ⟨_, .equal ((ColumnName.isColumnName_iff _).mpr named) ((isOperand_iff _).mpr valid)⟩
  | _, _, .compared named known valid => by
      obtain ⟨comparator, known⟩ := (comparator_known _).mpr known
      exact ⟨_, .compared ((ColumnName.isColumnName_iff _).mpr named) known
        ((isOperand_iff _).mpr valid)⟩
  | _, _, .list known filled each => by
      obtain ⟨connective, known⟩ := (connective_known _).mpr known
      obtain ⟨filters, reads⟩ := readsAll_of_each fun item member => (each item member).reads
      exact ⟨_, .list known filled reads⟩
  | _, _, .tuple known filled each => by
      obtain ⟨connective, known⟩ := (connective_known _).mpr known
      obtain ⟨filters, reads⟩ := readsAll_of_each fun item member => (each item member).reads
      exact ⟨_, .tuple known filled reads⟩

end

/-! ## What is refused -/

/-- An outcome that is a failure is a refused filter. -/
def Refuses {α : Type} (outcome : Except Failure α) : Prop :=
  ∀ failure, outcome = .error failure → ∃ fragment reason, failure = .filter fragment reason

section Refuses

variable {α β : Type}

/-- What returns refuses nothing. -/
theorem refuses_ok (result : α) : Refuses (.ok result) := fun _ failed => nomatch failed

/-- A complaint about a filter is a refusal of the right kind. -/
theorem refuses_filter (fragment : Value) (reason : String) :
    Refuses (.error (.filter fragment reason) : Except Failure α) :=
  fun _ failed => ⟨fragment, reason, (Except.error.inj failed).symm⟩

/-- Two readings that refuse rightly do so one after the other. -/
theorem Refuses.bind {outcome : Except Failure α} {next : α → Except Failure β}
    (refuses : Refuses outcome) (rest : ∀ result, Refuses (next result)) :
    Refuses (outcome >>= next) := by
  cases outcome with
  | error failure => exact fun _ failed => refuses _ (congrArg _ (Except.error.inj failed))
  | ok result => exact rest result

/-- Changing what was read does not change how it is refused. -/
theorem Refuses.map {outcome : Except Failure α} (refuses : Refuses outcome) (change : α → β) :
    Refuses (outcome.map change) := by
  cases outcome with
  | error failure => exact fun _ failed => refuses _ (congrArg _ (Except.error.inj failed))
  | ok result => exact refuses_ok _

end Refuses

/-- A comparison is refused by a complaint about the filter only. -/
theorem compare_refuses (fragment : Value) (column : String) (comparator : Comparator)
    (operand : Value) : Refuses (compare fragment column comparator operand) := by
  unfold compare
  split
  · exact refuses_ok _
  · exact refuses_filter _ _

/-- So are the entries that stand below a column. -/
theorem readComparison_refuses (fragment : Value) (column : String)
    (entries : List (Value × Value)) : Refuses (readComparison fragment column entries) := by
  unfold readComparison
  split
  · split
    · exact refuses_filter _ _
    · split
      · exact compare_refuses _ _ _ _
      · exact refuses_filter _ _
  · exact refuses_filter _ _

/-- So is the condition on one column. -/
theorem readField_refuses (key value : Value) : Refuses (readField key value) := by
  unfold readField
  split
  · split
    · exact compare_refuses _ _ _ _
    · split
      · exact refuses_filter _ _
      · split
        · exact readComparison_refuses _ _ _
        · exact refuses_filter _ _
  · exact refuses_filter _ _

/-- A connective is refused for its own operands or as they are. -/
theorem joinOperands_refuses (key value : Value) {operands : Except Failure (List Filter)}
    (refuses : Refuses operands) : Refuses (joinOperands key value operands) := by
  unfold joinOperands
  split
  · split
    · split
      · exact refuses.map _
      · exact refuses_filter _ _
    · exact refuses_filter _ _
  · exact refuses_filter _ _

mutual

/-- A value is refused by a complaint about the filter only, whatever its shape. -/
theorem read_refuses : (value : Value) → Refuses (read value)
  | .map [] => by rw [read]; exact refuses_filter _ _
  | .map [(key, value)] => by rw [read]; exact readEntry_refuses key value
  | .map ((key, value) :: second :: rest) => by
      rw [read]
      · exact (readEntries_refuses ((key, value) :: second :: rest)).map _
      all_goals simp
  | .null | .bool _ | .int _ | .float _ | .text _ | .bytes _ | .list _ | .tuple _ | .date _
  | .moment _ => by
      simp only [read]
      exact refuses_filter _ _

/-- So is an entry of a mapping. -/
theorem readEntry_refuses (key : Value) : (value : Value) → Refuses (readEntry key value)
  | .list items => by rw [readEntry]; exact joinOperands_refuses _ _ (readAll_refuses items)
  | .tuple items => by rw [readEntry]; exact joinOperands_refuses _ _ (readAll_refuses items)
  | .null | .bool _ | .int _ | .float _ | .text _ | .bytes _ | .map _ | .date _ | .moment _ => by
      simp only [readEntry]
      exact readField_refuses _ _

/-- So is a list of entries, at the first one that is refused. -/
theorem readEntries_refuses : (entries : List (Value × Value)) → Refuses (readEntries entries)
  | [] => refuses_ok _
  | (key, value) :: rest => by
      rw [readEntries]
      exact (readEntry_refuses key value).bind fun _ =>
        (readEntries_refuses rest).bind fun _ => refuses_ok _

/-- So is a list of operands. -/
theorem readAll_refuses : (items : List Value) → Refuses (readAll items)
  | [] => refuses_ok _
  | value :: rest => by
      rw [readAll]
      exact (read_refuses value).bind fun _ => (readAll_refuses rest).bind fun _ => refuses_ok _

end

/-- A value of the grammar is read as a filter, and every other value is refused as no filter. -/
theorem read_decidesGrammar (value : Value) :
    (Grammar value ∧ ∃ filter, read value = .ok filter) ∨
      (¬ Grammar value ∧ ∃ fragment reason, read value = .error (.filter fragment reason)) := by
  cases outcome : read value with
  | ok filter => exact .inl ⟨(read_eq_ok.mp outcome).grammar, filter, rfl⟩
  | error failure =>
      refine .inr ⟨fun inside => ?_, ?_⟩
      · obtain ⟨filter, reads⟩ := inside.reads
        rw [reads.read_ok] at outcome
        exact nomatch outcome
      · obtain ⟨fragment, reason, rfl⟩ := read_refuses value failure outcome
        exact ⟨fragment, reason, rfl⟩

end Filter

end Tabular
