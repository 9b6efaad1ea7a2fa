import Tabular.Proofs.Filter.Name
import Tabular.Proofs.Outcome
import Tabular.Proofs.Value.Sameness

/-!
This module says which filter is read from which mapping, as rules that do not name the order in
which the reader tests an entry. The reader follows exactly these rules.
-/

namespace Tabular.Filter

mutual

/-- A mapping with one entry is read as this entry, and one with several as their conjunction. -/
inductive Reads : Value → Filter → Prop
  | single {key value : Value} {filter : Filter} (entry : ReadsEntry key value filter) :
      Reads (.map [(key, value)]) filter
  | several {first second : Value × Value} {rest : List (Value × Value)} {terms : List Filter}
      (entries : ReadsEntries (first :: second :: rest) terms) :
      Reads (.map (first :: second :: rest)) (.conjunction terms)

/-- An entry compares a column or joins a list of mappings. -/
inductive ReadsEntry : Value → Value → Filter → Prop
  | equal {column : String} {operand : Value} (named : isColumnName column = true)
      (valid : operand.isOperand = true) :
      ReadsEntry (.text column) operand (.comparison column .equal operand)
  | compared {column name : String} {comparator : Comparator} {operand : Value}
      (named : isColumnName column = true) (known : Comparator.ofName? name = some comparator)
      (valid : operand.isOperand = true) :
      ReadsEntry (.text column) (.map [(.text name, operand)])
        (.comparison column comparator operand)
  | list {name : String} {connective : Connective} {items : List Value} {operands : List Filter}
      (known : Connective.ofName? name = some connective) (filled : items ≠ [])
      (each : ReadsAll items operands) :
      ReadsEntry (.text name) (.list items) (.logical connective operands)
  | tuple {name : String} {connective : Connective} {items : List Value} {operands : List Filter}
      (known : Connective.ofName? name = some connective) (filled : items ≠ [])
      (each : ReadsAll items operands) :
      ReadsEntry (.text name) (.tuple items) (.logical connective operands)

inductive ReadsEntries : List (Value × Value) → List Filter → Prop
  | nil : ReadsEntries [] []
  | cons {key value : Value} {rest : List (Value × Value)} {first : Filter} {others : List Filter}
      (entry : ReadsEntry key value first) (entries : ReadsEntries rest others) :
      ReadsEntries ((key, value) :: rest) (first :: others)

inductive ReadsAll : List Value → List Filter → Prop
  | nil : ReadsAll [] []
  | cons {value : Value} {rest : List Value} {first : Filter} {others : List Filter}
      (item : Reads value first) (items : ReadsAll rest others) :
      ReadsAll (value :: rest) (first :: others)

end

/-! ## The tests of an entry -/

/-- A comparison is read exactly when its column has the form of a name. -/
theorem compare_eq_ok {fragment : Value} {column : String} {comparator : Comparator}
    {operand : Value} {filter : Filter} :
    compare fragment column comparator operand = .ok filter ↔
      isColumnName column = true ∧ filter = .comparison column comparator operand := by
  unfold compare
  split
  · next named =>
      rw [Outcome.pure_eq_ok]
      exact ⟨fun same => ⟨named, same.symm⟩, fun same => same.2.symm⟩
  · next unnamed => exact ⟨nofun, fun accepted => absurd accepted.1 unnamed⟩

/-- What is read below a column is an entry of the grammar. -/
theorem readComparison_reads {fragment : Value} {column : String}
    {entries : List (Value × Value)} {filter : Filter}
    (done : readComparison fragment column entries = .ok filter) :
    ReadsEntry (.text column) (.map entries) filter := by
  unfold readComparison at done
  split at done
  · next operator operand =>
      split at done
      · exact nomatch done
      · next comparator known =>
          obtain ⟨name, isText, named⟩ := Option.bind_eq_some_iff.mp known
          split at done
          · next valid =>
              obtain ⟨column, rfl⟩ := compare_eq_ok.mp done
              cases operator with
              | text content =>
                  obtain rfl := Option.some.inj isText
                  exact .compared column named valid
              | _ => exact nomatch isText
          · exact nomatch done
  · exact nomatch done

/-- So is what is read of a column. -/
theorem readField_reads {key value : Value} {filter : Filter}
    (done : readField key value = .ok filter) : ReadsEntry key value filter := by
  cases key with
  | text name =>
      simp only [readField] at done
      split at done
      · next valid =>
          obtain ⟨named, rfl⟩ := compare_eq_ok.mp done
          exact .equal named valid
      -- Past the operands, only an inner mapping under a column name is not refused.
      · split at done
        · exact nomatch done
        · split at done
          · exact readComparison_reads done
          · unfold refuseEntry at done
            exact nomatch done
  | _ => exact nomatch done

/-- A list is joined when its key is known, it is not empty and all its items are read. -/
theorem joinOperands_eq_ok {key value : Value} {operands : Except Failure (List Filter)}
    {filter : Filter} :
    joinOperands key value operands = .ok filter ↔
      ∃ name connective filters, key = .text name ∧ Connective.ofName? name = some connective ∧
        value.isTrue = true ∧ operands = .ok filters ∧ filter = .logical connective filters := by
  constructor
  · intro done
    cases key with
    | text name =>
        simp only [joinOperands] at done
        split at done
        · next connective known =>
            split at done
            · next filled =>
                obtain ⟨filters, read, rfl⟩ := Outcome.map_eq_ok.mp done
                exact ⟨name, connective, filters, rfl, known, filled, read, rfl⟩
            · exact nomatch done
        · unfold refuseEntry at done
          exact nomatch done
    | _ => exact nomatch done
  · rintro ⟨name, connective, filters, rfl, known, filled, rfl, rfl⟩
    simp only [joinOperands, known, filled, if_true]
    rfl

/-- A column name does not begin with a dollar, so it is no key of a list. -/
theorem startsWithDollar_columnName {name : String} (named : isColumnName name = true) :
    startsWithDollar name = false := by
  rw [startsWithDollar, beq_eq_false_iff_ne]
  intro first
  have char := ColumnName.chars_of_isColumnName named '$' (List.mem_of_mem_head? first)
  exact absurd char (by decide)

/-- No column name is a connective. -/
theorem connective_columnName {name : String} (named : isColumnName name = true) :
    Connective.ofName? name = none := by
  have plain := startsWithDollar_columnName named
  unfold Connective.ofName?
  split
  · exact absurd plain (by decide)
  · exact absurd plain (by decide)
  · rfl

/-- A mapping below a column is read as a comparison. -/
theorem readField_map {column : String} (named : isColumnName column = true)
    (entries : List (Value × Value)) :
    readField (.text column) (.map entries) =
      readComparison (.map [(.text column, .map entries)]) column entries := by
  simp only [readField, Value.isOperand, connective_columnName named,
    startsWithDollar_columnName named, Option.isSome_none, Bool.false_eq_true, if_false]

/-- A known comparator with an operand is read. -/
theorem readComparison_ok {fragment : Value} {column name : String} {comparator : Comparator}
    {operand : Value} (named : isColumnName column = true)
    (known : Comparator.ofName? name = some comparator) (valid : operand.isOperand = true) :
    readComparison fragment column [(.text name, operand)] =
      .ok (.comparison column comparator operand) := by
  simp only [readComparison, Value.text?, Option.bind_some, known, valid, if_true]
  exact compare_eq_ok.mpr ⟨named, rfl⟩

/-- An entry with an operand is read as a column. -/
theorem readEntry_operand (key : Value) {value : Value} (valid : value.isOperand = true) :
    readEntry key value = readField key value := by
  cases value <;> first | rfl | exact nomatch valid

/-! ## The reader follows the rules -/

mutual

/-- What is read of a value, it stands for, by the recursion of the reader. -/
theorem reads_of_read : (value : Value) → {filter : Filter} → read value = .ok filter →
    Reads value filter
  | .map [], _, done => by rw [read] at done; exact nomatch done
  | .map [(key, value)], _, done => by
      rw [read] at done
      exact .single (readsEntry_of_readEntry key value done)
  | .map ((key, value) :: second :: rest), _, done => by
      rw [read] at done
      · obtain ⟨terms, parts, rfl⟩ := Outcome.map_eq_ok.mp done
        exact .several (readsEntries_of_readEntries ((key, value) :: second :: rest) parts)
      all_goals simp
  | .null, _, done | .bool _, _, done | .int _, _, done | .float _, _, done | .text _, _, done
  | .bytes _, _, done | .list _, _, done | .tuple _, _, done | .date _, _, done
  | .moment _, _, done => by
      simp only [read] at done
      exact nomatch done

/-- So it is for an entry. -/
theorem readsEntry_of_readEntry (key : Value) : (value : Value) → {filter : Filter} →
    readEntry key value = .ok filter → ReadsEntry key value filter
  | .list items, _, done => by
      rw [readEntry, joinOperands_eq_ok] at done
      obtain ⟨_, _, _, rfl, known, filled, parts, rfl⟩ := done
      exact .list known (Value.isTrue_list.mp filled) (readsAll_of_readAll items parts)
  | .tuple items, _, done => by
      rw [readEntry, joinOperands_eq_ok] at done
      obtain ⟨_, _, _, rfl, known, filled, parts, rfl⟩ := done
      exact .tuple known (Value.isTrue_tuple.mp filled) (readsAll_of_readAll items parts)
  | .null, _, done | .bool _, _, done | .int _, _, done | .float _, _, done | .text _, _, done
  | .bytes _, _, done | .map _, _, done | .date _, _, done | .moment _, _, done => by
      simp only [readEntry] at done
      exact readField_reads done

/-- So it is for the entries of a mapping. -/
theorem readsEntries_of_readEntries : (entries : List (Value × Value)) →
    {filters : List Filter} → readEntries entries = .ok filters → ReadsEntries entries filters
  | [], _, done => by
      obtain rfl := Outcome.pure_eq_ok.mp done
      exact .nil
  | (key, value) :: rest, _, done => by
      rw [readEntries] at done
      obtain ⟨first, firstRead, done⟩ := Outcome.bind_eq_ok.mp done
      obtain ⟨others, othersRead, same⟩ := Outcome.bind_eq_ok.mp done
      obtain rfl := Outcome.pure_eq_ok.mp same
      exact .cons (readsEntry_of_readEntry key value firstRead)
        (readsEntries_of_readEntries rest othersRead)

/-- So it is for the operands of a connective. -/
theorem readsAll_of_readAll : (items : List Value) → {filters : List Filter} →
    readAll items = .ok filters → ReadsAll items filters
  | [], _, done => by
      obtain rfl := Outcome.pure_eq_ok.mp done
      exact .nil
  | value :: rest, _, done => by
      rw [readAll] at done
      obtain ⟨first, firstRead, done⟩ := Outcome.bind_eq_ok.mp done
      obtain ⟨others, othersRead, same⟩ := Outcome.bind_eq_ok.mp done
      obtain rfl := Outcome.pure_eq_ok.mp same
      exact .cons (reads_of_read value firstRead) (readsAll_of_readAll rest othersRead)

end

mutual

/-- A value is read as every filter that it stands for. -/
theorem Reads.read_ok : {value : Value} → {filter : Filter} → Reads value filter →
    read value = .ok filter
  | _, _, .single entry => by rw [read, entry.read_ok]
  | _, _, .several entries => by
      rw [read, entries.read_ok]
      · rfl
      all_goals simp

/-- So is an entry. -/
theorem ReadsEntry.read_ok : {key value : Value} → {filter : Filter} →
    ReadsEntry key value filter → readEntry key value = .ok filter
  | _, _, _, .equal named valid => by
      rw [readEntry_operand _ valid]
      simp only [readField, valid, if_true]
      exact compare_eq_ok.mpr ⟨named, rfl⟩
  | _, _, _, .compared named known valid => by
      rw [readEntry, readField_map named]
      · exact readComparison_ok named known valid
      all_goals simp
  | _, _, _, .list known filled each => by
      rw [readEntry, joinOperands_eq_ok]
      exact ⟨_, _, _, rfl, known, Value.isTrue_list.mpr filled, each.read_ok, rfl⟩
  | _, _, _, .tuple known filled each => by
      rw [readEntry, joinOperands_eq_ok]
      exact ⟨_, _, _, rfl, known, Value.isTrue_tuple.mpr filled, each.read_ok, rfl⟩

/-- So are the entries of a mapping. -/
theorem ReadsEntries.read_ok : {entries : List (Value × Value)} → {filters : List Filter} →
    ReadsEntries entries filters → readEntries entries = .ok filters
  | _, _, .nil => rfl
  | _, _, .cons entry entries => by
      rw [readEntries, entry.read_ok, entries.read_ok]
      rfl

/-- So are the operands of a connective. -/
theorem ReadsAll.read_ok : {items : List Value} → {filters : List Filter} →
    ReadsAll items filters → readAll items = .ok filters
  | _, _, .nil => rfl
  | _, _, .cons item items => by
      rw [readAll, item.read_ok, items.read_ok]
      rfl

end

/-- A value is read as a filter exactly when it stands for it. -/
theorem read_eq_ok {value : Value} {filter : Filter} :
    read value = .ok filter ↔ Reads value filter :=
  ⟨reads_of_read value, Reads.read_ok⟩

end Tabular.Filter
