import Tabular.Proofs.Filter.Meaning
import Tabular.Proofs.Parameter.Parallel
import Tabular.Proofs.Query.Clauses

/-!
This module shows that the text of a statement is blind to the values that it compares and sets. Two
queries whose filters have one outline give the same text and parameters of the same names.
-/

namespace Tabular

/-! ## Outlines -/

namespace Value

mutual

/-- This function keeps the keys and the lists of a value and blots out everything else. -/
def outline : Value → Value
  | .list items => .list (outlines items)
  | .tuple items => .tuple (outlines items)
  | .map entries => .map (entryOutlines entries)
  | _ => .null

def outlines : List Value → List Value
  | [] => []
  | item :: rest => outline item :: outlines rest

def entryOutlines : List (Value × Value) → List (Value × Value)
  | [] => []
  | (key, value) :: rest => (key, outline value) :: entryOutlines rest

end

theorem entryOutlines_isEmpty (entries : List (Value × Value)) :
    (entryOutlines entries).isEmpty = entries.isEmpty := by
  cases entries <;> rfl

/-- An operand is blotted out. -/
theorem outline_operand {operand : Value} (valid : operand.isOperand = true) :
    operand.outline = .null := by
  cases operand <;> first | rfl | exact nomatch valid

end Value

namespace Filter

open Binding

/-- A comparison shows its column, its sign and the number of its parameter. -/
theorem parallel_comparison (column : String) (comparator : Comparator) (operand instead : Value) :
    Parallel (condition (.comparison column comparator operand))
      (condition (.comparison column comparator instead)) := by
  rw [condition, condition]
  exact (parallel_add operand instead).bind fun _ => parallel_pure _

/-- Connectives over parallel operands are compiled in parallel. -/
theorem parallel_logical {connective : Connective} {operands others : List Filter}
    (parallel : Parallel (conditions operands) (conditions others)) :
    Parallel (condition (.logical connective operands)) (condition (.logical connective others)) := by
  rw [condition, condition]
  exact parallel.bind fun _ => parallel_pure _

mutual

/-- Filters that are read from mappings of one outline are written alike. -/
theorem Reads.parallel : {value other : Value} → {filter alike : Filter} →
    Reads value filter → Reads other alike → value.outline = other.outline →
    Parallel (condition filter) (condition alike)
  | _, _, _, _, .single entry, .single alike, same => by
      simp only [Value.outline, Value.entryOutlines, Value.map.injEq, List.cons.injEq,
        Prod.mk.injEq, and_true] at same
      obtain ⟨rfl, same⟩ := same
      exact entry.parallel alike same
  | _, _, _, _, .several entries, .several alike, same => by
      rw [condition, condition]
      exact (entries.parallel alike (Value.map.inj same)).bind fun _ => parallel_pure _
  | _, _, _, _, .single _, .several _, same => by
      simp [Value.outline, Value.entryOutlines] at same
  | _, _, _, _, .several _, .single _, same => by
      simp [Value.outline, Value.entryOutlines] at same

/-- Entries with one outline are compiled in parallel. -/
theorem ReadsEntry.parallel : {key value other : Value} → {filter alike : Filter} →
    ReadsEntry key value filter → ReadsEntry key other alike → value.outline = other.outline →
    Parallel (condition filter) (condition alike)
  | _, _, _, _, _, .equal _ _, .equal _ _, _ => parallel_comparison _ _ _ _
  | _, _, _, _, _, .compared _ known _, .compared _ alsoKnown _, same => by
      simp only [Value.outline, Value.entryOutlines, Value.map.injEq, List.cons.injEq,
        Prod.mk.injEq, Value.text.injEq, and_true] at same
      obtain ⟨rfl, -⟩ := same
      obtain rfl := Option.some.inj (known.symm.trans alsoKnown)
      exact parallel_comparison _ _ _ _
  | _, _, _, _, _, .list known _ each, .list alsoKnown _ alike, same => by
      obtain rfl := Option.some.inj (known.symm.trans alsoKnown)
      exact parallel_logical (each.parallel alike (Value.list.inj same))
  | _, _, _, _, _, .tuple known _ each, .tuple alsoKnown _ alike, same => by
      obtain rfl := Option.some.inj (known.symm.trans alsoKnown)
      exact parallel_logical (each.parallel alike (Value.tuple.inj same))
  -- An operand keeps no outline, so one entry cannot hold an operand where the other holds a list or
  -- a mapping.
  | _, _, _, _, _, .equal _ valid, .compared _ _ _, same
  | _, _, _, _, _, .equal _ valid, .list _ _ _, same
  | _, _, _, _, _, .equal _ valid, .tuple _ _ _, same => by
      rw [Value.outline_operand valid] at same
      exact nomatch same
  | _, _, _, _, _, .compared _ _ _, .equal _ valid, same
  | _, _, _, _, _, .list _ _ _, .equal _ valid, same
  | _, _, _, _, _, .tuple _ _ _, .equal _ valid, same => by
      rw [Value.outline_operand valid] at same
      exact nomatch same

/-- So are the entries of mappings with one outline. -/
theorem ReadsEntries.parallel : {entries others : List (Value × Value)} →
    {filters alike : List Filter} → ReadsEntries entries filters → ReadsEntries others alike →
    Value.entryOutlines entries = Value.entryOutlines others →
    Parallel (conditions filters) (conditions alike)
  | _, _, _, _, .nil, .nil, _ => by
      rw [conditions]
      exact parallel_pure _
  | _, _, _, _, .cons entry entries, .cons alike others, same => by
      simp only [Value.entryOutlines, List.cons.injEq, Prod.mk.injEq] at same
      obtain ⟨⟨rfl, first⟩, rest⟩ := same
      rw [conditions, conditions]
      exact (entry.parallel alike first).bind fun _ =>
        (entries.parallel others rest).bind fun _ => parallel_pure _
  | _, _, _, _, .nil, .cons _ _, same => nomatch same
  | _, _, _, _, .cons _ _, .nil, same => nomatch same

/-- So are the operands of connectives with one outline. -/
theorem ReadsAll.parallel : {items others : List Value} → {filters alike : List Filter} →
    ReadsAll items filters → ReadsAll others alike →
    Value.outlines items = Value.outlines others →
    Parallel (conditions filters) (conditions alike)
  | _, _, _, _, .nil, .nil, _ => by
      rw [conditions]
      exact parallel_pure _
  | _, _, _, _, .cons item items, .cons alike others, same => by
      simp only [Value.outlines, List.cons.injEq] at same
      rw [conditions, conditions]
      exact (item.parallel alike same.1).bind fun _ =>
        (items.parallel others same.2).bind fun _ => parallel_pure _
  | _, _, _, _, .nil, .cons _ _, same => nomatch same
  | _, _, _, _, .cons _ _, .nil, same => nomatch same

end

/-- Values with one outline are compiled in parallel. -/
theorem parallel_compile {mapping other : Value} (same : mapping.outline = other.outline) :
    Parallel (compile mapping) (compile other) := by
  intro binder instead size result outcome later after done also
  obtain ⟨filter, reads, written⟩ := compile_eq_ok done
  obtain ⟨alike, alsoReads, alsoWritten⟩ := compile_eq_ok also
  exact reads.parallel alsoReads same _ _ size _ _ _ _ written alsoWritten

end Filter

/-! ## The texts of statements -/

/-- Two statements look alike when they have one text and the same names of parameters. -/
def BoundText.Alike (first second : BoundText) : Prop :=
  first.sql = second.sql ∧ ∃ entries others : Row,
    first.parameters = .map entries ∧ second.parameters = .map others ∧ entries.keys = others.keys

namespace Query

open Binding

/-- Two queries are alike when they differ only in the values that their filters compare with. -/
def Alike (first second : Query) : Prop :=
  ∃ filter, second = { first with filter := filter } ∧
    (Value.map first.filter).outline = (Value.map filter).outline

/-- Whenever both outcomes are statements, these look alike. -/
def Blind (outcome other : Except Failure BoundText) : Prop :=
  ∀ first second, outcome = .ok first → other = .ok second → first.Alike second

/-- Parallel building steps give statements that look alike. -/
theorem finish_blind {step other : Binding String} (parallel : Parallel step other) :
    Blind (finish step) (finish other) := by
  intro first second done also
  obtain ⟨binder, run, parameters⟩ := finish_eq_ok done
  obtain ⟨after, runAlso, parametersAlso⟩ := finish_eq_ok also
  obtain ⟨sql, size⟩ := parallel .empty .empty rfl _ _ _ _ run runAlso
  have count : binder.values.length = after.values.length := size
  have keys : Keyed.keys (Binder.named 1 binder.values) = Keyed.keys (Binder.named 1 after.values) := by
    rw [Binder.named_keys, Binder.named_keys, count]
  exact ⟨sql, _, _, parameters, parametersAlso, keys⟩

variable {first second : Query}

/-- Alike queries write their conditions in parallel. -/
theorem Alike.conditionClause (alike : first.Alike second) :
    Parallel (conditionClause first) (conditionClause second) := by
  obtain ⟨filter, rfl, same⟩ := alike
  have absent : first.filter.isEmpty = filter.isEmpty := by
    rw [← Value.entryOutlines_isEmpty, Value.map.inj same, Value.entryOutlines_isEmpty]
  rw [Query.conditionClause, Query.conditionClause, absent]
  split
  · exact parallel_pure _
  · exact (Filter.parallel_compile same).bind fun _ => parallel_pure _

/-- The other clauses of alike queries are the same. -/
theorem Alike.clauses (alike : first.Alike second) :
    Parallel (clauses first) (clauses second) := by
  have condition := alike.conditionClause
  obtain ⟨filter, rfl, -⟩ := alike
  exact condition.bind fun _ => (parallel_lift _).bind fun _ => (parallel_lift _).bind fun _ =>
    (parallel_lift _).bind fun _ => (parallel_lift _).bind fun _ => (parallel_lift _).bind fun _ =>
    (parallel_lift _).bind fun _ => parallel_pure _

/-- New values for the same columns are written in parallel. -/
theorem parallel_assignments : {entries others : Row} → entries.keys = others.keys →
    Parallel (assignments entries) (assignments others)
  | [], [], _ => parallel_pure _
  | (_, value) :: entries, (_, instead) :: others, same => by
      obtain ⟨rfl, rest⟩ := List.cons.inj same
      exact (parallel_add value instead).bind fun _ =>
        (parallel_assignments rest).bind fun _ => parallel_pure _

section Statements

variable (alike : first.Alike second)

include alike

/-- A `SELECT` does not show the values that its filters compare with. -/
theorem selectStatement_blind : Blind first.selectStatement second.selectStatement :=
  finish_blind (alike.clauses.bind fun _ => parallel_pure _)

/-- Nor does a count. -/
theorem countStatement_blind : Blind first.countStatement second.countStatement := by
  refine finish_blind (alike.clauses.bind fun _ => (parallel_lift _).bind fun _ => ?_)
  split <;> exact parallel_pure _

/-- Nor does a `DELETE`. -/
theorem deleteStatement_blind : Blind first.deleteStatement second.deleteStatement :=
  finish_blind (alike.clauses.bind fun _ => (parallel_lift _).bind fun _ => parallel_pure _)

/-- An `UPDATE` does not show its new values either. -/
theorem updateStatement_blind {entries others : Row} (same : entries.keys = others.keys) :
    Blind (first.updateStatement (.map entries)) (second.updateStatement (.map others)) := by
  have given : (Value.map entries).isTrue = (Value.map others).isTrue := by
    cases entries <;> cases others <;> first | rfl | exact nomatch same
  have clauses := alike.clauses
  obtain ⟨filter, rfl, -⟩ := alike
  refine finish_blind (clauses.bind fun _ => (parallel_lift _).bind fun _ => ?_)
  rw [given]
  split
  · exact (parallel_assignments same).bind fun _ => parallel_pure _
  · exact parallel_lift _

end Statements

/-- No value shows in the text of a statement or in the names of its parameters, neither one that
the filter compares with nor one that an update sets. -/
theorem statements_blind (alike : first.Alike second) {entries others : Row}
    (same : entries.keys = others.keys) :
    Blind first.selectStatement second.selectStatement ∧
      Blind first.countStatement second.countStatement ∧
      Blind first.deleteStatement second.deleteStatement ∧
      Blind (first.updateStatement (.map entries)) (second.updateStatement (.map others)) :=
  ⟨selectStatement_blind alike, countStatement_blind alike, deleteStatement_blind alike,
    updateStatement_blind alike same⟩

/-- A query for the tasks of an owner and those above a rank. -/
def tasksOf (owner rank : Value) : Query :=
  { Query.empty.withTable (.text "tasks") with
    filter := [(.text "$or", .list [.map [(.text "owner", owner)],
      .map [(.text "rank", .map [(.text "$gt", rank)])]])] }

def tasksText : String :=
  "UPDATE tasks SET done = $p3 WHERE (((owner = $p1) OR (rank > $p2)))"

/-- Two queries for tasks with different values are updated by one text. -/
theorem statements_blind_tasks :
    let first := tasksOf (.text "ann") (.int 3)
    let second := tasksOf (.text "' OR 1 = 1 --") (.bool true)
    let entries : Row := [(.text "done", .bool true)]
    let others : Row := [(.text "done", .null)]
    (first.Alike second ∧ entries.keys = others.keys) ∧
      ∃ statement other, first.updateStatement (.map entries) = .ok statement ∧
        second.updateStatement (.map others) = .ok other ∧
        statement.Alike other ∧ statement.sql = tasksText := by
  intro first second entries others
  have alike : first.Alike second := ⟨second.filter, rfl, rfl⟩
  have same : entries.keys = others.keys := rfl
  have done : first.updateStatement (.map entries) = .ok ⟨tasksText,
      .map (Binder.named 1 [.text "ann", .int 3, .int 1])⟩ := rfl
  have also : second.updateStatement (.map others) = .ok ⟨tasksText,
      .map (Binder.named 1 [.text "' OR 1 = 1 --", .int 1, .null])⟩ := rfl
  have blind := (statements_blind alike same).2.2.2 _ _ done also
  exact ⟨⟨alike, same⟩, _, _, done, also, blind, rfl⟩

end Query

end Tabular
