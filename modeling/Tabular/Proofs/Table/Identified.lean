import Tabular.Proofs.Filter.Allocation
import Tabular.Proofs.Table.Rows

/-!
This module tells what the statements about one row look like. The value of its column is bound as
the first parameter, and the column is compared with it, wherever the value has a stored form.
-/

namespace Tabular

namespace Query

open Binding

/-- A query for the rows with one value in a column, whatever the column and the value are. -/
def keyed (table column value : Value) : Query :=
  { Query.empty.withTable table with filter := [(column, value)] }

/-- A value that can be kept is no filter of its own, so that the column is compared with it. -/
structure Comparable (table : Value) (name : String) (value : Value) : Prop where
  named : table.isTrue = true
  column : isColumnName name = true
  operand : value.isOperand = true

/-- The clauses are written only for a named table and an entry that is read as a filter. -/
theorem clauses_reads {table column value : Value} {written : Clauses} {binder : Binder}
    (done : (clauses (keyed table column value)).runWith .empty = (.ok written, binder)) :
    table.isTrue = true ∧ ∃ filter, Filter.ReadsEntry column value filter := by
  obtain ⟨condition, _, conditionDone, done⟩ := runWith_bind_eq_ok done
  obtain ⟨_, _, _, done⟩ := runWith_bind_eq_ok done
  obtain ⟨_, _, _, done⟩ := runWith_bind_eq_ok done
  obtain ⟨_, _, _, done⟩ := runWith_bind_eq_ok done
  obtain ⟨_, _, _, done⟩ := runWith_bind_eq_ok done
  obtain ⟨_, _, _, done⟩ := runWith_bind_eq_ok done
  obtain ⟨source, _, sourceDone, _⟩ := runWith_bind_eq_ok done
  constructor
  · rw [runWith_lift, sourceClause] at sourceDone
    split at sourceDone
    · next named => exact named
    · exact nomatch (Prod.mk.inj sourceDone).1
  · obtain ⟨text, _, compiled, _⟩ := runWith_bind_eq_ok conditionDone
    obtain ⟨filter, reads, -⟩ := Filter.compile_eq_ok compiled
    cases reads with
    | single entry => exact ⟨filter, entry⟩

/-- Such clauses are written, too. -/
theorem clauses_written {table column value : Value} {filter : Filter} (named : table.isTrue = true)
    (reads : Filter.ReadsEntry column value filter) :
    ∃ written binder, (clauses (keyed table column value)).runWith .empty = (.ok written, binder) := by
  have plain : (keyed table column value).Plain := ⟨rfl, rfl, rfl, rfl⟩
  obtain ⟨text, bound, compiled, -⟩ := (Filter.Reads.single reads).compile_allocates .empty
  have condition : (conditionClause (keyed table column value)).runWith .empty =
      (.ok ("WHERE (" ++ text ++ ")"), ⟨[] ++ bound⟩) := by
    rw [conditionClause]
    simp only [keyed, List.isEmpty_cons, Bool.false_eq_true, if_false]
    rw [runWith_bind_ok compiled]
    rfl
  refine ⟨plainClauses "*" ("FROM " ++ table.toText) ("WHERE (" ++ text ++ ")"), ⟨[] ++ bound⟩, ?_⟩
  rw [plain.clauses_eq named, runWith_bind_ok condition]
  rfl

section Keyed

variable {table column value stored : Value} (kept : value.stored = .ok stored)

include kept

theorem readEntry_kept {filter : Filter} (reads : Filter.ReadsEntry column value filter) :
    ∃ name, column = .text name ∧ isColumnName name = true ∧ value.isOperand = true := by
  cases reads with
  | equal named valid => exact ⟨_, rfl, named, valid⟩
  | compared | list | tuple => exact nomatch kept

theorem clauses_keyed {written : Clauses} {binder : Binder}
    (done : (clauses (keyed table column value)).runWith .empty = (.ok written, binder)) :
    ∃ name, column = .text name ∧ Comparable table name value := by
  obtain ⟨named, filter, reads⟩ := clauses_reads done
  obtain ⟨name, same, valid, operand⟩ := readEntry_kept kept reads
  exact ⟨name, same, named, valid, operand⟩

/-- A row is selected by its value. -/
theorem selectStatement_keyed {bound : BoundText}
    (built : (keyed table column value).selectStatement = .ok bound) :
    ∃ name, column = .text name ∧ Comparable table name value ∧
      bound = ⟨selectText table.toText name, .map [(.text "p1", stored)]⟩ := by
  obtain ⟨binder, run, -⟩ := finish_eq_ok built
  obtain ⟨written, _, done, -⟩ := runWith_bind_eq_ok run
  obtain ⟨name, rfl, comparable⟩ := clauses_keyed kept done
  have same := selectStatement_withValue comparable.named comparable.column comparable.operand kept
  exact ⟨name, rfl, comparable, Except.ok.inj (built.symm.trans same)⟩

end Keyed

/-! ## Updates -/

/-- The new values of an update are bound in their stored forms after those of the condition. -/
theorem assignments_eq_ok {entries : List (Value × Value)} {changes : List String}
    {binder later : Binder} (done : (assignments entries).runWith binder = (.ok changes, later)) :
    ∃ values, later.values = binder.values ++ values ∧
      ∀ entry ∈ entries, ∃ form, entry.2.stored = .ok form := by
  induction entries generalizing changes binder with
  | nil =>
      obtain ⟨-, rfl⟩ := Prod.mk.inj done
      exact ⟨[], (List.append_nil _).symm, List.forall_mem_nil _⟩
  | cons entry rest inductionHypothesis =>
      obtain ⟨column, value⟩ := entry
      obtain ⟨place, middle, added, done⟩ := runWith_bind_eq_ok done
      obtain ⟨others, last, doneRest, done⟩ := runWith_bind_eq_ok done
      obtain ⟨-, rfl⟩ := Prod.mk.inj done
      obtain ⟨values, same, each⟩ := inductionHypothesis doneRest
      cases kept : value.stored with
      | error failure =>
          rw [runWith_add_error kept] at added
          exact nomatch (Prod.mk.inj added).1
      | ok stored =>
          rw [runWith_add kept] at added
          obtain ⟨-, rfl⟩ := Prod.mk.inj added
          exact ⟨stored :: values, by simp [same], List.forall_mem_cons.mpr ⟨⟨stored, kept⟩, each⟩⟩

/-- An update changes the rows that have this value in this column, and no others. -/
structure ChangesWhere (table name : String) (stored : Value) (sql : String) (parameters : Value) :
    Prop where
  text : ∃ changes, sql = "UPDATE " ++ table ++ " SET " ++ changes ++ " " ++ conditionText name
  bound : ∃ others, parameters = .map ((.text "p1", stored) :: others)

/-- Every new value of an update can be kept. -/
theorem updateStatement_stores {query : Query} {row : Value} {bound : BoundText}
    (built : query.updateStatement row = .ok bound) :
    ∃ entries, row = .map entries ∧ ∀ entry ∈ entries, ∃ form, entry.2.stored = .ok form := by
  obtain ⟨binder, run, -⟩ := finish_eq_ok built
  obtain ⟨written, first, -, run⟩ := runWith_bind_eq_ok run
  obtain ⟨_, second, -, run⟩ := runWith_bind_eq_ok run
  split at run
  · cases row with
    | map entries =>
        obtain ⟨changes, last, assigned, -⟩ := runWith_bind_eq_ok run
        obtain ⟨values, -, each⟩ := assignments_eq_ok assigned
        exact ⟨entries, rfl, each⟩
    | _ => exact nomatch (Prod.mk.inj run).1
  · exact nomatch (Prod.mk.inj run).1

/-- The row that is updated is found by its value. -/
theorem updateStatement_keyed {table column value stored row : Value}
    (kept : value.stored = .ok stored) {bound : BoundText}
    (built : (keyed table column value).updateStatement row = .ok bound) :
    ∃ name, column = .text name ∧ Comparable table name value ∧
      ChangesWhere table.toText name stored bound.sql bound.parameters := by
  obtain ⟨entries, rfl, -⟩ := updateStatement_stores built
  obtain ⟨binder, run, parameters⟩ := finish_eq_ok built
  obtain ⟨written, first, done, run⟩ := runWith_bind_eq_ok run
  obtain ⟨name, rfl, comparable⟩ := clauses_keyed kept done
  have same := clauses_withValue comparable.named comparable.column comparable.operand kept
  obtain ⟨writtenSame, rfl⟩ := Prod.mk.inj (done.symm.trans same)
  obtain rfl := Except.ok.inj writtenSame
  obtain ⟨_, second, accepted, run⟩ := runWith_bind_eq_ok run
  obtain ⟨-, rfl⟩ := Prod.mk.inj accepted
  split at run
  · obtain ⟨changes, last, assigned, run⟩ := runWith_bind_eq_ok run
    obtain ⟨text, rfl⟩ := Prod.mk.inj run
    obtain ⟨values, order, -⟩ := assignments_eq_ok assigned
    refine ⟨name, rfl, comparable, ⟨String.intercalate ", " changes, ?_⟩, ?_⟩
    · rw [← Except.ok.inj text, joinParts_cons (by simp)]
      simp [plainClauses, setOff_present (by simp [conditionText] : conditionText name ≠ ""),
        keyed, Query.withTable, String.append_assoc]
    · rw [parameters, Binder.parameters, order]
      exact ⟨Binder.named 2 values, rfl⟩
  · cases (Prod.mk.inj run).1

end Query

theorem Keyed.get?_eq_some {α : Type} {entries : Keyed α} {key : Value} {value : α}
    (found : entries.get? key = some value) : ∃ entry ∈ entries, entry.2 = value := by
  obtain ⟨entry, first, same⟩ := Option.map_eq_some_iff.mp found
  exact ⟨entry, List.mem_of_find?_eq_some first, same⟩

theorem Value.columnValue_eq_ok {row column value : Value} (found : row.columnValue column = .ok value) :
    ∃ entries, row = .map entries ∧ Keyed.get? entries column = some value := by
  cases row with
  | map entries =>
      rw [columnValue] at found
      split at found
      · next stored has => exact ⟨entries, rfl, has.trans (congrArg some (Except.ok.inj found))⟩
      · cases found
  | _ => cases found

namespace Schema

variable {schema : Schema}

theorem find_entry (column value : Value) :
    schema.find (.map [(column, value)]) = .ok (Query.keyed schema.name column value) := rfl

/-- A row is looked up by one of its columns. -/
theorem lookup_eq_ok {row filter : Value} (found : schema.lookup row = .ok filter) :
    ∃ entries column value, row = .map entries ∧ filter = .map [(column, value)] ∧
      Keyed.get? entries column = some value := by
  obtain ⟨names, -, checks⟩ := Outcome.bind_eq_ok.mp found
  obtain ⟨_, -, chooses⟩ := Outcome.bind_eq_ok.mp checks
  obtain ⟨column, -, takes⟩ := Outcome.bind_eq_ok.mp chooses
  obtain ⟨value, taken, gives⟩ := Outcome.bind_eq_ok.mp takes
  obtain ⟨entries, rfl, has⟩ := Value.columnValue_eq_ok taken
  exact ⟨entries, column, value, rfl, (Except.ok.inj gives).symm, has⟩

end Schema

end Tabular
