import Mathlib.Data.List.Forall2
import Tabular.Proofs.Parameter.Allocation
import Tabular.Query.Statement

/-!
This module says what the statements of a query are once its clauses are written. All four have the
source and the condition in common, and when the clauses are refused, no statement is made.
-/

namespace Tabular.Query

open Binding

/-! ## Finished statements -/

/-- A binding that returns a text finishes as a statement with its parameters. -/
theorem finish_ok {step : Binding String} {sql : String} {binder : Binder}
    (done : step.runWith .empty = (.ok sql, binder)) :
    finish step = .ok ⟨sql, binder.parameters⟩ := by
  rw [finish, done]
  rfl

/-- A binding that fails finishes with its failure. -/
theorem finish_error {step : Binding String} {failure : Failure} {binder : Binder}
    (refused : step.runWith .empty = (.error failure, binder)) :
    finish step = .error failure := by
  rw [finish, refused]
  rfl

/-- A finished statement has the text and the parameters of its binding. -/
theorem finish_eq_ok {step : Binding String} {statement : BoundText}
    (done : finish step = .ok statement) :
    ∃ binder, step.runWith .empty = (.ok statement.sql, binder) ∧
      statement.parameters = binder.parameters := by
  rw [finish] at done
  split at done
  · next sql binder run =>
      obtain rfl := Except.ok.inj done
      exact ⟨binder, run, rfl⟩
  · exact nomatch done

/-- A clause is set off by a blank, and an absent clause is left out. -/
def setOff (clause : String) : String := if clause = "" then "" else " " ++ clause

theorem setOff_present {clause : String} (present : clause ≠ "") : setOff clause = " " ++ clause :=
  if_neg present

/-- The parts of a statement are set off from its first part. -/
theorem joinParts_cons {part : String} (present : part ≠ "") (parts : List String) :
    joinParts (part :: parts) = part ++ String.join (parts.map setOff) := by
  induction parts generalizing part with
  | nil => simp [joinParts, present]
  | cons next parts inductionHypothesis =>
      by_cases absent : next = ""
      · have skipped : joinParts (part :: next :: parts) = joinParts (part :: parts) := by
          simp [joinParts, present, absent]
        rw [skipped, inductionHypothesis present]
        simp [setOff, absent]
      · have joined : joinParts (part :: next :: parts) = part ++ " " ++ joinParts (next :: parts) := by
          simp [joinParts, present, absent, String.intercalate_cons_cons]
        rw [joined, inductionHypothesis absent]
        simp [setOff, absent, String.append_assoc]

/-! ## New values -/

/-- The columns of an update are set to the parameters that count on from a number. -/
def assignmentTexts : Nat → List String → List String
  | _, [] => []
  | number, column :: rest =>
      (column ++ " = " ++ Binder.placeholder number) :: assignmentTexts (number + 1) rest

/-- A column with a value is kept under its name in the stored form. -/
def Keeps (entry : Value × Value) (kept : String × Value) : Prop :=
  entry.1 = .text kept.1 ∧ entry.2.stored = .ok kept.2

variable {entries : Row} {columns : List (String × Value)}

/-- Values that can be converted under names can be kept. -/
theorem keeps_of_each (named : ∀ entry ∈ entries, ∃ name, entry.1 = .text name)
    (convertible : ∀ entry ∈ entries, ∃ stored, entry.2.stored = .ok stored) :
    ∃ columns, List.Forall₂ Keeps entries columns := by
  induction entries with
  | nil => exact ⟨[], .nil⟩
  | cons entry rest inductionHypothesis =>
      obtain ⟨⟨name, same⟩, namedRest⟩ := List.forall_mem_cons.mp named
      obtain ⟨⟨stored, kept⟩, convertibleRest⟩ := List.forall_mem_cons.mp convertible
      obtain ⟨columns, each⟩ := inductionHypothesis namedRest convertibleRest
      exact ⟨(name, stored) :: columns, .cons ⟨same, kept⟩ each⟩

/-- What is kept has the columns of the row. -/
theorem keeps_keys (each : List.Forall₂ Keeps entries columns) :
    entries.keys = (columns.map Prod.fst).map Value.text := by
  rw [Keyed.keys, List.map_map, ← List.forall₂_eq_eq_eq, List.forall₂_map_left_iff,
    List.forall₂_map_right_iff]
  exact each.imp fun _ _ keeps => keeps.1

/-- No column is kept twice. -/
theorem keeps_once (each : List.Forall₂ Keeps entries columns) (once : entries.keys.Nodup) :
    (columns.map Prod.fst).Nodup := by
  rw [keeps_keys each] at once
  exact once.of_map _

theorem keeps_mem (each : List.Forall₂ Keeps entries columns) {column : String × Value}
    (inside : column ∈ columns) : .text column.1 ∈ entries.keys := by
  rw [keeps_keys each, List.map_map]
  exact List.mem_map_of_mem (f := Value.text ∘ Prod.fst) inside

/-- An update binds the new values in order after those that are bound before. -/
theorem assignments_bind (each : List.Forall₂ Keeps entries columns) (binder : Binder) :
    (assignments entries).runWith binder =
      (.ok (assignmentTexts (binder.size + 1) (columns.map Prod.fst)),
        ⟨binder.values ++ columns.map Prod.snd⟩) := by
  induction each generalizing binder with
  | nil => simp [assignments, assignmentTexts]
  | @cons entry column entries columns first rest inductionHypothesis =>
      obtain ⟨key, value⟩ := entry
      obtain ⟨same, kept⟩ := first
      obtain rfl := same
      rw [assignments, runWith_bind_ok (runWith_add kept binder),
        runWith_bind_ok (inductionHypothesis _), runWith_pure]
      simp [Binder.size, assignmentTexts, Value.toText]

/-! ## Statements with a source and a condition -/

/-- The clauses of a query that only selects and filters. -/
def plainClauses (columns source condition : String) : Clauses :=
  ⟨columns, source, condition, "", "", "", ""⟩

section Written

variable {query : Query} {selected source condition : String} {binder : Binder}
  (written : (clauses query).runWith .empty =
    (.ok (plainClauses selected source condition), binder))

include written

/-- A plain query is selected by its source and its condition. -/
theorem selectStatement_plain : query.selectStatement =
    .ok ⟨"SELECT " ++ selected ++ setOff source ++ setOff condition, binder.parameters⟩ := by
  refine finish_ok ((runWith_bind_ok written).trans ?_)
  have present : "SELECT " ++ selected ≠ "" := by simp
  simp [plainClauses, joinParts_cons present, setOff, String.append_assoc]

/-- It is counted by them. -/
theorem countStatement_plain : query.countStatement =
    .ok ⟨"SELECT COUNT(*) AS count" ++ setOff source ++ setOff condition, binder.parameters⟩ := by
  refine finish_ok ((runWith_bind_ok written).trans ?_)
  have present : "SELECT COUNT(*) AS count" ≠ "" := by decide
  simp [plainClauses, reject, joinParts_cons present, String.append_assoc]

/-- It is deleted by them. -/
theorem deleteStatement_plain : query.deleteStatement =
    .ok ⟨"DELETE" ++ setOff source ++ setOff condition, binder.parameters⟩ := by
  refine finish_ok ((runWith_bind_ok written).trans ?_)
  have present : "DELETE" ≠ "" := by decide
  simp [plainClauses, rejectAll, reject, joinParts_cons present, String.append_assoc]

/-- It is updated by its condition. The new values count on from the parameters of it. -/
theorem updateStatement_plain (each : List.Forall₂ Keeps entries columns) (filled : entries ≠ []) :
    query.updateStatement (.map entries) =
      .ok ⟨"UPDATE " ++ query.table.toText ++ " SET " ++
          String.intercalate ", " (assignmentTexts (binder.size + 1) (columns.map Prod.fst)) ++
          setOff condition,
        .map (Binder.named 1 (binder.values ++ columns.map Prod.snd))⟩ := by
  refine finish_ok ((runWith_bind_ok written).trans ?_)
  have accepted : (liftM (rejectAll "update" (plainClauses selected source condition)) :
      Binding Unit).runWith binder = (.ok (), binder) := rfl
  rw [runWith_bind_ok accepted, if_pos (Value.isTrue_map.mpr filled)]
  -- The condition is bound by now, so the changes are numbered after it.
  refine (runWith_bind_ok (assignments_bind each binder)).trans ?_
  have present : "UPDATE " ++ query.table.toText ++ " SET " ++ String.intercalate ", "
      (assignmentTexts (binder.size + 1) (columns.map Prod.fst)) ≠ "" := by simp
  simp [plainClauses, joinParts_cons present]

end Written

/-- When the clauses are refused, every statement is. -/
theorem statements_refused {query : Query} {failure : Failure} {binder : Binder}
    (refused : (clauses query).runWith .empty = (.error failure, binder)) (newValues : Value) :
    query.selectStatement = .error failure ∧ query.countStatement = .error failure ∧
      query.deleteStatement = .error failure ∧
      query.updateStatement newValues = .error failure := by
  have stops (next : Clauses → Binding String) : finish (clauses query >>= next) = .error failure :=
    finish_error (by rw [runWith_bind, refused])
  exact ⟨stops _, stops _, stops _, stops _⟩

/-! ## Queries that only select and filter -/

/-- A query without grouping, ordering, limit and offset. -/
structure Plain (query : Query) : Prop where
  grouping : query.grouping = []
  ordering : query.ordering = []
  limit : query.limit = .null
  offset : query.offset = .null

/-- A plain query writes its condition, its columns and its source. -/
theorem Plain.clauses_eq {query : Query} (plain : query.Plain) (named : query.table.isTrue = true) :
    clauses query = (do
      let condition ← conditionClause query
      let selected ← (columnsClause query : Except Failure String)
      pure (plainClauses selected ("FROM " ++ query.table.toText) condition)) := by
  have limit : limitClause query = .ok "" := by rw [limitClause, plain.limit]; rfl
  have offset : offsetClause query = .ok "" := by rw [offsetClause, plain.offset]; rfl
  have grouping : groupingClause query = .ok "" := by rw [groupingClause, plain.grouping]; rfl
  have ordering : orderingClause query = .ok "" := by rw [orderingClause, plain.ordering]; rfl
  have source : sourceClause query = .ok ("FROM " ++ query.table.toText) := if_pos named
  rw [clauses, limit, offset, grouping, ordering, source]
  rfl

/-- The clauses of such a query are refused with its condition or its columns, or they are these and
its table. -/
theorem Plain.clauses_cases {query : Query} (plain : query.Plain)
    (named : query.table.isTrue = true) :
    (∃ failure binder, (clauses query).runWith .empty = (.error failure, binder) ∧
        ((conditionClause query).runWith .empty = (.error failure, binder) ∨
          columnsClause query = .error failure)) ∨
      ∃ selected condition binder,
        (conditionClause query).runWith .empty = (.ok condition, binder) ∧
        (clauses query).runWith .empty =
          (.ok (plainClauses selected ("FROM " ++ query.table.toText) condition), binder) := by
  rw [plain.clauses_eq named]
  rcases condition : (conditionClause query).runWith .empty with ⟨failure | text, binder⟩
  · exact .inl ⟨failure, binder, by rw [runWith_bind, condition], .inl rfl⟩
  rw [runWith_bind_ok condition]
  cases selected : columnsClause query with
  | error failure => exact .inl ⟨failure, binder, rfl, .inr rfl⟩
  | ok columns => exact .inr ⟨columns, text, binder, rfl, rfl⟩

end Tabular.Query
