import Tabular.Proofs.Table.Columns

/-!
This module reads the reported indices of a table. The created ones are found under their declared
names, and those of constraints are left out.
-/

namespace Tabular

open Tabular.Action

variable {σ τ : Type}

namespace Schema

variable {engine : Engine τ} {connection : Connection} {answers : Answers} {valid : τ → Prop}
  {database : Database} (laws : Answering engine connection answers valid)
  (opened : database.connection = some connection)

include laws opened in
/-- The columns of a known index are read in their order. -/
theorem gives_indexColumns {index : Value} {columns : List Value}
    (known : AnswersIndex answers index columns) :
    Gives engine valid (indexColumns database index : Action σ (List Value)) columns := by
  obtain ⟨rows, answered, lists⟩ := known
  obtain ⟨placed, sorted, placedDone, sortedDone, names⟩ := lists.sorted
  refine (Database.gives_all laws opened answered).bind (Gives.lift ?_)
  rw [placedDone, Outcome.ok_bind, sortedDone, Outcome.ok_bind, Outcome.mapM_eq_ok]
  exact names.flip

/-! ## Indices of constraints -/

theorem isConstraintIndex_created {schema : Schema} {entry : Value × IndexPlan} {row : Row}
    (created : CreatedRow schema answers entry row) : isConstraintIndex row = .ok false := by
  rw [isConstraintIndex, created.origin]
  rfl

theorem isConstraintIndex_constraint {row : Row} (constraint : ConstraintRow answers row) :
    ∃ isUnique, isConstraintIndex row = .ok isUnique := by
  rcases constraint.origin with origin | origin
  · refine ⟨true, ?_⟩
    rw [isConstraintIndex, origin, reportedFlag, constraint.unique]
    rfl
  · refine ⟨false, ?_⟩
    rw [isConstraintIndex, origin]
    rfl

include laws opened in
/-- The columns of the constraint indices are read. -/
theorem gives_uniqueFrom {schema : Schema} {listed : List (Option (Value × IndexPlan))}
    {rows : List Row} (each : List.Forall₂ (IndexRow schema answers) listed rows) :
    ∃ columns, Gives engine valid (uniqueFrom database rows : Action σ (List Value)) columns := by
  induction each with
  | nil => exact ⟨[], .pure []⟩
  | @cons entry row _ rows stands _ inductionHypothesis =>
      obtain ⟨others, gives⟩ := inductionHypothesis
      cases entry with
      | some created =>
          refine ⟨others, (Gives.lift (isConstraintIndex_created stands)).bind ?_⟩
          exact gives
      | none =>
          obtain ⟨isUnique, done⟩ := isConstraintIndex_constraint stands
          obtain ⟨name, columns, named, known⟩ := stands.columns
          have read := gives_indexColumns (σ := σ) laws opened known
          cases isUnique with
          | false => exact ⟨others, (Gives.lift done).bind gives⟩
          | true =>
              refine ⟨(onlyColumn columns).toList ++ others, (Gives.lift done).bind
                ((Gives.lift named).bind (read.bind (gives.bind ?_)))⟩
              match columns with
              | [] => exact Gives.pure others
              | [column] => exact Gives.pure (column :: others)
              | _ :: _ :: _ => exact Gives.pure others

/-! ## Created indices -/

theorem declaredIndexName_created {schema : Schema} {name : String} {plan : IndexPlan} {row : Row}
    (created : CreatedRow schema answers (.text name, plan) row) :
    declaredIndexName schema row = .ok (some name) := by
  have whole : (indexName schema.name (.text name)).toList =
      schema.indexStart.toList ++ name.toList := String.toList_append
  have starts : schema.indexStart.toList.isPrefixOf (indexName schema.name (.text name)).toList := by
    rw [whole, List.isPrefixOf_iff_prefix]
    exact List.prefix_append _ _
  rw [declaredIndexName, created.origin, Outcome.ok_bind, created.name]
  simp only [Value.same_text_text, beq_self_eq_true, if_true, Outcome.ok_bind, starts]
  rw [whole, List.drop_left, String.ofList_toList]
  rfl

theorem declaredIndexName_constraint {schema : Schema} {row : Row}
    (constraint : ConstraintRow answers row) : declaredIndexName schema row = .ok none := by
  rcases constraint.origin with origin | origin
  · rw [declaredIndexName, origin]
    rfl
  · rw [declaredIndexName, origin]
    rfl

/-- The index that is planned under a name. -/
def plannedIndex (entry : Value × IndexPlan) : Value × Index := (entry.1, entry.2.index)

include laws opened in
theorem gives_explicitFrom {schema : Schema} {listed : List (Option (Value × IndexPlan))}
    {rows : List Row} (each : List.Forall₂ (IndexRow schema answers) listed rows)
    (texts : ∀ entry ∈ listed.reduceOption, ∃ name, entry.1 = Value.text name)
    (found : Keyed Index)
    (distinct : (found ++ listed.reduceOption.map plannedIndex).keys.Nodup) :
    Gives engine valid (explicitFrom schema database rows found : Action σ (Keyed Index))
      (found ++ listed.reduceOption.map plannedIndex) := by
  induction each generalizing found with
  | nil => exact (List.append_nil found).symm ▸ Gives.pure found
  | @cons entry row listed rows stands _ inductionHypothesis =>
      cases entry with
      | none =>
          rw [List.reduceOption_cons_of_none] at texts distinct ⊢
          exact (Gives.lift (declaredIndexName_constraint stands)).bind
            (inductionHypothesis texts found distinct)
      | some created =>
          rw [List.reduceOption_cons_of_some] at texts distinct ⊢
          obtain ⟨⟨name, text⟩, textsRest⟩ := List.forall_mem_cons.mp texts
          obtain ⟨key, plan⟩ := created
          obtain rfl : key = .text name := text
          have flag : reportedFlag row "unique" = .ok plan.index.unique := by
            rw [reportedFlag, stands.unique]
            cases plan.index.unique <;> rfl
          have read := gives_indexColumns (σ := σ) laws opened stands.columns
          rw [List.map_cons, List.append_cons] at distinct ⊢
          have put : found.put (.text name) plan.index = found ++ [(.text name, plan.index)] :=
            Keyed.put_fresh distinct
          have rest := inductionHypothesis textsRest _ distinct
          rw [plannedIndex, ← put] at rest ⊢
          exact (Gives.lift (declaredIndexName_created stands)).bind ((Gives.lift stands.name).bind
            (read.bind ((Gives.lift flag).bind rest)))

end Schema

end Tabular
