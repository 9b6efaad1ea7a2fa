import Tabular.Proofs.Filter.Acceptance
import Tabular.Proofs.Parameter.Binding
import Tabular.Proofs.Value.Computed
import Tabular.Query.Statement
import Tabular.Stream.Write
import Tabular.Table.Map

/-!
This module shows that statements over rows are built by computations. None of them ends with a failure
of the engine.
-/

namespace Tabular

variable {α β : Type}

namespace Binding

/-- A step returns or ends with a failure of its own, whatever was bound before. -/
def Computes (step : Binding α) : Prop := ∀ binder, Computed (step.runWith binder).1

namespace Computes

theorem pure (value : α) : Computes (Pure.pure value : Binding α) := fun _ => .pure value

/-- A step that throws a failure of its own computes. -/
theorem throw {failure : Failure} (own : failure.isComputed = true) :
    Computes (MonadExcept.throw failure : Binding α) := fun _ => .throw own

/-- An outcome that returns or ends with a failure of its own does so inside a binding step. -/
theorem lift {outcome : Except Failure α} (computed : Computed outcome) :
    Computes (liftM outcome : Binding α) := by
  intro binder
  rw [runWith_lift]
  exact computed

/-- Steps that compute do so one after the other. -/
theorem bind {step : Binding α} {next : α → Binding β} (first : Computes step)
    (rest : ∀ value, Computes (next value)) : Computes (step >>= next) := by
  intro binder
  have computed := first binder
  rw [runWith_bind]
  split
  · next value later _ => exact rest value later
  · next failure later ended =>
      rw [ended] at computed
      exact .throw (computed failure rfl)

/-- Binding a value fails only with a failure of its own. -/
theorem add (value : Value) : Computes (Binding.add value) := by
  apply (Computes.lift value.stored_computed).bind
  intro stored binder
  exact .pure _

end Computes

end Binding

open Binding

namespace Filter

mutual

/-- Compiling one filter reports no failure of the engine. -/
theorem condition_computes : (filter : Filter) → Computes (condition filter)
  | .comparison column comparator operand => by
      rw [condition]
      exact (Computes.add operand).bind fun _ => .pure _
  | .logical connective operands => by
      rw [condition]
      exact (conditions_compute operands).bind fun _ => .pure _
  | .conjunction terms => by
      rw [condition]
      exact (conditions_compute terms).bind fun _ => .pure _

/-- Compiling a list of filters does not either, by the same recursion. -/
theorem conditions_compute : (filters : List Filter) → Computes (conditions filters)
  | [] => by
      rw [conditions]
      exact .pure _
  | filter :: rest => by
      rw [conditions]
      exact (condition_computes filter).bind fun _ => (conditions_compute rest).bind fun _ => .pure _

end

/-- Reading a filter value returns a filter or a failure of its own. -/
theorem read_computed (value : Value) : Computed (read value) := by
  intro failure failed
  obtain ⟨fragment, reason, rfl⟩ := read_refuses value failure failed
  rfl

/-- Compiling a filter value reports no failure of the engine. -/
theorem compile_computes (value : Value) : Computes (compile value) :=
  (Computes.lift (read_computed value)).bind condition_computes

end Filter

namespace Query

variable (query : Query)

/-- A finished statement fails only as the binding that wrote it does. -/
theorem finish_computed {step : Binding String} (computes : Computes step) :
    Computed (finish step) := by
  have computed := computes .empty
  unfold finish
  split
  · exact .pure _
  · next failure binder ended =>
      rw [ended] at computed
      exact .throw (computed failure rfl)

/-- The `WHERE` clause fails only with a failure of its own. -/
theorem conditionClause_computes : Computes query.conditionClause := by
  unfold conditionClause
  split
  · exact .pure _
  · exact (Filter.compile_computes _).bind fun _ => .pure _

/-- The list of columns fails only with a failure of its own. -/
theorem columnsClause_computed : Computed query.columnsClause := by
  unfold columnsClause
  split
  · exact .pure _
  · exact Value.commaList_computed _
  · exact .pure _

/-- The `LIMIT` clause fails only with a failure of its own. -/
theorem limitClause_computed : Computed query.limitClause := by
  unfold limitClause
  split
  · exact .pure _
  · split
    · exact .pure _
    · exact .throw rfl
  · exact .throw rfl

/-- The `OFFSET` clause fails only with a failure of its own. -/
theorem offsetClause_computed : Computed query.offsetClause := by
  unfold offsetClause
  split
  · exact .pure _
  · split
    · exact .throw rfl
    · split
      · exact .pure _
      · exact .pure _
  · exact .throw rfl

/-- The `GROUP BY` clause fails only with a failure of its own. -/
theorem groupingClause_computed : Computed query.groupingClause := by
  unfold groupingClause
  split
  · exact .pure _
  · exact (Value.commaList_computed _).bind fun _ => .pure _

/-- A direction of ordering is written or refused by a failure of its own. -/
theorem direction_computed (value : Value) : Computed (direction value) := by
  unfold direction
  split
  · exact .throw rfl
  · split
    · exact .pure _
    · split
      · exact .pure _
      · exact .throw rfl

/-- An ordering term is written or refused by a failure of its own. -/
theorem orderTerm_computed (term : Value) : Computed (orderTerm term) := by
  unfold orderTerm
  split
  · exact .pure _
  · exact (direction_computed _).bind fun _ => .pure _
  · exact .throw rfl

/-- The `ORDER BY` clause fails only with a failure of its own. -/
theorem orderingClause_computed : Computed query.orderingClause := by
  unfold orderingClause
  split
  · exact .pure _
  · exact (Computed.mapM orderTerm_computed _).bind fun _ => .pure _

/-- The `FROM` clause fails only with a failure of its own. -/
theorem sourceClause_computed : Computed query.sourceClause := by
  unfold sourceClause
  split
  · exact .pure _
  · exact .throw rfl

/-- The clauses of a query, written one after the other, fail only with failures of their own. -/
theorem clauses_compute : Computes query.clauses := by
  apply query.conditionClause_computes.bind
  intro condition
  apply (Computes.lift query.columnsClause_computed).bind
  intro columns
  apply (Computes.lift query.limitClause_computed).bind
  intro limit
  apply (Computes.lift query.offsetClause_computed).bind
  intro offset
  apply (Computes.lift query.groupingClause_computed).bind
  intro grouping
  apply (Computes.lift query.orderingClause_computed).bind
  intro ordering
  exact (Computes.lift query.sourceClause_computed).bind fun _ => .pure _

/-- Refusing the clauses that a statement does not take is a failure of its own. -/
theorem reject_computed (statement : String) (found : List (String × String)) :
    Computed (reject statement found) := by
  unfold reject
  split
  · exact .throw rfl
  · exact .pure _

/-- Writing a `SELECT` reports no failure of the engine. -/
theorem selectStatement_computed : Computed query.selectStatement :=
  finish_computed (query.clauses_compute.bind fun _ => .pure _)

/-- Writing a count reports no failure of the engine. -/
theorem countStatement_computed : Computed query.countStatement := by
  apply finish_computed
  apply query.clauses_compute.bind
  intro written
  apply (Computes.lift (reject_computed _ _)).bind
  intro _
  split
  · exact .pure _
  · exact .pure _

/-- Writing a `DELETE` reports no failure of the engine. -/
theorem deleteStatement_computed : Computed query.deleteStatement := by
  apply finish_computed
  apply query.clauses_compute.bind
  intro written
  exact (Computes.lift (reject_computed _ _)).bind fun _ => .pure _

/-- Writing the assignments of an update reports no failure of the engine. -/
theorem assignments_compute (entries : List (Value × Value)) : Computes (assignments entries) := by
  induction entries with
  | nil => exact .pure _
  | cons entry rest inductionHypothesis =>
      exact (Computes.add entry.2).bind fun _ => inductionHypothesis.bind fun _ => .pure _

/-- Writing an `UPDATE` reports no failure of the engine. -/
theorem updateStatement_computed (newValues : Value) :
    Computed (query.updateStatement newValues) := by
  apply finish_computed
  apply query.clauses_compute.bind
  intro written
  apply (Computes.lift (reject_computed _ _)).bind
  intro _
  split
  · split
    · exact (assignments_compute _).bind fun _ => .pure _
    · exact .throw rfl
  · exact .throw rfl

/-- Adding a filter to a query fails only with a failure of its own. -/
theorem find_computed (filter : Value) : Computed (query.find filter) := by
  unfold find
  split
  · exact .pure _
  · exact .throw rfl

/-- Choosing the columns of a query fails only with a failure of its own. -/
theorem select_computed (columns : Value) : Computed (query.select columns) := by
  unfold select
  split
  · exact .pure _
  · exact columns.items_computed.bind fun _ => .pure _

/-- Adding ordering terms to a query fails only with a failure of its own. -/
theorem orderBy_computed (terms : Value) : Computed (query.orderBy terms) := by
  unfold orderBy
  split
  · exact .pure _
  · exact .pure _
  · exact terms.items_computed.bind fun _ => .pure _

end Query

/-! ## Rows of a table -/

namespace Value

variable (row : Value)

theorem columnNames_computed : Computed row.columnNames := row.items_computed

/-- Asking whether a row has a column fails only with a failure of its own. -/
theorem hasColumn_computed (column : Value) : Computed (row.hasColumn column) :=
  row.columnNames_computed.bind fun _ => .pure _

/-- Reading one column of a row fails only with a failure of its own. -/
theorem columnValue_computed (column : Value) : Computed (row.columnValue column) := by
  unfold columnValue
  split
  · split
    · exact .pure _
    · exact .throw rfl
  · exact .throw rfl

/-- Laying a row over a stored one fails only with a failure of its own. -/
theorem mergedOver_computed (stored : Row) : Computed (row.mergedOver stored) := by
  unfold mergedOver
  split
  · exact .pure _
  · exact .throw rfl

/-- Converting the values of a row fails only with a failure of its own. -/
theorem storedEntries_computed (entries : List (Value × Value)) : Computed (storedEntries entries) := by
  induction entries with
  | nil => exact .pure _
  | cons entry rest inductionHypothesis =>
      exact entry.2.stored_computed.bind fun _ => inductionHypothesis.bind fun _ => .pure _

end Value

namespace Schema

variable (schema : Schema)

/-- A query on the table of a schema is made without the engine. -/
theorem find_computed (filter : Value) : Computed (schema.find filter) := by
  unfold find
  split
  · exact .pure _
  · exact schema.query.find_computed filter

/-- Checking the columns of a row fails only with a failure of its own. -/
theorem checkColumns_computed (columns : List Value) : Computed (schema.checkColumns columns) := by
  induction columns with
  | nil => exact .pure _
  | cons column rest inductionHypothesis =>
      unfold checkColumns
      split
      · exact .throw rfl
      · split
        · exact inductionHypothesis
        · exact .throw rfl

/-- Looking for a unique column of a row fails only with a failure of its own. -/
theorem firstUnique_computed (row : Value) (columns : Keyed Column) :
    Computed (schema.firstUnique row columns) := by
  induction columns with
  | nil => exact .throw rfl
  | cons entry rest inductionHypothesis =>
      apply (row.hasColumn_computed entry.1).bind
      intro has
      split
      · exact .pure _
      · exact inductionHypothesis

/-- Choosing the lookup column of a row fails only with a failure of its own. -/
theorem lookupColumn_computed (row : Value) : Computed (schema.lookupColumn row) := by
  unfold lookupColumn
  split
  · apply (row.hasColumn_computed _).bind
    intro has
    split
    · exact .pure _
    · exact schema.firstUnique_computed row schema.columns
  · exact schema.firstUnique_computed row schema.columns

/-- The lookup filter of a row is made without the engine. -/
theorem lookup_computed (row : Value) : Computed (schema.lookup row) := by
  apply row.columnNames_computed.bind
  intro names
  apply (schema.checkColumns_computed names).bind
  intro _
  apply (schema.lookupColumn_computed row).bind
  intro column
  exact (row.columnValue_computed column).bind fun _ => .pure _

/-- Writing an `INSERT` reports no failure of the engine. -/
theorem insertStatement_computed (row : Value) : Computed (schema.insertStatement row) := by
  unfold insertStatement
  split
  · apply row.columnNames_computed.bind
    intro columns
    apply (Value.commaList_computed columns).bind
    intro list
    apply row.entries_computed.bind
    intro entries
    exact (Value.storedEntries_computed entries).bind fun _ => .pure _
  · exact .pure _

/-- Adding the new key to a row fails only with a failure of its own. -/
theorem withNewKey_computed (row : Value) (result : RunResult) :
    Computed (schema.withNewKey row result) := by
  unfold withNewKey
  split
  · split
    · split
      · exact .pure _
      · exact .pure _
    · exact .pure _
  · exact .throw rfl

end Schema

/-! ## Rows of a stream -/

namespace WriteStream

/-- The statement of a stream is written without the engine. -/
theorem insertText_computed (stream : WriteStream) (columns : List Value) :
    Computed (stream.insertText columns) :=
  (Value.commaList_computed columns).bind fun _ => .pure _

/-- The values of a written row are converted without the engine. -/
theorem storedColumns_computed (row : List (Value × Value)) (columns : List Value) :
    Computed (storedColumns row columns) := by
  induction columns with
  | nil => exact .pure _
  | cons column rest inductionHypothesis =>
      unfold storedColumns
      split
      · exact .throw rfl
      · next value _ => exact value.stored_computed.bind fun _ => inductionHypothesis.bind fun _ => .pure _

/-- The parameters of a written row fail only with a failure of their own. -/
theorem rowParameters_computed (columns : List Value) (row : Value) :
    Computed (rowParameters columns row) := by
  unfold rowParameters
  apply row.items_computed.bind
  intro names
  dsimp only
  split
  · exact .refused rfl _
  · split
    · exact (Value.sortedBy_computed _).bind fun _ => .refused rfl _
    · split
      · exact (storedColumns_computed _ columns).bind fun _ => .pure _
      · exact .throw rfl

end WriteStream

end Tabular
