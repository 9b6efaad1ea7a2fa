import Tabular.Proofs.Value.Computed
import Tabular.Table.Reconciler

/-!
This module shows that reading, comparing and defining a table are computations. None of them ends with
a failure of the engine, and none refuses a table.
-/

namespace Tabular

variable {σ : Type}

/-! ## Definitions -/

/-- Writing a default fails only with a failure of its own. -/
theorem Column.defaultText_computed (name default : Value) :
    Computed (Column.defaultText name default) := by
  unfold Column.defaultText
  split
  case h_5 => exact .throw rfl
  all_goals exact .pure _

/-- Writing the line of a column fails only with a failure of its own. -/
theorem Column.line_computed (name : Value) (column : Column) : Computed (column.line name) := by
  have named {β : Type} (next : String → β) : Computed (do pure (next (← name.asText))) :=
    name.asText_computed.bind fun _ => .pure _
  unfold Column.line
  dsimp only
  split
  · exact named _
  · apply (Column.defaultText_computed name column.default).bind
    exact fun _ => named _

namespace ForeignKey

variable (key : ForeignKey)

theorem sourceColumns_computed : Computed key.sourceColumns := key.source.nameList_computed

/-- Reading the target of a foreign key fails only with a failure of its own. -/
theorem target_computed : Computed key.target := by
  unfold target
  split
  · exact .pure _
  · exact .throw rfl

theorem table_computed : Computed key.table := key.target_computed.bind fun _ => .pure _

theorem targetColumns_computed : Computed key.targetColumns :=
  key.target_computed.bind fun target => target.2.nameList_computed

/-- Writing the line of a foreign key fails only with a failure of its own. -/
theorem line_computed : Computed key.line := by
  apply key.sourceColumns_computed.bind
  intro columns
  apply (Value.commaList_computed columns).bind
  intro source
  apply key.table_computed.bind
  intro table
  apply key.targetColumns_computed.bind
  intro others
  exact (Value.commaList_computed others).bind fun _ => .pure _

end ForeignKey

namespace Schema

variable (schema : Schema)

/-- Checking the columns of an index fails only with a failure of its own. -/
theorem checkIndexColumns_computed (name : Value) (columns : List Value) :
    Computed (schema.checkIndexColumns name columns) := by
  induction columns with
  | nil => exact .pure _
  | cons column rest inductionHypothesis =>
      unfold checkIndexColumns
      split
      · exact .throw rfl
      · split
        · exact inductionHypothesis
        · exact .throw rfl

/-- Planning the declared indices fails only with a failure of its own. -/
theorem declaredPlans_computed (indices : Keyed Index) : Computed (schema.declaredPlans indices) := by
  induction indices with
  | nil => exact .pure _
  | cons entry rest inductionHypothesis =>
      obtain ⟨name, index⟩ := entry
      apply (schema.checkIndexColumns_computed name index.columns).bind
      intro _
      exact inductionHypothesis.bind fun _ => .pure _

/-- The definition of a table is written without the engine. -/
theorem tableDefinition_computed : Computed schema.tableDefinition := by
  apply (Computed.mapM (fun entry => entry.2.line_computed entry.1) schema.columns).bind
  intro columns
  apply (Computed.mapM ForeignKey.line_computed schema.foreignKeys).bind
  intro foreignKeys
  split
  · exact .pure _
  · exact (Value.commaList_computed schema.compositeKey).bind fun _ => .pure _

/-- The definitions of the indices are written without the engine. -/
theorem indexDefinitions_computed : Computed schema.indexDefinitions := by
  apply Computed.bind
  · exact (schema.declaredPlans_computed schema.indices).bind fun _ => .pure _
  · intro plans
    apply Computed.mapM
    intro entry
    exact (Computed.mapM Value.asText_computed entry.2.expressions).bind fun _ => .pure _

/-- All definitions of a schema are written without the engine. -/
theorem definitions_computed : Computed schema.definitions := by
  apply schema.tableDefinition_computed.bind
  intro table
  exact schema.indexDefinitions_computed.bind fun _ => .pure _

/-- The steps of a migration are planned without the engine. -/
theorem migration_computed (old : Schema) (backup : String) (indices : List Value) :
    Computed (schema.migration old backup indices) := by
  apply schema.definitions_computed.bind
  intro definitions
  apply Computed.bind
  · apply (Computed.mapM Value.asText_computed (sharedColumns schema old)).bind
    intro columns
    split
    · exact .pure _
    · exact .pure _
  · exact fun _ => .pure _

/-! ## Comparisons -/

theorem ofRounded_computed (rounded : Option Binary64) : Computed (DefaultKey.ofRounded rounded) := by
  cases rounded with
  | none => exact .throw rfl
  | some value => exact .pure _

/-- The key of a default is made without the engine. -/
theorem ofValue_computed (default : Value) : Computed (DefaultKey.ofValue default) := by
  unfold DefaultKey.ofValue
  split
  case h_4 =>
    split
    · exact ofRounded_computed _
    · exact .pure _
  all_goals exact .pure _

/-- Comparing the columns of two schemas fails only with a failure of its own. -/
theorem columnsAgree_computed (actual : Schema) (columns : Keyed Column) :
    Computed (columnsAgree schema actual columns) := by
  induction columns with
  | nil => exact .pure _
  | cons entry rest inductionHypothesis =>
      obtain ⟨name, column⟩ := entry
      unfold columnsAgree
      split
      · exact .throw rfl
      · next old _ =>
          split
          · exact .pure _
          · split
            · exact .pure _
            · apply (ofValue_computed column.default).bind
              intro expected
              apply (ofValue_computed old.default).bind
              intro found
              split
              · exact inductionHypothesis
              · exact .pure _

/-- Looking for the counterpart of a foreign key fails only with a failure of its own. -/
theorem counterpart_computed (old : ForeignKey) (declared : List ForeignKey) :
    Computed (counterpart old declared) := by
  induction declared with
  | nil => exact .pure _
  | cons key rest inductionHypothesis =>
      apply key.sourceColumns_computed.bind
      intro columns
      apply old.sourceColumns_computed.bind
      intro wanted
      split
      · exact .pure _
      · exact inductionHypothesis

/-- Lowering a name fails only with a failure of its own. -/
theorem lowerName_computed (name : Value) : Computed (lowerName name) := by
  unfold lowerName
  split
  · exact .pure _
  · exact .throw rfl

/-- Comparing two targets fails only with a failure of its own. -/
theorem sameTarget_computed (key old : ForeignKey) : Computed (sameTarget key old) := by
  apply key.table_computed.bind
  intro name
  apply (lowerName_computed name).bind
  intro table
  apply old.table_computed.bind
  intro oldName
  apply (lowerName_computed oldName).bind
  intro oldTable
  split
  · exact .pure _
  · exact key.targetColumns_computed.bind fun _ => old.targetColumns_computed.bind fun _ => .pure _

/-- Comparing the foreign keys fails only with a failure of its own. -/
theorem foreignKeysAgree_computed (declared actual : List ForeignKey) :
    Computed (foreignKeysAgree declared actual) := by
  induction actual with
  | nil => exact .pure _
  | cons old rest inductionHypothesis =>
      apply (counterpart_computed old declared).bind
      intro found
      cases found with
      | none => exact .pure _
      | some key =>
          apply (sameTarget_computed key old).bind
          intro same
          split
          · exact inductionHypothesis
          · exact .pure _

/-- Comparing two schemas asks nothing of the engine and fails only with a failure of its own. -/
theorem agrees_computed (actual : Schema) : Computed (schema.agrees actual) := by
  unfold agrees
  split
  · exact .pure _
  · apply (schema.columnsAgree_computed actual schema.columns).bind
    intro same
    split
    · split
      · exact .pure _
      · exact foreignKeysAgree_computed _ _
    · exact .pure _

/-! ## Reported tables -/

theorem column_computed (row : Row) (name : String) : Computed (Keyed.column row name) :=
  Value.member_computed (.map row) name

theorem reportedFlag_computed (row : Row) (name : String) : Computed (reportedFlag row name) :=
  (column_computed row name).bind fun _ => .pure _

/-- Pairing the reported rows with their order fails only with a failure of its own. -/
theorem ordered_computed (rows : List Row) (name : String) :
    Computed (rows.mapM fun row => do pure ((← Keyed.column row name), row) :
      Except Failure (List (Value × Row))) :=
  Computed.mapM (fun row => (column_computed row name).bind fun _ => .pure _) rows

/-- The primary key is read off the report without the engine. -/
theorem reportedKey_computed (rows : List Row) : Computed (reportedKey rows) := by
  apply (ordered_computed rows "pk").bind
  intro placed
  apply (Value.sortedBy_computed placed).bind
  intro sorted
  apply Computed.filterMapM
  intro row
  apply (reportedFlag_computed row "pk").bind
  intro flag
  split
  · exact (column_computed row "name").bind fun _ => .pure _
  · exact .pure _

/-- A column is read off the report without the engine. -/
theorem reportedColumn_computed (single : Option Value) (unique : List Value) (row : Row) :
    Computed (reportedColumn single unique row) := by
  have storage (reported : Value) : Computed (reportedStorage reported) := by
    unfold reportedStorage
    split
    · exact .pure _
    · split
      · exact .throw rfl
      · exact .pure _
  have default (reported : Value) : Computed (reportedDefault reported) := by
    unfold reportedDefault
    split
    · exact .pure _
    · exact .pure _
    · exact .throw rfl
  apply (column_computed row "type").bind
  intro type
  apply (storage type).bind
  intro storage
  apply (column_computed row "name").bind
  intro name
  apply (reportedFlag_computed row "notnull").bind
  intro notNull
  apply (column_computed row "dflt_value").bind
  intro reported
  exact (default reported).bind fun _ => .pure _

/-- Telling an index of a constraint fails only with a failure of its own. -/
theorem isConstraintIndex_computed (row : Row) : Computed (isConstraintIndex row) := by
  apply (column_computed row "origin").bind
  intro origin
  split
  · exact reportedFlag_computed row "unique"
  · exact .pure _

/-- Reading the declared name of an index fails only with a failure of its own. -/
theorem declaredIndexName_computed (row : Row) : Computed (schema.declaredIndexName row) := by
  apply (column_computed row "origin").bind
  intro origin
  split
  · apply (column_computed row "name").bind
    intro name
    split
    · dsimp only
      split
      · exact .pure _
      · exact .pure _
    · exact .throw rfl
  · exact .pure _

/-- Grouping the reported rows fails only with a failure of its own. -/
theorem groupRows_computed (rows : List Row) (groups : Keyed (List Row)) :
    Computed (groupRows rows groups) := by
  induction rows generalizing groups with
  | nil => exact .pure _
  | cons row rest inductionHypothesis =>
      apply (column_computed row "id").bind
      intro number
      exact inductionHypothesis _

/-- A foreign key is read off its rows without the engine. -/
theorem reportedForeignKey_computed (rows : List Row) : Computed (reportedForeignKey rows) := by
  apply (ordered_computed rows "seq").bind
  intro placed
  apply (Value.sortedBy_computed placed).bind
  intro sorted
  apply (Computed.mapM (fun row => column_computed row "from") sorted).bind
  intro source
  apply (Computed.mapM (fun row => column_computed row "to") sorted).bind
  intro target
  split
  · exact .throw rfl
  · next row rest => exact (column_computed row "table").bind fun _ => .pure _

/-- The check of a schema fails only with a failure of its own. -/
theorem check_computed : Computed schema.check := by
  unfold check
  split
  · exact .pure _
  · split
    · exact .pure _
    · exact .throw rfl
  · exact .throw rfl

end Schema

end Tabular
