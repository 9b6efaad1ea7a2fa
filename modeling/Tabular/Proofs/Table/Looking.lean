import Tabular.Proofs.Engine.Guarded
import Tabular.Proofs.Schema.Computed

/-!
This module describes the actions that only look at the database. They read rows and compute, and so a
declared table is found, rebuilt and compared.
-/

namespace Tabular

open Tabular.Action

variable {σ τ α β : Type}

/-- An action reads rows of a database, computes, and goes on with what it found. -/
inductive Looks (database : Database) : {α : Type} → Action σ α → Prop where
  | lift {α : Type} {outcome : Except Failure α} (computed : Computed outcome) :
      Looks database (liftM outcome : Action σ α)
  | first {sql : String} (parameters : Value) (read : isRead sql = true) :
      Looks database (database.first sql parameters : Action σ (Option Row))
  | all {sql : String} (parameters : Value) (read : isRead sql = true) :
      Looks database (database.all sql parameters : Action σ (List Row))
  | bind {α β : Type} {action : Action σ α} {next : α → Action σ β} (first : Looks database action)
      (rest : ∀ value, Looks database (next value)) : Looks database (action >>= next)

namespace Looks

variable {database : Database}

theorem pure (value : α) : Looks database (Pure.pure value : Action σ α) := .lift (.pure value)

/-- An action that looks at a database only reads. -/
theorem inspects {action : Action σ α} (looks : Looks database action) : Inspects action := by
  induction looks with
  | lift computed => exact .lift _
  | first parameters read => exact database.first_inspects parameters read
  | all parameters read => exact database.all_inspects parameters read
  | bind _ _ firstHypothesis restHypothesis => exact firstHypothesis.bind restHypothesis

/-- No action that only looks refuses a table. -/
theorem accepts {action : Action σ α} (looks : Looks database action) :
    Avoids Failure.isSchemaRefusal action := by
  have reported {γ : Type} {read : Action σ γ} (relays : Relays read) :
      Avoids Failure.isSchemaRefusal read := by
    intro τ engine state start failure failed
    have own := relays engine state start failure failed
    cases failure with
    | schemaMismatch | foreignKeysEnabled => exact nomatch own
    | _ => rfl
  induction looks with
  | lift computed =>
      apply Avoids.lift
      intro failure failed
      have own := computed failure failed
      simp only [Failure.isComputed, Bool.and_eq_true, Bool.not_eq_true'] at own
      exact own.2
  | first parameters read => exact reported (database.first_relays parameters _)
  | all parameters read => exact reported (database.all_relays parameters _)
  | bind _ _ firstHypothesis restHypothesis => exact firstHypothesis.bind restHypothesis

end Looks

/-! ## Declared tables -/

namespace Database

variable (database : Database)

/-- Reading a pragma is a look. -/
theorem pragma_looks {name : String} (read : isRead ("PRAGMA " ++ name) = true) :
    Looks database (database.pragma name : Action σ Value) := by
  apply Looks.bind (.first .null read)
  intro found
  split
  · exact .pure _
  · exact .pure _
  · exact .lift (.throw rfl)

/-- Asking whether foreign keys are on is a look. -/
theorem foreignKeysEnabled_looks : Looks database (database.foreignKeysEnabled : Action σ Bool) :=
  (database.pragma_looks (by decide)).bind fun _ => .pure _

end Database

namespace Schema

variable (schema : Schema) (database : Database)

/-- A pragma about a table is a read. -/
theorem pragmaText_isRead {pragma : String}
    (known : ∃ first ∈ readStarts, first.toList <+: ("PRAGMA " ++ pragma ++ "(").toList)
    (name : Value) : isRead (pragmaText pragma name) = true := by
  rw [pragmaText, String.append_assoc]
  exact isRead_append known _

/-- Asking whether a table is there is a look. -/
theorem exists?_looks : Looks database (schema.exists? database : Action σ Bool) := by
  apply Looks.bind (.first _ (by decide))
  intro found
  split
  · exact .pure _
  · exact .pure _
  · exact .lift ((column_computed _ _).bind fun count => count.isPositive_computed)

/-- Reading the columns of an index is a look. -/
theorem indexColumns_looks (index : Value) :
    Looks database (indexColumns database index : Action σ (List Value)) := by
  apply Looks.bind (.all .null (pragmaText_isRead (by decide) index))
  intro rows
  apply Looks.lift
  apply (ordered_computed rows "seqno").bind
  intro placed
  apply (Value.sortedBy_computed placed).bind
  exact Computed.mapM fun row => column_computed row "name"

/-- Finding the unique columns is a look, by induction on the indices. -/
theorem uniqueFrom_looks (rows : List Row) :
    Looks database (uniqueFrom database rows : Action σ (List Value)) := by
  induction rows with
  | nil => exact .pure _
  | cons row rest inductionHypothesis =>
      apply Looks.bind (.lift (isConstraintIndex_computed row))
      intro constraint
      split
      · apply Looks.bind (.lift (column_computed row "name"))
        intro name
        apply (indexColumns_looks database name).bind
        intro columns
        apply inductionHypothesis.bind
        intro others
        split
        · exact .pure _
        · exact .pure _
      · exact inductionHypothesis

/-- Finding the declared indices is one too. -/
theorem explicitFrom_looks (rows : List Row) (found : Keyed Index) :
    Looks database (explicitFrom schema database rows found : Action σ (Keyed Index)) := by
  induction rows generalizing found with
  | nil => exact .pure _
  | cons row rest inductionHypothesis =>
      apply Looks.bind (.lift (schema.declaredIndexName_computed row))
      intro declared
      split
      · exact inductionHypothesis found
      · apply Looks.bind (.lift (column_computed row "name"))
        intro name
        apply (indexColumns_looks database name).bind
        intro columns
        apply Looks.bind (.lift (reportedFlag_computed row "unique"))
        intro unique
        exact inductionHypothesis _

/-- Rebuilding a declaration is a look. -/
theorem introspect_looks : Looks database (schema.introspect database : Action σ Schema) := by
  have reads {pragma : String}
      (known : ∃ first ∈ readStarts, first.toList <+: ("PRAGMA " ++ pragma ++ "(").toList) :
      Looks database (database.all (pragmaText pragma schema.name) : Action σ (List Row)) :=
    .all .null (pragmaText_isRead known schema.name)
  apply (reads (by decide)).bind
  intro rows
  apply Looks.bind (.lift (reportedKey_computed rows))
  intro key
  apply ((reads (by decide)).bind (uniqueFrom_looks database)).bind
  intro unique
  apply Looks.bind (.lift (Computed.mapM (reportedColumn_computed _ unique) rows))
  intro columns
  apply ((reads (by decide)).bind fun rows => explicitFrom_looks schema database rows []).bind
  intro indices
  apply Looks.bind
  · apply (reads (by decide)).bind
    intro rows
    apply Looks.lift
    apply (groupRows_computed rows []).bind
    exact Computed.mapM fun group => reportedForeignKey_computed group.2
  · exact fun _ => .lift (check_computed _)

/-- Comparing a table with its declaration is a look. -/
theorem matchesDatabase_looks : Looks database (schema.matchesDatabase database : Action σ Bool) :=
  (schema.introspect_looks database).bind fun actual => .lift (schema.agrees_computed actual)

/-- Reading the names of the indices is a look. -/
theorem explicitIndexNames_looks :
    Looks database (schema.explicitIndexNames database : Action σ (List Value)) := by
  apply Looks.bind (.all _ (by decide))
  intro rows
  exact .lift (Computed.mapM (fun row => column_computed row "name") rows)

end Schema

end Tabular
