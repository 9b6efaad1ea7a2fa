import Tabular.Parameter
import Tabular.Value.Access
import Tabular.Value.Order

/-!
This module tells with which failures a computation ends. The driver and the engine report theirs, and
a table is refused by an action, so that no computation ends with one of these.
-/

namespace Tabular

namespace Failure

/-- The driver or the engine reports these failures. -/
def isReported : Failure → Bool
  | .engine _ _ _ | .outside _ => true
  | _ => false

theorem not_isEngine {failure : Failure} (own : failure.isReported = false) :
    failure.isEngine = false := by
  cases failure with
  | engine | outside => exact nomatch own
  | _ => rfl

/-- A computation may end with these failures. -/
def isComputed (failure : Failure) : Bool := !failure.isReported && !failure.isSchemaRefusal

end Failure

variable {α β : Type}

/-- A computation returns or ends with a failure of its own. -/
def Computed (outcome : Except Failure α) : Prop :=
  ∀ failure, outcome = .error failure → failure.isComputed = true

namespace Computed

theorem pure (value : α) : Computed (Pure.pure value) := fun _ failed => nomatch failed

theorem throw {failure : Failure} (own : failure.isComputed = true) :
    Computed (MonadExcept.throw failure : Except Failure α) := by
  intro other failed
  rw [← Except.error.inj failed]
  exact own

theorem bind {first : Except Failure α} {next : α → Except Failure β} (computed : Computed first)
    (rest : ∀ value, Computed (next value)) : Computed (first >>= next) := by
  cases first with
  | ok value => exact rest value
  | error failure => exact throw (computed failure rfl)

/-- Nothing comes after a failure. -/
theorem refused {failure : Failure} (own : failure.isComputed = true) (next : α → Except Failure β) :
    Computed (MonadExcept.throw failure >>= next) := throw own

theorem mapM {read : α → Except Failure β} (each : ∀ item, Computed (read item)) (items : List α) :
    Computed (items.mapM read) := by
  induction items with
  | nil => exact pure []
  | cons item rest inductionHypothesis =>
      rw [List.mapM_cons]
      exact (each item).bind fun _ => inductionHypothesis.bind fun _ => pure _

theorem filterMapM {read : α → Except Failure (Option β)} (each : ∀ item, Computed (read item))
    (items : List α) : Computed (items.filterMapM read) := by
  induction items with
  | nil => exact pure []
  | cons item rest inductionHypothesis =>
      rw [List.filterMapM_cons]
      apply (each item).bind
      intro found
      cases found with
      | none => exact inductionHypothesis
      | some value => exact inductionHypothesis.bind fun _ => pure _

end Computed

namespace Value

variable (value : Value)

theorem items_computed : Computed value.items := by
  unfold items
  split
  · exact .pure _
  · exact .throw rfl

theorem nameList_computed : Computed value.nameList := by
  unfold nameList
  split
  · exact .pure _
  · exact value.items_computed

theorem asText_computed : Computed value.asText := by
  unfold asText
  split
  · exact .pure _
  · exact .throw rfl

theorem commaList_computed (values : List Value) : Computed (commaList values) :=
  (Computed.mapM asText_computed values).bind fun _ => .pure _

theorem member_computed (key : String) : Computed (value.member key) := by
  unfold member
  split
  · split
    · exact .pure _
    · exact .throw rfl
  · exact .throw rfl

theorem entries_computed : Computed value.entries := by
  unfold entries
  split
  · exact .pure _
  · exact .throw rfl

theorem stored_computed : Computed value.stored := by
  unfold stored
  split
  case h_9 => exact .throw rfl
  all_goals exact .pure _

theorem sortedBy_computed (entries : List (Value × α)) : Computed (sortedBy entries) := by
  unfold sortedBy
  split
  · exact .pure _
  · exact .pure _
  · split
    · exact .throw rfl
    · split
      · exact .pure _
      · exact .throw rfl

theorem isPositive_computed : Computed value.isPositive := by
  unfold isPositive
  split
  · exact .pure _
  · exact .throw rfl

end Value

end Tabular
