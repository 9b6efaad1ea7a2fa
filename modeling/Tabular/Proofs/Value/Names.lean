import Tabular.Proofs.Outcome
import Tabular.Proofs.Sql.Word
import Tabular.Value.Access
import Tabular.Value.Display

/-!
This module takes lists of names apart. A name is plain when it is an identifier.
-/

namespace Tabular.Value

theorem asText_eq_ok {value : Value} {content : String} :
    value.asText = .ok content ↔ value = .text content := by
  constructor
  · intro done
    cases value with
    | text found => rw [Except.ok.inj done]
    | _ => exact nomatch done
  · rintro rfl
    rfl

/-- A list is read as texts when it consists of them. -/
theorem mapM_asText_eq_ok {values : List Value} {names : List String} :
    values.mapM asText = .ok names ↔ values = names.map Value.text := by
  rw [Outcome.mapM_eq_ok]
  simp only [asText_eq_ok]
  rw [← List.forall₂_map_right_iff, List.forall₂_eq_eq_eq]

theorem map_text_toText {values : List Value} (texts : ∀ value ∈ values, ∃ name, value = .text name) :
    values = (values.map toText).map Value.text := by
  have same : ∀ value ∈ values, Value.text value.toText = value := by
    intro value member
    obtain ⟨name, rfl⟩ := texts value member
    rfl
  rw [List.map_map]
  exact ((List.map_congr_left same).trans (List.map_id' _)).symm

theorem commaList_eq_ok {values : List Value} {text : String} :
    commaList values = .ok text ↔
      ∃ names, values = names.map Value.text ∧ text = String.intercalate ", " names := by
  rw [commaList, Outcome.bind_eq_ok]
  simp only [mapM_asText_eq_ok, Outcome.pure_eq_ok]
  simp only [eq_comm (a := text)]

theorem isText_iff {value : Value} : value.isText = true ↔ ∃ name, value = .text name := by
  cases value <;> simp [isText]

/-- A plain value is a text that is an identifier. -/
def isPlain (value : Value) : Bool :=
  match value with
  | .text name => Text.isName name.toList
  | _ => false

theorem isPlain_iff {value : Value} :
    value.isPlain = true ↔ ∃ name, value = .text name ∧ Sql.PlainName name := by
  constructor
  · intro plain
    cases value with
    | text name => exact ⟨name, rfl, plain⟩
    | _ => exact nomatch plain
  · rintro ⟨name, rfl, plain⟩
    exact plain

theorem plainNames {names : List String}
    (plain : ∀ value ∈ names.map Value.text, value.isPlain = true) :
    ∀ name ∈ names, Sql.PlainName name :=
  fun _ member => plain _ (List.mem_map_of_mem member)

end Tabular.Value
