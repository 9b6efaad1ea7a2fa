import Mathlib.Data.List.TakeWhile
import Tabular.Parameter
import Tabular.Proofs.Filter.Name

/-!
This module finds the placeholders of SQL text. The placeholders of a text are those of its parts, if
each part that follows another one closes the placeholder before it.
-/

namespace Tabular.Sql

/-- This function lists the placeholders among characters from left to right. A placeholder is a
dollar with the name characters that follow it. -/
def placeholdersIn : List Char → List String
  | [] => []
  | c :: rest =>
      if c = '$' then String.ofList (c :: rest.takeWhile Text.isNameChar) :: placeholdersIn rest
      else placeholdersIn rest

def placeholders (text : String) : List String := placeholdersIn text.toList

example : placeholders "(a = $p1) AND (b > $p23)" = ["$p1", "$p23"] := by decide +kernel

/-- A text closes the placeholder before it when it does not begin with a name character. -/
def Closes (text : String) : Prop := text.toList.head?.all (fun c => !Text.isNameChar c) = true

instance (text : String) : Decidable (Closes text) := inferInstanceAs (Decidable (_ = true))

theorem Closes.append {first : String} (closes : Closes first) (filled : first ≠ "")
    (rest : String) : Closes (first ++ rest) := by
  rw [Closes] at closes ⊢
  cases chars : first.toList with
  | nil => exact absurd (String.toList_eq_nil_iff.mp chars) filled
  | cons c cs => simpa [String.toList_append, chars] using closes

theorem placeholdersIn_free {text : List Char} (free : '$' ∉ text) (rest : List Char) :
    placeholdersIn (text ++ rest) = placeholdersIn rest := by
  induction text with
  | nil => rfl
  | cons c text inductionHypothesis =>
      obtain ⟨differs, freeRest⟩ := not_or.mp (mt List.mem_cons.mpr free)
      rw [List.cons_append, placeholdersIn, if_neg (Ne.symm differs),
        inductionHypothesis freeRest]

/-- A text without a dollar has no placeholders. -/
theorem placeholders_free {text : String} (free : '$' ∉ text.toList) (rest : String) :
    placeholders (text ++ rest) = placeholders rest := by
  rw [placeholders, String.toList_append]
  exact placeholdersIn_free free rest.toList

theorem placeholders_none {text : String} (free : '$' ∉ text.toList) : placeholders text = [] := by
  have alone := placeholders_free free ""
  rwa [String.append_empty] at alone

theorem takeWhile_closed (text : List Char) {rest : List Char}
    (closes : rest.head?.all (fun c => !Text.isNameChar c) = true) :
    (text ++ rest).takeWhile Text.isNameChar = text.takeWhile Text.isNameChar := by
  induction text with
  | nil =>
      cases rest with
      | nil => rfl
      | cons c rest =>
          have mark : Text.isNameChar c = false := by simpa using closes
          rw [List.nil_append, List.takeWhile_cons, mark]
          rfl
  | cons c text inductionHypothesis =>
      rw [List.cons_append, List.takeWhile_cons, List.takeWhile_cons, inductionHypothesis]

/-- A text that closes placeholders is cut off. -/
theorem placeholders_append (first : String) {rest : String} (closes : Closes rest) :
    placeholders (first ++ rest) = placeholders first ++ placeholders rest := by
  rw [placeholders, placeholders, placeholders, String.toList_append]
  induction first.toList with
  | nil => rfl
  | cons c text inductionHypothesis =>
      rw [List.cons_append, placeholdersIn, placeholdersIn, inductionHypothesis,
        takeWhile_closed text closes]
      split <;> rfl

theorem placeholders_closed (first : String) {rest : String} (closes : Closes rest)
    (free : '$' ∉ rest.toList) : placeholders (first ++ rest) = placeholders first := by
  rw [placeholders_append first closes, placeholders_none free, List.append_nil]

/-- Texts that are joined by a separator keep their placeholders. -/
theorem placeholders_intercalate {separator : String} (filled : separator ≠ "")
    (closes : Closes separator) (free : '$' ∉ separator.toList) (texts : List String) :
    placeholders (String.intercalate separator texts) = texts.flatMap placeholders := by
  induction texts with
  | nil => rfl
  | cons text texts inductionHypothesis =>
      cases texts with
      | nil => simp
      | cons other texts =>
          rw [String.intercalate_cons_cons, String.append_assoc,
            placeholders_append _ (closes.append filled _), placeholders_free free,
            inductionHypothesis]
          rfl

theorem isNameChar_decimal (number : Nat) :
    ∀ c ∈ (toString number).toList, Text.isNameChar c = true ∧ c ≠ '$' := by
  intro c member
  have digits : c ∈ Nat.toDigits 10 number := by simpa using member
  have digit := Nat.isDigit_of_mem_toDigits (by decide) (by decide) digits
  refine ⟨?_, ?_⟩
  · simp [Text.isNameChar, Char.isAlphanum, digit]
  · rintro rfl
    exact absurd digit (by decide)

/-- A placeholder is found whole. -/
theorem placeholders_placeholder (number : Nat) :
    placeholders (Binder.placeholder number) = [Binder.placeholder number] := by
  have chars : (Binder.placeholder number).toList = '$' :: 'p' :: (toString number).toList := by
    simp [Binder.placeholder, Binder.name]
  have digits := isNameChar_decimal number
  -- The digits hold no dollar, and all of them belong to the placeholder that the dollar begins.
  have rest : placeholdersIn ('p' :: (toString number).toList) = [] := by
    have free : '$' ∉ 'p' :: (toString number).toList := by
      rw [List.mem_cons]
      rintro (same | member)
      · exact absurd same (by decide)
      · exact (digits '$' member).2 rfl
    have alone := placeholdersIn_free free []
    rwa [List.append_nil] at alone
  have whole : ('p' :: (toString number).toList).takeWhile Text.isNameChar =
      'p' :: (toString number).toList :=
    List.takeWhile_eq_self_iff.mpr
      (List.forall_mem_cons.mpr ⟨by decide, fun c member => (digits c member).1⟩)
  rw [placeholders, chars, placeholdersIn, if_pos rfl, rest, whole, ← chars, String.ofList_toList]

end Tabular.Sql
