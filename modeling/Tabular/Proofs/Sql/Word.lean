import Tabular.Proofs.Filter.Name
import Tabular.Proofs.Number.Written
import Tabular.Proofs.Sql.Token

/-!
This module shows that plain names and written numbers are single words of a statement.
-/

namespace Tabular

namespace Sql

open DecimalLayout

/-- These characters are never part of a word. -/
def delimiters : List Char := [' ', '\t', '\r', '\n', '(', ')', ',', '\'']

theorem not_delimiter {c : Char} (other : c ∉ delimiters) : isDelimiter c = false ∧ c ≠ '\'' := by
  simp only [delimiters, List.mem_cons, List.not_mem_nil, or_false, not_or] at other
  simp only [isDelimiter, Char.isWhitespace, isMark, Bool.or_eq_false_iff, decide_eq_false_iff_not]
  tauto

/-- A word may be made of any characters that a test accepts and that are no delimiters. -/
theorem isWord_of_all (accepts : Char → Bool) {text : List Char} (filled : text ≠ [])
    (accepted : ∀ c ∈ text, accepts c = true)
    (refused : delimiters.all (fun c => !accepts c) = true) : IsWord text := by
  refine ⟨filled, fun c member => not_delimiter fun delimiter => ?_⟩
  have none := List.all_eq_true.mp refused c delimiter
  simp [accepted c member] at none

/-- A plain name is an identifier. -/
def PlainName (name : String) : Prop := Text.isName name.toList = true

instance (name : String) : Decidable (PlainName name) := inferInstanceAs (Decidable (_ = _))

theorem isName_all {cs : List Char} (named : Text.isName cs = true) :
    ∀ c ∈ cs, Text.isNameChar c = true :=
  ColumnName.identifier_chars ((ColumnName.isName_iff cs).mp named)

theorem PlainName.isWord {name : String} (plain : PlainName name) : IsWord name.toList := by
  apply isWord_of_all Text.isNameChar _ (isName_all plain) (by decide)
  intro empty
  rw [PlainName, empty] at plain
  exact absurd plain (by decide)

theorem PlainName.scans {name : String} (plain : PlainName name) : Scans name [.word name] :=
  scans_word plain.isWord

/-! ## Numbers -/

theorem isWord_toText (x : Binary64) : IsWord x.toText.toList := by
  cases x with
  | nan =>
      have word : IsWord "nan".toList := by decide
      exact word
  | infinite negative =>
      have positive : IsWord "inf".toList := by decide
      have below : IsWord "-inf".toList := by decide
      cases negative
      · exact positive
      · exact below
  | finite negative rank =>
      rw [Binary64.toText, String.toList_ofList]
      apply isWord_of_all isNumberChar _ _ (by decide)
      · simp [Binary64.magnitude_ne_nil rank]
      · intro c member
        rcases List.mem_append.mp member with member | member
        · split at member
          · rw [List.mem_singleton.mp member]; decide
          · exact absurd member List.not_mem_nil
        · exact Binary64.numberChar_magnitude rank c member

theorem isWord_int (n : Int) : IsWord (toString n).toList := by
  have natural (n : Nat) : ∀ c ∈ (toString n).toList, isNumberChar c = true := by
    intro c member
    exact isNumberChar_digit (n := n) (by simpa using member)
  apply isWord_of_all isNumberChar _ _ (by decide)
  · cases n <;> simp [toString, Int.repr]
  · cases n with
    | ofNat n => exact natural n
    | negSucc n =>
        intro c member
        change c ∈ ("-" ++ toString (n + 1)).toList at member
        rw [String.toList_append, List.mem_append] at member
        rcases member with member | member
        · rw [List.mem_singleton.mp member]; decide
        · exact natural _ c member

end Sql

end Tabular
