import Mathlib.Computability.Language
import Mathlib.Data.List.TakeWhile
import Tabular.Filter.Reader

/-!
This module gives the names of columns as a language. A name is one identifier or two with a dot
between, and one line end may follow.
-/

namespace Tabular.ColumnName

open scoped Computability

/-- The words that are one character of a class. -/
def oneOf (accepts : Char → Prop) : Language Char := { word | ∃ c, word = [c] ∧ accepts c }

def IsLetter (c : Char) : Prop := ('A' ≤ c ∧ c ≤ 'Z') ∨ ('a' ≤ c ∧ c ≤ 'z') ∨ c = '_'

def IsDigit (c : Char) : Prop := '0' ≤ c ∧ c ≤ '9'

/-- An identifier begins with a letter, and letters and digits follow. -/
def identifier : Language Char := oneOf IsLetter * (oneOf fun c => IsLetter c ∨ IsDigit c)∗

def qualified : Language Char := identifier * (1 + oneOf (· = '.') * identifier)

/-- The language of column names. -/
def pattern : Language Char := qualified * (1 + oneOf (· = '\n'))

/-! ## Words of the language -/

theorem isNameStart_iff (c : Char) : Text.isNameStart c = true ↔ IsLetter c := by
  have ranges : Text.isNameStart c = (decide (c.val ≥ 'A'.val ∧ c.val ≤ 'Z'.val) ||
      (decide (c.val ≥ 'a'.val) && decide (c.val ≤ 'z'.val)) || decide (c = '_')) := rfl
  simp only [ranges, IsLetter, Char.le_def, Bool.or_eq_true, Bool.and_eq_true, decide_eq_true_eq,
    ge_iff_le, or_assoc]

theorem isNameChar_iff (c : Char) : Text.isNameChar c = true ↔ IsLetter c ∨ IsDigit c := by
  rw [← isNameStart_iff]
  simp only [Text.isNameChar, Text.isNameStart, Char.isAlphanum, Char.isDigit, IsDigit,
    Char.le_def, Bool.or_eq_true, Bool.and_eq_true, decide_eq_true_eq, ge_iff_le]
  exact or_right_comm

theorem mem_oneOf_mul {accepts : Char → Prop} {words : Language Char} {cs : List Char} :
    cs ∈ oneOf accepts * words ↔ ∃ c rest, cs = c :: rest ∧ accepts c ∧ rest ∈ words := by
  rw [Language.mem_mul]
  constructor
  · rintro ⟨_, ⟨c, rfl, accepted⟩, rest, member, rfl⟩
    exact ⟨c, rest, rfl, accepted, member⟩
  · rintro ⟨c, rest, rfl, accepted, member⟩
    exact ⟨[c], ⟨c, rfl, accepted⟩, rest, member, rfl⟩

/-- A repeated class accepts each character of a word. -/
theorem mem_oneOf_kstar {accepts : Char → Prop} {cs : List Char} :
    cs ∈ (oneOf accepts)∗ ↔ ∀ c ∈ cs, accepts c := by
  rw [Language.mem_kstar]
  constructor
  · rintro ⟨words, rfl, each⟩ c member
    obtain ⟨word, inside, member⟩ := List.mem_flatten.mp member
    obtain ⟨d, rfl, accepted⟩ := each word inside
    rwa [List.mem_singleton.mp member]
  · intro accepted
    refine ⟨cs.map fun c => [c], ?_, ?_⟩
    · induction cs with
      | nil => rfl
      | cons c rest inductionHypothesis =>
          rw [List.map_cons, List.flatten_cons, ← inductionHypothesis
            fun d member => accepted d (List.mem_cons_of_mem _ member)]
          rfl
    · intro word member
      obtain ⟨c, inside, rfl⟩ := List.mem_map.mp member
      exact ⟨c, rfl, accepted c inside⟩

theorem isName_iff (cs : List Char) : Text.isName cs = true ↔ cs ∈ identifier := by
  rw [identifier, mem_oneOf_mul]
  simp only [mem_oneOf_kstar]
  cases cs with
  | nil => simp [Text.isName]
  | cons c rest => simp [Text.isName, isNameStart_iff, isNameChar_iff]

/-- An identifier has name characters only. -/
theorem identifier_chars {cs : List Char} (named : cs ∈ identifier) :
    ∀ c ∈ cs, Text.isNameChar c = true := by
  obtain ⟨c, rest, rfl, first, others⟩ := mem_oneOf_mul.mp named
  intro d member
  rw [isNameChar_iff]
  rcases List.mem_cons.mp member with rfl | member
  · exact .inl first
  · exact mem_oneOf_kstar.mp others d member

theorem identifier_dotFree {cs : List Char} (named : cs ∈ identifier) :
    ∀ c ∈ cs, (decide (c ≠ '.')) = true := by
  intro c member
  have accepted := identifier_chars named c member
  rw [decide_eq_true_eq]
  rintro rfl
  exact absurd accepted (by decide)

theorem mem_qualified {cs : List Char} :
    cs ∈ qualified ↔ cs ∈ identifier ∨
      ∃ first second, cs = first ++ '.' :: second ∧ first ∈ identifier ∧ second ∈ identifier := by
  rw [qualified, mul_add, mul_one, Language.mem_add, Language.mem_mul]
  refine or_congr_right ⟨?_, ?_⟩
  · rintro ⟨first, named, _, rest, rfl⟩
    obtain ⟨_, second, rfl, rfl, alsoNamed⟩ := mem_oneOf_mul.mp rest
    exact ⟨first, second, rfl, named, alsoNamed⟩
  · rintro ⟨first, second, rfl, named, alsoNamed⟩
    exact ⟨first, named, _, mem_oneOf_mul.mpr ⟨_, second, rfl, rfl, alsoNamed⟩, rfl⟩

/-- The name is cut at its first dot. -/
theorem isQualifiedName_iff (cs : List Char) :
    Text.isQualifiedName cs = true ↔ cs ∈ qualified := by
  rw [mem_qualified]
  constructor
  · intro named
    unfold Text.isQualifiedName at named
    split at named
    · exact .inl ((isName_iff cs).mp named)
    · next dot rest split =>
        rw [Bool.and_eq_true, isName_iff, isName_iff] at named
        have dotted : dot = '.' := by
          have head := List.head?_dropWhile_not (· ≠ '.') cs
          rw [split] at head
          simpa using head
        refine .inr ⟨_, rest, ?_, named⟩
        rw [dotted] at split
        rw [← split, List.takeWhile_append_dropWhile]
  -- An identifier has no dot, so the cut gives back the identifiers on both sides of it.
  · rintro (named | ⟨first, second, rfl, named, alsoNamed⟩)
    · have undotted : cs.dropWhile (· ≠ '.') = [] :=
        List.dropWhile_eq_nil_iff.mpr (identifier_dotFree named)
      rw [Text.isQualifiedName, undotted]
      exact (isName_iff cs).mpr named
    · have rest : (first ++ '.' :: second).dropWhile (· ≠ '.') = '.' :: second := by
        rw [List.dropWhile_append_of_pos (identifier_dotFree named)]
        rfl
      have start : (first ++ '.' :: second).takeWhile (· ≠ '.') = first := by
        rw [List.takeWhile_append_of_pos (identifier_dotFree named)]
        exact List.append_nil first
      rw [Text.isQualifiedName, rest, start]
      exact Bool.and_eq_true_iff.mpr
        ⟨(isName_iff first).mpr named, (isName_iff second).mpr alsoNamed⟩

theorem mem_pattern {cs : List Char} :
    cs ∈ pattern ↔ cs ∈ qualified ∨ ∃ name ∈ qualified, cs = name ++ ['\n'] := by
  rw [pattern, mul_add, mul_one, Language.mem_add, Language.mem_mul]
  refine or_congr_right ⟨?_, ?_⟩
  · rintro ⟨name, named, _, ⟨_, rfl, rfl⟩, rfl⟩
    exact ⟨name, named, rfl⟩
  · rintro ⟨name, named, rfl⟩
    exact ⟨name, named, _, ⟨_, rfl, rfl⟩, rfl⟩

theorem isColumnName_iff (name : String) : isColumnName name = true ↔ name.toList ∈ pattern := by
  rw [isColumnName, Bool.or_eq_true, isQualifiedName_iff, isQualifiedName_iff, mem_pattern]
  unfold Text.dropLineEnd
  split
  · next last =>
      refine or_congr_right ⟨fun named => ⟨_, named, ?_⟩, ?_⟩
      · exact (List.dropLast_append_getLast? '\n' last).symm
      · rintro ⟨word, named, same⟩
        rwa [same, List.dropLast_concat]
  · next noLineEnd =>
      rw [or_self, or_iff_left]
      rintro ⟨word, -, same⟩
      exact noLineEnd (by rw [same, List.getLast?_concat])

/-- These characters can stand in the name of a column. -/
theorem chars_of_isColumnName {name : String} (accepted : isColumnName name = true) :
    ∀ c ∈ name.toList, Text.isNameChar c = true ∨ c = '.' ∨ c = '\n' := by
  have ofQualified {cs : List Char} (named : cs ∈ qualified) :
      ∀ c ∈ cs, Text.isNameChar c = true ∨ c = '.' := by
    intro c member
    rcases mem_qualified.mp named with named | ⟨first, second, rfl, named, alsoNamed⟩
    · exact .inl (identifier_chars named c member)
    · rcases List.mem_append.mp member with member | member
      · exact .inl (identifier_chars named c member)
      · rcases List.mem_cons.mp member with rfl | member
        · exact .inr rfl
        · exact .inl (identifier_chars alsoNamed c member)
  intro c member
  rcases mem_pattern.mp ((isColumnName_iff name).mp accepted) with named | ⟨word, named, same⟩
  · exact (ofQualified named c member).imp_right .inl
  · rw [same, List.mem_append, List.mem_singleton] at member
    rcases member with member | rfl
    · exact (ofQualified named c member).imp_right .inl
    · exact .inr (.inr rfl)

end Tabular.ColumnName
