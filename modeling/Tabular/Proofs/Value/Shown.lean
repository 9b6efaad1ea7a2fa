import Mathlib.Data.List.Infix
import Tabular.Failure

/-!
This module tells where a failure of the engine shows the words of a taken key. They stand in what the
engine says, in the statement or in its parameters, and never across two of these parts.
-/

namespace Tabular

/-- The words with which the engine says that a key is taken. -/
def takenWords : List Char := "UNIQUE constraint failed".toList

/-- A text shows the words of a taken key. -/
def SaysTaken (text : String) : Prop := takenWords <:+: text.toList

instance (text : String) : Decidable (SaysTaken text) :=
  inferInstanceAs (Decidable (takenWords <:+: text.toList))

/-- The test of a part decides whether it stands in the text. -/
theorem Failure.holds_iff {text part : List Char} : holds text part = true ↔ part <:+: text := by
  induction text with
  | nil => simp [holds]
  | cons first rest inductionHypothesis =>
      rw [holds, Bool.or_eq_true, List.isPrefixOf_iff_prefix, inductionHypothesis,
        List.infix_cons_iff]

/-! ## Texts between which no words stand -/

namespace Text

theorem takenWords_ne_nil : takenWords ≠ [] := by decide

theorem not_infix_nil : ¬ takenWords <:+: [] := by decide

/-- The words stand on one side of a character that they do not have. -/
theorem infix_parted {mark : Char} (apart : mark ∉ takenWords) (first rest : List Char) :
    takenWords <:+: first ++ mark :: rest ↔ takenWords <:+: first ∨ takenWords <:+: rest := by
  have starts : ¬ takenWords <+: mark :: rest := by
    intro begins
    obtain ⟨word, others, split⟩ := List.exists_cons_of_ne_nil takenWords_ne_nil
    rw [split, List.cons_prefix_cons] at begins
    exact apart (by simp [split, begins.1])
  rw [List.infix_append_iff, List.infix_cons_iff]
  constructor
  · rintro (before | (begins | after) | ⟨left, right, whole, ends, begins⟩)
    · exact .inl before
    · exact absurd begins starts
    · exact .inr after
    · cases right with
      | nil =>
          rw [List.append_nil] at whole
          exact .inl (whole ▸ ends.isInfix)
      | cons word others =>
          obtain ⟨rfl, -⟩ := List.cons_prefix_cons.mp begins
          exact absurd (by simp [whole]) apart
  · rintro (before | after)
    · exact .inl before
    · exact .inr (.inl (.inr after))

/-- The words do not begin with a blank. -/
theorem infix_blank (rest : List Char) : takenWords <:+: ' ' :: rest ↔ takenWords <:+: rest := by
  rw [List.infix_cons_iff, or_iff_right]
  intro begins
  exact absurd (List.cons_prefix_cons.mp begins).1 (by decide)

/-- The words do not end with a blank. -/
theorem infix_trailing (first : List Char) :
    takenWords <:+: first ++ [' '] ↔ takenWords <:+: first := by
  rw [← List.reverse_infix, List.reverse_append, List.reverse_singleton, List.singleton_append,
    List.infix_cons_iff, List.reverse_infix, or_iff_right]
  intro begins
  exact absurd (List.cons_prefix_cons.mp begins).1 (by decide)

/-- The words that stand in a text with this separator stand on one side of it. -/
def Parts (separator : List Char) : Prop :=
  ∀ first rest, takenWords <:+: first ++ separator ++ rest ↔
    takenWords <:+: first ∨ takenWords <:+: rest

/-- A character that is not in the words parts them. -/
theorem parts_mark {mark : Char} (apart : mark ∉ takenWords) : Parts [mark] := by
  intro first rest
  rw [List.append_assoc, List.singleton_append, infix_parted apart]

/-- What stands between two marks is no matter, as long as it is not the words themselves. -/
theorem parts_between {first last : Char} (apart : first ∉ takenWords) (aside : last ∉ takenWords)
    {middle : List Char} (other : ¬ takenWords <:+: middle) : Parts (first :: middle ++ [last]) := by
  intro before after
  rw [List.append_assoc, List.append_assoc, List.cons_append, infix_parted apart,
    List.singleton_append, infix_parted aside, or_iff_right other]

/-- A blank before a separator leaves it one. -/
theorem Parts.blankBefore {separator : List Char} (parts : Parts separator) :
    Parts (' ' :: separator) := by
  intro first rest
  rw [← List.singleton_append, ← List.append_assoc, parts, infix_trailing]

/-- So does a blank after it. -/
theorem Parts.blankAfter {separator : List Char} (parts : Parts separator) :
    Parts (separator ++ [' ']) := by
  intro first rest
  rw [← List.append_assoc, List.append_assoc, parts, List.singleton_append, infix_blank]

/-- The text before a statement parts the words. -/
theorem parts_running : Parts ", when running ".toList := by
  have marks : Parts (',' :: " when runnin".toList ++ ['g']) :=
    parts_between (by decide) (by decide) (by decide)
  exact marks.blankAfter

/-- The text before the parameters parts them too. -/
theorem parts_with : Parts " with ".toList := by
  have marks : Parts ('w' :: "it".toList ++ ['h']) :=
    parts_between (by decide) (by decide) (by decide)
  exact marks.blankAfter.blankBefore

theorem parts_comma : Parts ", ".toList := (parts_mark (by decide)).blankAfter

theorem parts_colon : Parts ": ".toList := (parts_mark (by decide)).blankAfter

/-- A text shows the words exactly when one of its two sides does. -/
theorem Parts.shows_iff {separator : String} (parts : Parts separator.toList) (first rest : String) :
    SaysTaken (first ++ separator ++ rest) ↔ SaysTaken first ∨ SaysTaken rest := by
  simp only [SaysTaken, String.toList_append]
  exact parts first.toList rest.toList

/-- The words stand in a bracket when they stand between its ends. -/
theorem shows_bracket {first last : Char} (apart : first ∉ takenWords) (aside : last ∉ takenWords)
    (content : List Char) :
    takenWords <:+: first :: content ++ [last] ↔ takenWords <:+: content := by
  have closing := infix_parted aside (first :: content) []
  have opening := infix_parted apart [] content
  rw [List.nil_append, or_iff_right not_infix_nil] at opening
  rw [closing, or_iff_left not_infix_nil, opening]

/-! ## Literals -/

/-- A list that is joined by commas shows the words exactly when one of its parts does. -/
theorem shows_intercalate (parts : List String) :
    SaysTaken (String.intercalate ", " parts) ↔ ∃ part ∈ parts, SaysTaken part := by
  induction parts with
  | nil => simpa [SaysTaken] using not_infix_nil
  | cons part rest inductionHypothesis =>
      cases rest with
      | nil => simp
      | cons other others =>
          rw [String.intercalate_cons_cons, parts_comma.shows_iff, inductionHypothesis]
          simp

/-- A piece in which the words neither stand nor begin. -/
def Silent (piece : List Char) : Prop :=
  ∀ rest, takenWords <:+: piece ++ rest → takenWords <:+: rest

/-- A piece without the first letter of the words is silent. -/
theorem silent_of_head {piece : List Char} (absent : 'U' ∉ piece) : Silent piece := by
  intro rest shows
  induction piece with
  | nil => exact shows
  | cons c others inductionHypothesis =>
      rw [List.mem_cons, not_or] at absent
      rw [List.cons_append, List.infix_cons_iff] at shows
      rcases shows with begins | shows
      · exact absurd (List.cons_prefix_cons.mp begins).1 absent.1
      · exact inductionHypothesis absent.2 shows

/-- A hexadecimal digit is one of sixteen characters. -/
theorem hexDigit_mem {n : Nat} (small : n < 16) : hexDigit n ∈ "0123456789abcdef".toList := by
  have each : ∀ n < 16, hexDigit n ∈ "0123456789abcdef".toList := by decide
  exact each n small

/-- So is every character of a hexadecimal number. -/
theorem hexDigits_mem (width n : Nat) : ∀ c ∈ hexDigits width n, c ∈ "0123456789abcdef".toList := by
  induction width generalizing n with
  | zero => simp [hexDigits]
  | succ width inductionHypothesis =>
      intro c member
      rw [hexDigits, List.mem_append, List.mem_singleton] at member
      rcases member with member | rfl
      · exact inductionHypothesis _ c member
      · exact hexDigit_mem (Nat.mod_lt _ (by decide))

/-- A character is written as itself, or as an escape that is silent behind its backslash. -/
theorem literalChar_cases {quote : Char} (known : quote ≠ 'U') (c : Char) :
    literalChar quote c = [c] ∨ ∃ piece, literalChar quote c = '\\' :: piece ∧ Silent piece := by
  have short {piece : List Char} (absent : 'U' ∉ piece) :
      ∃ other, '\\' :: piece = '\\' :: other ∧ Silent other := ⟨piece, rfl, silent_of_head absent⟩
  have plain (width n : Nat) : 'U' ∉ hexDigits width n := fun member => by
    simpa using hexDigits_mem width n _ member
  unfold literalChar
  split
  · next quoted =>
      refine .inr (short ?_)
      rcases Bool.or_eq_true_iff.mp quoted with same | same
      · simp only [decide_eq_true_eq] at same
        simpa [same] using known.symm
      · simp only [decide_eq_true_eq] at same
        simp [same]
  split
  · exact .inr (short (by decide))
  split
  · exact .inr (short (by decide))
  split
  · exact .inr (short (by decide))
  split
  · exact .inl rfl
  split
  · exact .inl rfl
  unfold codeEscape
  split
  · exact .inr (short (by simp [plain]))
  split
  · exact .inr (short (by simp [plain]))
  -- The longest escape begins as the words do, but a digit comes next.
  refine .inr ⟨_, rfl, fun rest shows => ?_⟩
  obtain ⟨digit, digits, split⟩ : ∃ digit digits, hexDigits 8 c.toNat = digit :: digits :=
    List.exists_cons_of_length_pos (by rw [hexDigitsLength]; decide)
  rw [List.cons_append, List.infix_cons_iff] at shows
  rcases shows with begins | shows
  · have next : digit = 'N' := by
      rw [split] at begins
      exact ((List.cons_prefix_cons.mp (List.cons_prefix_cons.mp begins).2).1).symm
    have member : 'N' ∈ hexDigits 8 c.toNat := by simp [split, next]
    simpa using hexDigits_mem 8 c.toNat _ member
  · exact silent_of_head (plain 8 c.toNat) rest shows

/-- The characters of the words are written as they are. -/
theorem literalChar_word {quote : Char} (known : quote = '\'' ∨ quote = '"') :
    ∀ c ∈ takenWords, literalChar quote c = [c] := by
  have each : takenWords.all (fun c => decide (literalChar quote c = [c])) = true := by
    rcases known with rfl | rfl <;> decide +kernel
  simpa using each

section Escaped

variable {quote : Char} (known : quote = '\'' ∨ quote = '"')

include known

/-- A quote does not begin the words. -/
theorem quote_ne : quote ≠ 'U' := by rcases known with rfl | rfl <;> decide

/-- What is written without an escape at the beginning is there as it is written. -/
theorem prefix_written {part cs : List Char} (plain : '\\' ∉ part)
    (begins : part <+: cs.flatMap (literalChar quote)) : part <+: cs := by
  induction part generalizing cs with
  | nil => exact List.nil_prefix
  | cons word others inductionHypothesis =>
      rw [List.mem_cons, not_or] at plain
      cases cs with
      | nil => exact absurd begins (by simp)
      | cons c rest =>
          rw [List.flatMap_cons] at begins
          rcases literalChar_cases (quote_ne known) c with same | ⟨piece, same, -⟩
          · rw [same, List.singleton_append, List.cons_prefix_cons] at begins
            exact List.cons_prefix_cons.mpr ⟨begins.1, inductionHypothesis plain.2 begins.2⟩
          · rw [same, List.cons_append, List.cons_prefix_cons] at begins
            exact absurd begins.1.symm plain.1

/-- The characters of a text show the words as the text does. -/
theorem shows_written (cs : List Char) :
    takenWords <:+: cs.flatMap (literalChar quote) ↔ takenWords <:+: cs := by
  constructor
  · intro shows
    induction cs with
    | nil => exact shows
    | cons c rest inductionHypothesis =>
        rw [List.flatMap_cons] at shows
        rcases literalChar_cases (quote_ne known) c with same | ⟨piece, same, silent⟩
        · rw [same, List.singleton_append, List.infix_cons_iff] at shows
          rcases shows with begins | shows
          · have whole : takenWords <+: (c :: rest).flatMap (literalChar quote) := by
              rw [List.flatMap_cons, same]
              exact begins
            exact (prefix_written known (by decide) whole).isInfix
          · exact List.infix_cons (inductionHypothesis shows)
        · rw [same, List.cons_append, List.infix_cons_iff] at shows
          rcases shows with begins | shows
          · exact absurd (List.cons_prefix_cons.mp begins).1 (by decide)
          · exact List.infix_cons (inductionHypothesis (silent _ shows))
  · rintro ⟨before, after, rfl⟩
    have words : takenWords.flatMap (literalChar quote) = takenWords := by
      rw [List.flatMap_congr (literalChar_word known)]
      simp
    rw [List.flatMap_append, List.flatMap_append, words]
    exact List.infix_append _ _ _

end Escaped

/-- A text is quoted in one of two ways. -/
theorem literalQuote_cases (cs : List Char) : literalQuote cs = '\'' ∨ literalQuote cs = '"' := by
  unfold literalQuote
  split
  · exact .inr rfl
  · exact .inl rfl

/-- The literal of a text shows the words exactly where the text does. -/
theorem shows_literal (content : String) : SaysTaken (literal content) ↔ SaysTaken content := by
  have known := literalQuote_cases content.toList
  have apart : literalQuote content.toList ∉ takenWords := by
    rcases known with same | same <;> rw [same] <;> decide
  rw [SaysTaken, literal, String.toList_ofList, shows_bracket apart apart, shows_written known,
    SaysTaken]

end Text

open Text

/-! ## Failures of the engine -/

/-- The literal of a mapping shows the words where one of its keys or values does. -/
theorem Value.shows_map (entries : List (Value × Value)) :
    SaysTaken (Value.map entries).literal ↔
      ∃ entry ∈ entries, SaysTaken entry.1.literal ∨ SaysTaken entry.2.literal := by
  have content : SaysTaken (Value.map entries).literal ↔
      SaysTaken (String.intercalate ", " (entryLiterals entries)) := by
    rw [SaysTaken, literal, String.toList_append, String.toList_append]
    exact shows_bracket (by decide) (by decide) _
  rw [content, shows_intercalate]
  clear content
  induction entries with
  | nil => simp [entryLiterals]
  | cons entry rest inductionHypothesis =>
      obtain ⟨key, value⟩ := entry
      simp only [entryLiterals, List.exists_mem_cons_iff, parts_colon.shows_iff, inductionHypothesis]

/-- The statement or the parameters of a failure show the words. Parameters that are empty are not
shown. -/
def ShowsTaken (sql : String) (parameters : Value) : Prop :=
  SaysTaken sql ∨ parameters.isTrue = true ∧ SaysTaken parameters.literal

instance (sql : String) (parameters : Value) : Decidable (ShowsTaken sql parameters) :=
  inferInstanceAs (Decidable (_ ∨ _))

namespace Failure

/-- A failure of the engine counts as a taken key when the engine says so, or when the statement or
its parameters show the same words. -/
theorem isUniqueViolation_engine (message sql : String) (parameters : Value) :
    (engine message sql parameters).isUniqueViolation = true ↔
      SaysTaken message ∨ ShowsTaken sql parameters := by
  have words : (engine message sql parameters).isUniqueViolation = true ↔
      SaysTaken (engineMessage message sql parameters) := by
    rw [isUniqueViolation, holds_iff]
    rfl
  rw [words, engineMessage, ShowsTaken]
  split
  · next shown =>
      have grouped : message ++ ", when running " ++ sql ++ " with " ++ parameters.literal =
          message ++ ", when running " ++ (sql ++ " with " ++ parameters.literal) := by
        simp only [String.append_assoc]
      rw [grouped, parts_running.shows_iff, parts_with.shows_iff, and_iff_right shown]
  · next empty =>
      rw [parts_running.shows_iff]
      simp [empty]

end Failure

end Tabular
