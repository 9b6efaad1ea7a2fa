import Mathlib.Data.List.Forall2
import Tabular.Schema.Definition

/-!
This module cuts SQL text into tokens. A text whose tokens do not depend on what follows it, as long
as a delimiter follows, can be cut on its own, so that the tokens of a statement are those of its
parts.
-/

namespace Tabular.Sql

/-- A token is a word, a bracket or comma, or a quoted literal. -/
inductive Token where
  | word (text : String)
  | mark (symbol : Char)
  | literal (content : String)
  | unclosed (content : String)
  deriving DecidableEq, Repr

def isMark (c : Char) : Bool := c = '(' || c = ')' || c = ','

/-- A delimiter ends a word or a literal. -/
def isDelimiter (c : Char) : Bool := c.isWhitespace || isMark c

/-- This says what has been read of the current token. A quote inside a literal may end it or be the
first one of a pair. -/
inductive Scan where
  | between
  | word (read : List Char)
  | literal (read : List Char)
  | quote (read : List Char)

namespace Scan

/-- This function reads the first character after a token. -/
def start (c : Char) : List Token × Scan :=
  if isMark c then ([.mark c], .between)
  else if c.isWhitespace then ([], .between)
  else if c = '\'' then ([], .literal [])
  else ([], .word [c])

def step (scan : Scan) (c : Char) : List Token × Scan :=
  match scan with
  | between => start c
  | word read =>
      if isDelimiter c || c = '\'' then (.word (String.ofList read) :: (start c).1, (start c).2)
      else ([], .word (read ++ [c]))
  | literal read => if c = '\'' then ([], .quote read) else ([], .literal (read ++ [c]))
  | quote read =>
      if c = '\'' then ([], .literal (read ++ ['\'']))
      else (.literal (String.ofList read) :: (start c).1, (start c).2)

def finish : Scan → List Token
  | between => []
  | word read => [.word (String.ofList read)]
  | literal read => [.unclosed (String.ofList read)]
  | quote read => [.literal (String.ofList read)]

/-- This function cuts the rest of a text. -/
def tokens (scan : Scan) : List Char → List Token
  | [] => scan.finish
  | c :: rest => (scan.step c).1 ++ (scan.step c).2.tokens rest

end Scan

/-- This function cuts a text into tokens. -/
def tokens (text : List Char) : List Token := Scan.between.tokens text

example : tokens "DEFAULT 'it''s', x".toList =
    [.word "DEFAULT", .literal "it's", .mark ',', .word "x"] := by decide

/-! ## The first token -/

@[simp] theorem tokens_nil : tokens [] = [] := rfl

/-- A mark is a token of its own. -/
@[simp] theorem tokens_mark {c : Char} (mark : isMark c = true) (rest : List Char) :
    tokens (c :: rest) = .mark c :: tokens rest := by
  simp [tokens, Scan.tokens, Scan.step, Scan.start, mark]

/-- What follows a token begins with a delimiter or is empty. -/
def Delimited (rest : List Char) : Prop := ∀ c, rest.head? = some c → isDelimiter c = true

theorem Delimited.nil : Delimited [] := fun _ first => nomatch first

/-- What begins with a delimiter can follow a token. -/
theorem Delimited.cons {c : Char} (delimiter : isDelimiter c = true) (rest : List Char) :
    Delimited (c :: rest) := by
  intro d first
  rwa [← Option.some.inj first]

/-- A token that ends at a delimiter leaves it to the next one. -/
theorem finish_delimited (scan : Scan) (token : Token) (rest : List Char)
    (last : scan.finish = [token])
    (ends : ∀ c, isDelimiter c = true →
      scan.step c = (token :: (Scan.start c).1, (Scan.start c).2))
    (delimited : Delimited rest) : scan.tokens rest = token :: tokens rest := by
  cases rest with
  | nil => rw [Scan.tokens, last, tokens_nil]
  | cons c rest =>
      rw [Scan.tokens, ends c (delimited c rfl), tokens, Scan.tokens, Scan.step,
        List.cons_append]

/-- A word has at least one character and holds neither delimiters nor quotes. -/
def IsWord (text : List Char) : Prop :=
  text ≠ [] ∧ ∀ c ∈ text, isDelimiter c = false ∧ c ≠ '\''

instance (text : List Char) : Decidable (IsWord text) :=
  decidable_of_iff
    ((!text.isEmpty && text.all fun c => !isDelimiter c && decide (c ≠ '\'')) = true)
    (by simp [IsWord])

/-- A word goes on up to the next delimiter. -/
theorem word_tokens (read text rest : List Char)
    (inside : ∀ c ∈ text, isDelimiter c = false ∧ c ≠ '\'') (delimited : Delimited rest) :
    (Scan.word read).tokens (text ++ rest) =
      .word (String.ofList (read ++ text)) :: tokens rest := by
  induction text generalizing read with
  | nil =>
      rw [List.nil_append, List.append_nil]
      apply finish_delimited _ _ _ rfl _ delimited
      intro c delimiter
      simp [Scan.step, delimiter]
  | cons c text inductionHypothesis =>
      obtain ⟨inner, noQuote⟩ := inside c (by simp)
      have tail := inductionHypothesis (read ++ [c]) fun d member => inside d (by simp [member])
      rw [List.append_assoc, List.singleton_append] at tail
      rw [List.cons_append, Scan.tokens]
      simp only [Scan.step, inner, noQuote, decide_false, Bool.or_self, Bool.false_eq_true,
        if_false, List.nil_append, tail]

/-- A word that stands first is the first token. -/
theorem tokens_word {text : List Char} (isWord : IsWord text) {rest : List Char}
    (delimited : Delimited rest) :
    tokens (text ++ rest) = .word (String.ofList text) :: tokens rest := by
  obtain ⟨filled, inside⟩ := isWord
  cases text with
  | nil => exact absurd rfl filled
  | cons c text =>
      obtain ⟨inner, noQuote⟩ := inside c (by simp)
      simp only [isDelimiter, Bool.or_eq_false_iff] at inner
      rw [List.cons_append, tokens, Scan.tokens]
      simp only [Scan.step, Scan.start, inner, noQuote, Bool.false_eq_true, if_false,
        List.nil_append]
      exact word_tokens [c] text rest (fun d member => inside d (by simp [member])) delimited

/-- A literal goes on up to its closing quote, and doubled quotes are read as one. -/
theorem literal_tokens (read content rest : List Char) (delimited : Delimited rest) :
    (Scan.literal read).tokens (Text.doubleQuotes content ++ '\'' :: rest) =
      .literal (String.ofList (read ++ content)) :: tokens rest := by
  induction content generalizing read with
  | nil =>
      rw [Text.doubleQuotes, List.nil_append, List.append_nil, Scan.tokens]
      simp only [Scan.step, if_true, List.nil_append]
      apply finish_delimited _ _ _ rfl _ delimited
      intro c delimiter
      have other : c ≠ '\'' := by rintro rfl; exact absurd delimiter (by decide)
      simp [Scan.step, other]
  | cons c content inductionHypothesis =>
      have tail := inductionHypothesis (read ++ [c])
      rw [List.append_assoc, List.singleton_append] at tail
      rw [Text.doubleQuotes]
      split
      · next quote =>
          subst quote
          simp only [List.cons_append, Scan.tokens, Scan.step, if_true, List.nil_append, tail]
      · next other =>
          simp only [List.cons_append, Scan.tokens, Scan.step, other, if_false, List.nil_append,
            tail]

/-- A literal that stands first is the first token, with its content. -/
theorem tokens_literal (content : String) {rest : List Char} (delimited : Delimited rest) :
    tokens ((Text.sqlLiteral content).toList ++ rest) = .literal content :: tokens rest := by
  have inner := literal_tokens [] content.toList rest delimited
  rw [List.nil_append, String.ofList_toList] at inner
  simp only [Text.sqlLiteral, String.toList_ofList, List.cons_append, List.append_assoc,
    List.nil_append]
  rw [tokens, Scan.tokens, ← inner]
  rfl

/-! ## Texts that are cut on their own -/

/-- The tokens of a text that is followed by a delimiter. -/
def Scans (text : String) (found : List Token) : Prop :=
  ∀ rest, Delimited rest → tokens (text.toList ++ rest) = found ++ tokens rest

/-- A word is cut into itself. -/
theorem scans_word {text : String} (isWord : IsWord text.toList) : Scans text [.word text] := by
  intro rest delimited
  rw [tokens_word isWord delimited, String.ofList_toList, List.singleton_append]

/-- A literal is cut into its content. -/
theorem scans_literal (content : String) : Scans (Text.sqlLiteral content) [.literal content] := by
  intro rest delimited
  rw [tokens_literal content delimited, List.singleton_append]

/-- A separator begins with a delimiter and has tokens of its own. -/
structure Separates (separator : String) (found : List Token) : Prop where
  delimits : ∀ rest, Delimited (separator.toList ++ rest)
  scanned : ∀ rest, tokens (separator.toList ++ rest) = found ++ tokens rest

theorem separates_blank : Separates " " [] :=
  ⟨fun rest => Delimited.cons (by decide) rest, fun _ => rfl⟩

/-- A comma separates and is a token. -/
theorem separates_comma : Separates ", " [.mark ','] :=
  ⟨fun rest => Delimited.cons (by decide) (' ' :: rest), fun _ => rfl⟩

/-- So does a comma at the end of a line. -/
theorem separates_line : Separates ",\n    " [.mark ','] :=
  ⟨fun rest => Delimited.cons (by decide) ("\n    ".toList ++ rest), fun _ => rfl⟩

/-- Two texts with a separator between them have the tokens of all three. -/
theorem Scans.separated {first second separator : String} {before after between : List Token}
    (scansFirst : Scans first before) (separates : Separates separator between)
    (scansSecond : Scans second after) :
    Scans (first ++ separator ++ second) (before ++ between ++ after) := by
  intro rest delimited
  have behind := separates.scanned (second.toList ++ rest)
  rw [scansSecond rest delimited] at behind
  simp only [String.toList_append, List.append_assoc]
  rw [scansFirst _ (separates.delimits _), behind]

theorem scans_empty : Scans "" [] := fun _ _ => rfl

/-- A text behind an opening, which ends its own tokens. -/
theorem Scans.after {opening text : String} {after : List Token} (scans : Scans text after)
    (before : List Token)
    (opens : ∀ rest, tokens (opening.toList ++ rest) = before ++ tokens rest) : Scans (opening ++ text) (before ++ after) := by
  intro rest delimited
  rw [String.toList_append, List.append_assoc, opens, scans rest delimited, List.append_assoc]

/-- A closing text adds its own tokens. -/
theorem Scans.closed {text closing : String} {found after : List Token}
    (scans : Scans text found) (closes : Separates closing after) :
    Scans (text ++ closing) (found ++ after) := by
  have whole := scans.separated closes scans_empty
  rwa [String.append_empty, List.append_nil] at whole

/-- The tokens of a text are those with which it is cut. -/
theorem Scans.tokens_eq {text : String} {found : List Token} (scans : Scans text found) :
    tokens text.toList = found := by
  have whole := scans [] Delimited.nil
  rwa [List.append_nil, tokens_nil, List.append_nil] at whole

/-- The tokens of a joined text are the joined tokens. -/
theorem scans_intercalate {separator : String} {between : List Token}
    (separates : Separates separator between) {parts : List String} {founds : List (List Token)}
    (each : List.Forall₂ Scans parts founds) :
    Scans (String.intercalate separator parts) (List.intercalate between founds) := by
  induction each with
  | nil => exact scans_empty
  | @cons first found rest more scansFirst restEach inductionHypothesis =>
      cases restEach with
      | nil =>
          rw [String.intercalate_singleton, List.intercalate_singleton]
          exact scansFirst
      | cons _ _ =>
          rw [String.intercalate_cons_cons, List.intercalate_cons_cons]
          exact scansFirst.separated separates inductionHypothesis

/-- Lists that are joined by nothing are flattened. -/
theorem intercalate_nothing {α : Type} (lists : List (List α)) :
    List.intercalate [] lists = lists.flatten := by
  induction lists with
  | nil => rfl
  | cons first rest inductionHypothesis =>
      cases rest with
      | nil => simp
      | cons second rest =>
          rw [List.intercalate_cons_cons, inductionHypothesis, List.append_nil]
          rfl

/-- Parts with blanks between them have the tokens of all parts. -/
theorem scans_blanks {parts : List String} {founds : List (List Token)}
    (each : List.Forall₂ Scans parts founds) :
    Scans (String.intercalate " " parts) founds.flatten := by
  have whole := scans_intercalate separates_blank each
  rwa [intercalate_nothing] at whole

end Tabular.Sql
