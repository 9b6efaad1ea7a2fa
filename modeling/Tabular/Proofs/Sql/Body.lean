import Tabular.Proofs.Sql.Reading

/-!
This module splits the bracketed body of a statement at its commas, character by character. On every
text this gives the items that its tokens give, so that what is known of the tokens of a statement is
known of the parts of its text.
-/

namespace Tabular.Sql

/-! ## Splitting a text -/

/-- This function splits what stands in a bracket at the commas outside inner brackets and outside
literals. It gives the text after the bracket, too. A quote opens or closes a literal, so that a pair
of quotes inside a literal leaves it open. -/
def splitBody (depth : Nat) (quoted : Bool) (item : List Char) :
    List Char → Option (List (List Char) × List Char)
  | [] => none
  | c :: rest =>
      if c = '\'' then splitBody depth (!quoted) (item ++ [c]) rest
      else if quoted then splitBody depth quoted (item ++ [c]) rest
      else if c = '(' then splitBody (depth + 1) quoted (item ++ [c]) rest
      else if c = ')' then
        if depth = 0 then some ([item], rest)
        else splitBody (depth - 1) quoted (item ++ [c]) rest
      else if c = ',' ∧ depth = 0 then
        (splitBody 0 quoted [] rest).map fun found => (item :: found.1, found.2)
      else splitBody depth quoted (item ++ [c]) rest

def isBlank (text : List Char) : Bool := text.all Char.isWhitespace

/-- A bracket that holds only blanks has no items. -/
def filledItems : List (List Char) → List (List Char)
  | [item] => if isBlank item then [] else [item]
  | items => items

/-- This function gives the items of the first bracket of a text, if the text ends with it. -/
def bodyItems? (text : List Char) : Option (List (List Char)) :=
  match text.dropWhile (· ≠ '(') with
  | [] => none
  | _ :: inner =>
      match splitBody 0 false [] inner with
      | some (items, rest) => if isBlank rest then some (filledItems items) else none
      | none => none

example : bodyItems? "CREATE TABLE t (\n    a TEXT DEFAULT ''',)',\n    FOREIGN KEY(a) REFERENCES u(b, c)\n)".toList =
    some ["\n    a TEXT DEFAULT ''',)'".toList, "\n    FOREIGN KEY(a) REFERENCES u(b, c)\n".toList] := by
  decide

/-! ## Where a text is cut -/

namespace Scan

def isLiteral : Scan → Bool
  | literal _ => true
  | _ => false

/-- This function gives the tokens that end in a text and what is read after them. -/
def run (scan : Scan) : List Char → List Token × Scan
  | [] => ([], scan)
  | c :: rest => ((scan.step c).1 ++ ((scan.step c).2.run rest).1, ((scan.step c).2.run rest).2)

theorem run_append (scan : Scan) (first rest : List Char) :
    scan.run (first ++ rest) =
      ((scan.run first).1 ++ ((scan.run first).2.run rest).1, ((scan.run first).2.run rest).2) := by
  induction first generalizing scan with
  | nil => rfl
  | cons c first inductionHypothesis =>
      rw [List.cons_append, run, inductionHypothesis, run]
      simp only [List.append_assoc]

theorem tokens_run (scan : Scan) (text : List Char) :
    scan.tokens text = (scan.run text).1 ++ (scan.run text).2.finish := by
  induction text generalizing scan with
  | nil => rfl
  | cons c text inductionHypothesis => rw [tokens, inductionHypothesis, run, List.append_assoc]

theorem step_quote (scan : Scan) : (scan.step '\'').2.isLiteral = !scan.isLiteral := by
  cases scan <;> rfl

theorem start_open {c : Char} (other : c ≠ '\'') : (start c).2.isLiteral = false := by
  unfold start
  split
  · rfl
  · split
    · rfl
    · rfl

theorem step_other (scan : Scan) {c : Char} (other : c ≠ '\'') :
    (scan.step c).2.isLiteral = scan.isLiteral := by
  cases scan with
  | between => exact start_open other
  | word read =>
      rw [step]
      split
      · exact start_open other
      · rfl
  | literal read => rw [step, if_neg other]; rfl
  | quote read => rw [step, if_neg other]; exact start_open other

/-- A bracket or comma outside a literal ends the token before it. -/
theorem step_mark {scan : Scan} (outside : scan.isLiteral = false) {c : Char}
    (mark : isMark c = true) : scan.step c = (scan.finish ++ [.mark c], between) := by
  have start : start c = ([.mark c], between) := if_pos mark
  have delimiter : isDelimiter c = true := by rw [isDelimiter, mark, Bool.or_true]
  have other : c ≠ '\'' := by rintro rfl; exact absurd mark (by decide)
  cases scan with
  | between => exact start
  | word read => rw [step, delimiter, Bool.true_or, if_pos rfl, start]; rfl
  | literal read => cases outside
  | quote read => rw [step, if_neg other, start]; rfl

theorem finish_noMark (scan : Scan) : ∀ token ∈ scan.finish, ∀ c, token ≠ .mark c := by
  cases scan <;> simp [finish]

theorem start_noMark {c : Char} (plain : isMark c = false) :
    ∀ token ∈ (start c).1, ∀ d, token ≠ .mark d := by
  unfold start
  rw [plain, if_neg Bool.false_ne_true]
  split
  · simp
  · split <;> simp

/-- A step gives a bracket or comma only where it reads one outside a literal. -/
theorem step_noMark (scan : Scan) {c : Char} (kept : scan.isLiteral = true ∨ isMark c = false) :
    ∀ token ∈ (scan.step c).1, ∀ d, token ≠ .mark d := by
  cases scan with
  | literal read =>
      rw [step]
      split <;> simp
  | between => exact start_noMark (kept.resolve_left Bool.false_ne_true)
  | word read =>
      have plain := start_noMark (kept.resolve_left Bool.false_ne_true)
      rw [step]
      split
      · exact List.forall_mem_cons.mpr ⟨by simp, plain⟩
      · simp
  | quote read =>
      have plain := start_noMark (kept.resolve_left Bool.false_ne_true)
      rw [step]
      split
      · simp
      · exact List.forall_mem_cons.mpr ⟨by simp, plain⟩

end Scan

/-! ## The items of a text and of its tokens -/

/-- The tokens of the items that were found, and those after the bracket. -/
def tokenItems (found : List (List Char) × List Char) : List (List Token) × List Token :=
  (found.1.map tokens, tokens found.2)

open Statement

/-- Before a bracket or comma, the token that is being read belongs to the item. -/
theorem splitItems_finish (scan : Scan) (depth : Nat) (found : List Token) (c : Char)
    (after : List Token) : splitItems depth found ((scan.finish ++ [.mark c]) ++ after) =
      splitItems depth (found ++ scan.finish) (.mark c :: after) := by
  rw [List.append_assoc, keptWhole_tokens scan.finish_noMark]
  rfl

/-- A bracket or comma outside a literal does in the text what it does among the tokens, where the
rest of the text is split as its tokens are: after the character, and as a new item. -/
theorem splitBody_mark {c : Char} (mark : isMark c = true) {item rest : List Char}
    (here : ∀ depth, (splitBody depth false (item ++ [c]) rest).map tokenItems =
      splitItems depth (tokens item ++ [.mark c]) (tokens rest))
    (fresh : (splitBody 0 false [] rest).map tokenItems = splitItems 0 [] (tokens rest))
    (depth : Nat) : (splitBody depth false item (c :: rest)).map tokenItems =
      splitItems depth (tokens item) (.mark c :: tokens rest) := by
  have other : c ≠ '\'' := by rintro rfl; exact absurd mark (by decide)
  rw [splitBody, if_neg other, if_neg Bool.false_ne_true]
  obtain rfl | rfl | rfl : c = '(' ∨ c = ')' ∨ c = ',' := by
    simpa [isMark, or_assoc] using mark
  · rw [if_pos rfl, splitItems]
    exact here (depth + 1)
  · rw [if_neg (by decide), if_pos rfl]
    cases depth with
    | zero =>
        rw [if_pos rfl, splitItems]
        rfl
    | succ depth =>
        rw [if_neg (Nat.succ_ne_zero depth), splitItems]
        exact here depth
  · rw [if_neg (by decide), if_neg (by decide)]
    cases depth with
    | zero =>
        -- The next item starts anew.
        rw [if_pos ⟨rfl, rfl⟩, splitItems, ← fresh]
        simp only [Option.map_map, Function.comp_def, tokenItems, List.map_cons]
    | succ depth =>
        rw [if_neg fun both => Nat.succ_ne_zero depth both.2, splitItems]
        exact here (depth + 1)

/-- A text that is split after some of an item gives the items of its tokens. The tokens of the item
so far are those that it has ended, with the one that is being read. -/
theorem splitBody_scanned (text : List Char) (depth : Nat) (item : List Char) :
    (splitBody depth (Scan.between.run item).2.isLiteral item text).map tokenItems =
      splitItems depth (Scan.between.run item).1 ((Scan.between.run item).2.tokens text) := by
  induction text generalizing depth item with
  | nil =>
      rw [splitBody, Scan.tokens]
      have ended := keptWhole_tokens (Scan.finish_noMark (Scan.between.run item).2) depth
        (Scan.between.run item).1 []
      rw [List.append_nil] at ended
      rw [ended, splitItems]
      rfl
  | cons c rest inductionHypothesis =>
      have here := fun depth => inductionHypothesis depth (item ++ [c])
      have fresh := inductionHypothesis 0 []
      rw [Scan.run_append] at here
      have whole : tokens item = (Scan.between.run item).1 ++ (Scan.between.run item).2.finish :=
        Scan.tokens_run .between item
      generalize Scan.between.run item = scanned at here whole ⊢
      obtain ⟨found, scan⟩ := scanned
      simp only [Scan.run, List.append_nil] at here fresh whole ⊢
      rw [Scan.tokens]
      -- Where no bracket and no comma counts, the item goes on.
      have goes (kept : scan.isLiteral = true ∨ isMark c = false) :
          (splitBody depth (scan.step c).2.isLiteral (item ++ [c]) rest).map tokenItems =
            splitItems depth found ((scan.step c).1 ++ (scan.step c).2.tokens rest) := by
        rw [here, keptWhole_tokens (scan.step_noMark kept)]
      by_cases quote : c = '\''
      · subst quote
        rw [splitBody, if_pos rfl, ← scan.step_quote, goes (.inr (by decide))]
      cases quoted : scan.isLiteral with
      | true =>
          rw [scan.step_other quote, quoted] at goes
          rw [splitBody, if_neg quote, if_pos rfl, goes (.inl rfl)]
      | false =>
          rw [scan.step_other quote, quoted] at goes here
          cases mark : isMark c with
          | true =>
              rw [Scan.step_mark quoted mark] at here ⊢
              rw [splitItems_finish, ← whole]
              refine splitBody_mark mark (fun depth => ?_) fresh depth
              rw [here, ← List.append_assoc, ← whole]
              rfl
          | false =>
              have plain := mark
              simp only [isMark, Bool.or_eq_false_iff, decide_eq_false_iff_not] at plain
              rw [splitBody, if_neg quote, if_neg Bool.false_ne_true, if_neg plain.1.1,
                if_neg plain.1.2, if_neg fun both => plain.2 both.1, goes (.inr mark)]

/-- Splitting a text and cutting its items gives the same as splitting its tokens. -/
theorem splitBody_tokens (text : List Char) :
    (splitBody 0 false [] text).map tokenItems = splitItems 0 [] (tokens text) :=
  splitBody_scanned text 0 []

/-- A token that is being read is given in the end. -/
theorem Scan.tokens_ne_nil {scan : Scan} (begun : scan.finish ≠ []) (text : List Char) :
    scan.tokens text ≠ [] := by
  induction text generalizing scan with
  | nil => exact begun
  | cons c rest inductionHypothesis =>
      have goes (next : Scan) (begun : next.finish ≠ []) : [] ++ next.tokens rest ≠ [] :=
        inductionHypothesis begun
      rw [Scan.tokens]
      cases scan with
      | between => exact absurd rfl begun
      | word read =>
          rw [step]
          split
          · exact List.cons_ne_nil _ _
          · exact goes (.word _) (List.cons_ne_nil _ _)
      | literal read =>
          rw [step]
          split
          · exact goes (.quote _) (List.cons_ne_nil _ _)
          · exact goes (.literal _) (List.cons_ne_nil _ _)
      | quote read =>
          rw [step]
          split
          · exact goes (.literal _) (List.cons_ne_nil _ _)
          · exact List.cons_ne_nil _ _

/-- Only blank texts have no tokens. -/
theorem tokens_eq_nil {text : List Char} : tokens text = [] ↔ isBlank text = true := by
  induction text with
  | nil => exact ⟨fun _ => rfl, fun _ => rfl⟩
  | cons c rest inductionHypothesis =>
      change (Scan.start c).1 ++ (Scan.start c).2.tokens rest = [] ↔ _
      rw [isBlank, List.all_cons, Bool.and_eq_true, Scan.start]
      split
      · next mark =>
          have visible : c.isWhitespace = false := by
            obtain rfl | rfl | rfl : c = '(' ∨ c = ')' ∨ c = ',' := by
              simpa [isMark, or_assoc] using mark
            all_goals rfl
          simp [visible]
      · split
        · next blank => exact inductionHypothesis.trans (by simp [blank, isBlank])
        · next visible =>
            have begun : ∀ scan : Scan, scan.finish ≠ [] → ([] ++ scan.tokens rest = [] ↔
                c.isWhitespace = true ∧ rest.all Char.isWhitespace = true) := fun scan begun =>
              ⟨fun empty => absurd empty (Scan.tokens_ne_nil begun rest),
                fun both => absurd both.1 visible⟩
            split
            · exact begun (.literal []) (List.cons_ne_nil _ _)
            · exact begun (.word [c]) (List.cons_ne_nil _ _)

theorem filledItems_filled {texts : List (List Char)} (filled : ∀ text ∈ texts, tokens text ≠ []) :
    filledItems texts = texts := by
  unfold filledItems
  split
  · next item => exact if_neg fun blank => filled item (by simp) (tokens_eq_nil.mpr blank)
  · rfl

/-- The body of a statement is split into the items that are read from its bracket. -/
theorem bodyItems?_of_bracket {head inner : List Char} {items : List (List Token)}
    (plain : ∀ c ∈ head, c ≠ '(') (filled : ∀ item ∈ items, item ≠ [])
    (read : bracket (.mark '(' :: tokens inner) = some (items, [])) :
    ∃ texts, bodyItems? (head ++ '(' :: inner) = some texts ∧ texts.map tokens = items := by
  have opened : (head ++ '(' :: inner).dropWhile (· ≠ '(') = '(' :: inner := by
    rw [List.dropWhile_append_of_pos (by simpa using plain)]
    rfl
  have closes {items : List (List Token)} (split : splitItems 0 [] (tokens inner) = some (items, [])) :
      ∃ texts, bodyItems? (head ++ '(' :: inner) = some (filledItems texts) ∧
        texts.map tokens = items := by
    rw [← splitBody_tokens] at split
    obtain ⟨⟨texts, rest⟩, found, same⟩ := Option.map_eq_some_iff.mp split
    obtain ⟨same, ended⟩ := Prod.mk.inj same
    refine ⟨texts, ?_, same⟩
    rw [bodyItems?, opened]
    simp only [found, tokens_eq_nil.mp ended, if_true]
  unfold bracket at read
  split at read
  · next rest begun =>
      -- Between two brackets with nothing but blanks there is one blank item.
      obtain ⟨rfl, rfl⟩ := Prod.mk.inj (Option.some.inj read)
      rw [(List.cons.inj begun).2] at closes
      obtain ⟨texts, found, same⟩ := closes rfl
      obtain ⟨blank, rfl, ended⟩ := List.map_eq_singleton_iff.mp same
      rw [filledItems, if_pos (tokens_eq_nil.mp ended)] at found
      exact ⟨[], found, rfl⟩
  · next begun =>
      obtain rfl := (List.cons.inj begun).2
      obtain ⟨texts, found, same⟩ := closes read
      rw [filledItems_filled] at found
      · exact ⟨texts, found, same⟩
      · intro text member
        exact filled _ (same ▸ List.mem_map_of_mem member)
  · cases read

end Tabular.Sql
