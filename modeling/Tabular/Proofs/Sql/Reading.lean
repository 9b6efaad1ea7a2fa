import Tabular.Proofs.Sql.Statement

/-!
This module reads statements whose tokens are known. An item of a bracket is kept whole as long as
its commas stand in brackets of its own.
-/

namespace Tabular.Sql.Statement

/-! ## Items of a bracket -/

/-- An item is kept whole when its commas stand in brackets of its own. -/
def KeptWhole (item : List Token) : Prop :=
  ∀ depth before rest,
    splitItems depth before (item ++ rest) = splitItems depth (before ++ item) rest

/-- Tokens are kept inside a bracket of an item. -/
def KeptInside (inner : List Token) : Prop :=
  ∀ depth before rest,
    splitItems (depth + 1) before (inner ++ rest) = splitItems (depth + 1) (before ++ inner) rest

theorem KeptWhole.inside {item : List Token} (kept : KeptWhole item) : KeptInside item :=
  fun depth => kept (depth + 1)

theorem keptWhole_empty : KeptWhole [] := by
  intro depth before rest
  rw [List.nil_append, List.append_nil]

theorem KeptWhole.append {first second : List Token} (keptFirst : KeptWhole first)
    (keptSecond : KeptWhole second) : KeptWhole (first ++ second) := by
  intro depth before rest
  rw [List.append_assoc, keptFirst, keptSecond, List.append_assoc]

theorem KeptInside.append {first second : List Token} (keptFirst : KeptInside first)
    (keptSecond : KeptInside second) : KeptInside (first ++ second) := by
  intro depth before rest
  rw [List.append_assoc, keptFirst, keptSecond, List.append_assoc]

theorem keptWhole_token {token : Token} (noMark : ∀ c, token ≠ .mark c) : KeptWhole [token] := by
  intro depth before rest
  cases token with
  | mark c => exact absurd rfl (noMark c)
  | word text => rw [List.singleton_append, splitItems] <;> simp
  | literal content => rw [List.singleton_append, splitItems] <;> simp
  | unclosed content => rw [List.singleton_append, splitItems] <;> simp

/-- Tokens without brackets and commas are kept whole. -/
theorem keptWhole_tokens {item : List Token} (noMark : ∀ token ∈ item, ∀ c, token ≠ .mark c) :
    KeptWhole item := by
  induction item with
  | nil => exact keptWhole_empty
  | cons token item inductionHypothesis =>
      have first := keptWhole_token (noMark token (by simp))
      exact first.append (inductionHypothesis fun other member => noMark other (by simp [member]))

theorem keptWhole_words (words : List String) : KeptWhole (words.map Token.word) := by
  apply keptWhole_tokens
  intro token member c
  obtain ⟨word, -, rfl⟩ := List.mem_map.mp member
  exact nofun

theorem keptInside_comma : KeptInside [.mark ','] := by
  intro depth before rest
  rw [List.singleton_append, splitItems]

/-- A list of names is kept inside a bracket. -/
theorem keptInside_names (names : List String) :
    KeptInside (List.intercalate [.mark ','] (names.map fun name => [.word name])) := by
  induction names with
  | nil => exact keptWhole_empty.inside
  | cons name names inductionHypothesis =>
      cases names with
      | nil => exact (keptWhole_words [name]).inside
      | cons other names =>
          rw [List.map_cons, List.map_cons, List.intercalate_cons_cons]
          exact ((keptWhole_words [name]).inside.append keptInside_comma).append
            inductionHypothesis

theorem keptWhole_bracket {inner : List Token} (kept : KeptInside inner) :
    KeptWhole (.mark '(' :: inner ++ [.mark ')']) := by
  intro depth before rest
  rw [List.cons_append, List.cons_append, splitItems, List.append_assoc, kept,
    List.singleton_append, splitItems]
  simp only [List.append_assoc, List.cons_append, List.nil_append]

theorem splitItems_intercalate (first : List Token) (items : List (List Token))
    (rest : List Token) (kept : ∀ item ∈ first :: items, KeptWhole item) :
    splitItems 0 [] (List.intercalate [.mark ','] (first :: items) ++ .mark ')' :: rest) =
      some (first :: items, rest) := by
  induction items generalizing first with
  | nil =>
      rw [List.intercalate_singleton, kept first (by simp), splitItems, List.nil_append]
  | cons second items inductionHypothesis =>
      have tail := inductionHypothesis second fun item member => kept item (by simp [member])
      rw [List.intercalate_cons_cons, List.append_assoc, List.append_assoc, kept first (by simp),
        List.singleton_append, splitItems, tail, List.nil_append, Option.map_some]

/-- A bracket is read as its items, each of which begins with a word. -/
theorem bracket_items {items : List (List Token)} (rest : List Token)
    (kept : ∀ item ∈ items, KeptWhole item)
    (named : ∀ item ∈ items, ∃ name tail, item = .word name :: tail) :
    bracket (.mark '(' :: List.intercalate [.mark ','] items ++ .mark ')' :: rest) =
      some (items, rest) := by
  cases items with
  | nil => rfl
  | cons first items =>
      have split := splitItems_intercalate first items rest kept
      obtain ⟨name, tail, begins⟩ := named first (by simp)
      have head : ∃ inner, List.intercalate [.mark ','] (first :: items) =
          Token.word name :: inner := by
        cases items with
        | nil => exact ⟨tail, by rw [List.intercalate_singleton, begins]⟩
        | cons second items =>
            rw [List.intercalate_cons_cons, begins]
            exact ⟨_, rfl⟩
      obtain ⟨inner, begun⟩ := head
      rw [begun] at split ⊢
      rw [List.cons_append, List.cons_append, bracket]
      · exact split
      · simp

end Tabular.Sql.Statement
