import Tabular.Proofs.Schema.Agreement
import Tabular.Proofs.Schema.Literals

/-!
This module tells which reported defaults count the same as a declared one. A default that is missing in
the database can go unnoticed where an expression spells a text, and where integers are too great.
-/

namespace Tabular

open Text

/-- Two defaults count the same. -/
def Value.CountsAs (declared reported : Value) : Prop :=
  ∃ expected found, DefaultKey.ofValue declared = .ok expected ∧
    DefaultKey.ofValue reported = .ok found ∧ expected.same found = true

/-! ## Defaults that count the same -/

namespace Value

open DefaultKey

theorem ofValue_eq_text {value : Value} {literal : String} (key : ofValue value = .ok (.text literal)) :
    ∃ content, value = .text content ∧ literal = sqlLiteral content := by
  have rounded (number : Option Binary64) : ofRounded number ≠ .ok (.text literal) := by
    cases number <;> exact nofun
  cases value with
  | text content => exact ⟨content, rfl, (DefaultKey.text.inj (Except.ok.inj key)).symm⟩
  | bool flag => exact absurd key (rounded _)
  | int number => exact absurd key (rounded _)
  | _ => exact nomatch key

/-- A text counts the same as itself alone. -/
theorem countsAs_text_iff {content : String} {reported : Value} :
    CountsAs (.text content) reported ↔ reported = .text content := by
  constructor
  · rintro ⟨expected, found, expects, finds, same⟩
    obtain rfl := Except.ok.inj expects
    cases found with
    | text literal =>
        obtain ⟨other, rfl, rfl⟩ := ofValue_eq_text finds
        have literals : sqlLiteral content = sqlLiteral other := by simpa [DefaultKey.same] using same
        rw [sqlLiteral_injective literals]
    | _ => simp [DefaultKey.same] at same
  · rintro rfl
    exact ⟨_, _, rfl, rfl, by simp [DefaultKey.same]⟩

/-- What counts the same as a number is read as a number. -/
theorem CountsAs.number {value reported : Value} {n : Int} (integer : value.integer? = some n)
    (counts : value.CountsAs reported) :
    ∃ rounded found, Binary64.ofInt? n = some rounded ∧ ofValue reported = .ok (.number found) ∧
      rounded.equal found = true := by
  obtain ⟨expected, found, expects, finds, same⟩ := counts
  rw [ofValue_whole integer] at expects
  cases rounds : Binary64.ofInt? n with
  | none => rw [rounds] at expects; exact nomatch expects
  | some rounded =>
      rw [rounds] at expects
      obtain rfl := Except.ok.inj expects
      cases found with
      | number found => exact ⟨rounded, found, rfl, finds, same⟩
      | _ => exact nomatch same

/-- An integer counts the same as a literal where both integers are rounded to the same number. -/
theorem countsAs_literal_iff {value : Value} {n m : Int} (integer : value.integer? = some n)
    {text : String} (literal : IntegerLiteral text m) :
    value.CountsAs (readDefault text) ↔ Binary64.RoundedAlike n m := by
  constructor
  · intro counts
    obtain ⟨rounded, found, rounds, finds, equal⟩ := counts.number integer
    rcases literal.read with whole | ⟨negative, number, same, float⟩
    · rw [whole, ofValue_whole rfl] at finds
      cases others : Binary64.ofInt? m with
      | none => rw [others] at finds; exact nomatch finds
      | some other =>
          rw [others] at finds
          obtain rfl := DefaultKey.number.inj (Except.ok.inj finds)
          exact Binary64.roundedAlike_of_equal rounds others equal
    · rw [float] at finds
      obtain rfl := DefaultKey.number.inj (Except.ok.inj finds)
      obtain ⟨some, none⟩ := Binary64.toBinary64_whole same
      cases others : Binary64.ofInt? m with
      | none =>
          obtain ⟨sign, infinite⟩ := none others
          obtain ⟨inRange, rfl⟩ := Binary64.ofInt?_eq_some.mp rounds
          rw [infinite] at equal
          simp [Binary64.equal, Binary64.isZero] at equal
      | some other =>
          rw [some other others] at equal
          exact Binary64.roundedAlike_of_equal rounds others equal
  · rintro ⟨rounded, rounds, others⟩
    have same := DefaultKey.same_number (Binary64.isNan_of_ofInt? rounds)
    rcases literal.read with whole | ⟨negative, number, number, float⟩
    · exact ⟨_, _, ofValue_integer integer rounds, by rw [whole, ofValue_integer rfl others], same⟩
    · refine ⟨_, _, ofValue_integer integer rounds, by rw [float]; rfl, ?_⟩
      exact ((Binary64.toBinary64_whole number).1 rounded others rounded).trans same

end Value

/-! ## Tables with another default -/

namespace Schema

/-- A table whose column has another default. -/
def withDefault (schema : Schema) (name : String) (default : Value) : Schema :=
  { schema with columns := schema.columns.map fun entry =>
      (entry.1, if entry.1 = .text name then { entry.2 with default } else entry.2) }

variable (schema : Schema) (name : String) (default : Value)

theorem withDefault_get? (key : Value) :
    (schema.withDefault name default).columns.get? key =
      (schema.columns.get? key).map fun old =>
        if key = .text name then { old with default } else old := by
  rw [withDefault]
  induction schema.columns with
  | nil => rfl
  | cons entry rest inductionHypothesis =>
      simp only [List.map_cons, Keyed.get?_cons]
      by_cases found : key.same entry.1 = true
      · have named : entry.1 = .text name ↔ key = .text name := by
          constructor
          · intro text
            rw [text] at found
            exact (Value.same_iff_text _ _).mp found
          · rintro rfl
            exact (Value.same_text_iff _ _).mp found
        rw [if_pos found, if_pos found, Option.map_some]
        simp only [named]
      · rw [if_neg found, if_neg found, inductionHypothesis]

theorem withDefault_isNotNull (key : Value) (column : Column) :
    (schema.withDefault name default).isNotNull key column = schema.isNotNull key column := by
  have flagged : (schema.withDefault name default).flaggedColumns = schema.flaggedColumns := by
    rw [flaggedColumns, flaggedColumns, withDefault]
    induction schema.columns with
    | nil => rfl
    | cons entry rest inductionHypothesis =>
        have flag : (if entry.1 = .text name then { entry.2 with default } else entry.2).primaryKey =
            entry.2.primaryKey := by split <;> rfl
        simp only [List.map_cons, List.filter_cons, flag]
        split
        · rw [List.map_cons, List.map_cons, inductionHypothesis]
        · exact inductionHypothesis
  rw [isNotNull, isNotNull, isPrimaryKey, isPrimaryKey, primaryKeyColumns, primaryKeyColumns, flagged]
  rfl

theorem withDefault_sameKeys (declared : Keyed Column) :
    Keyed.sameKeys declared (schema.withDefault name default).columns =
      Keyed.sameKeys declared schema.columns := by
  simp only [Keyed.sameKeys, Keyed.has, withDefault, List.any_map, List.all_map]
  rfl

/-- The columns agree exactly where each declared one has a stored one that is the same. -/
theorem columnsAgree_iff {declared actual : Schema} {columns : Keyed Column} :
    columnsAgree declared actual columns = .ok true ↔
      ∀ entry ∈ columns, ∃ old, actual.columns.get? entry.1 = some old ∧
        MatchingColumn declared actual entry old := by
  induction columns with
  | nil => exact iff_of_true rfl (by simp)
  | cons entry rest inductionHypothesis =>
      rw [List.forall_mem_cons, ← inductionHypothesis, columnsAgree]
      cases get : actual.columns.get? entry.1 with
      | none => simp
      | some old =>
          constructor
          · intro agree
            simp only at agree
            split at agree
            · cases agree
            next storage =>
            split at agree
            · cases agree
            next notNull =>
            obtain ⟨expected, expects, agree⟩ := Outcome.bind_eq_ok.mp agree
            obtain ⟨found, finds, agree⟩ := Outcome.bind_eq_ok.mp agree
            split at agree
            · next same =>
                refine ⟨⟨old, rfl, (not_not.mp storage).symm, ?_, expected, found, expects, finds, same⟩,
                  agree⟩
                simpa using notNull
            · cases agree
          · rintro ⟨⟨_, ⟨⟩, matching⟩, agree⟩
            obtain ⟨expected, found, expects, finds, same⟩ := matching.default
            simp only [matching.storage, matching.notNull, ne_eq, not_true_eq_false, if_false,
              bne_self_eq_false, Bool.false_eq_true, expects, finds, Outcome.ok_bind, same, if_true]
            exact agree

theorem agrees_iff_columns {declared actual : Schema} :
    declared.agrees actual = .ok true ↔ Keyed.sameKeys declared.columns actual.columns = true ∧
      columnsAgree declared actual declared.columns = .ok true ∧
      actual.foreignKeys.length = declared.foreignKeys.length ∧
      foreignKeysAgree declared.foreignKeys actual.foreignKeys = .ok true := by
  rw [agrees]
  cases Keyed.sameKeys declared.columns actual.columns with
  | false => simp [pure, Except.pure]
  | true =>
      simp only [Bool.not_true, Bool.false_eq_true, if_false, Outcome.bind_eq_ok, true_and]
      constructor
      · rintro ⟨columns, agree, rest⟩
        cases columns with
        | false => cases rest
        | true =>
            simp only [if_true] at rest
            split at rest
            · cases rest
            · next lengths => exact ⟨agree, not_not.mp lengths, rest⟩
      · rintro ⟨agree, lengths, rest⟩
        refine ⟨true, agree, ?_⟩
        rw [if_pos rfl, if_neg (not_not_intro lengths)]
        exact rest

/-- Where a table agrees with its declaration, it still does with another default for a column where that
counts the same as the declared one. -/
theorem agrees_withDefault {declared actual : Schema} (agree : declared.agrees actual = .ok true)
    (name : String) (default : Value) :
    declared.agrees (actual.withDefault name default) = .ok true ↔
      ∀ column, (.text name, column) ∈ declared.columns → column.default.CountsAs default := by
  obtain ⟨keys, columns, foreignKeys⟩ := agrees_iff_columns.mp agree
  rw [columnsAgree_iff] at columns
  rw [agrees_iff_columns, withDefault_sameKeys, columnsAgree_iff]
  constructor
  · rintro ⟨-, each, -⟩ column member
    obtain ⟨old, get, matching⟩ := each _ member
    rw [withDefault_get?, Option.map_eq_some_iff] at get
    obtain ⟨before, -, rfl⟩ := get
    have counts := matching.default
    rwa [if_pos rfl] at counts
  · intro counts
    refine ⟨keys, fun entry member => ?_, foreignKeys⟩
    obtain ⟨old, get, storage, notNull, same⟩ := columns entry member
    rw [withDefault_get?, get, Option.map_some]
    refine ⟨_, rfl, ?_⟩
    by_cases named : entry.1 = .text name
    · have counted := counts entry.2 (named ▸ member)
      rw [if_pos named]
      exact ⟨storage, by rw [withDefault_isNotNull]; exact notNull, counted⟩
    · rw [if_neg named]
      exact ⟨storage, by rw [withDefault_isNotNull]; exact notNull, same⟩

/-! ## Drift that goes unnoticed -/

/-- An integer is told from every other literal exactly where it does not share its number, and where it
has none. -/
theorem literals_told_iff {value : Value} {n : Int} (integer : value.integer? = some n) :
    (∀ text m, IntegerLiteral text m → value.CountsAs (readDefault text) → m = n) ↔
      Binary64.Alone n.natAbs ∨ Binary64.ofInt? n = none := by
  have counts (text : String) (m : Int) (literal : IntegerLiteral text m) :=
    Value.countsAs_literal_iff integer literal
  cases rounds : Binary64.ofInt? n with
  | none =>
      refine iff_of_true (fun text m literal counted => ?_) (.inr rfl)
      obtain ⟨rounded, first, -⟩ := (counts text m literal).mp counted
      exact nomatch rounds.symm.trans first
  | some rounded =>
      rw [← Binary64.roundedAlike_only_iff (by rw [rounds]; rfl)]
      constructor
      · intro told
        exact .inl fun m alike =>
          told _ m (.ofInt m) ((counts _ m (.ofInt m)).mpr alike)
      · rintro (only | absurd)
        · exact fun text m literal counted => only m ((counts text m literal).mp counted)
        · exact nomatch absurd

/-- A table that agrees with its declaration still does with another reported default exactly where that
counts the same as the declared one. A text counts the same as its literal, but also as an expression that
spells it and as other texts in quotes that are read as it, and every word is such an expression. An integer
counts the same as no text, and as each literal that is rounded to its number. -/
theorem drift_unnoticed_iff {declared actual : Schema} (agree : declared.agrees actual = .ok true)
    (name reported : String) :
    (declared.agrees (actual.withDefault name (readDefault reported)) = .ok true ↔
      ∀ column, (.text name, column) ∈ declared.columns →
        column.default.CountsAs (readDefault reported)) ∧
    (∀ content, (Value.text content).CountsAs (readDefault reported) ↔ ReadsAs reported content) ∧
    (BeginsWord reported → ReadsAs reported reported ∧ reported ≠ sqlLiteral reported) ∧
    ∀ value n, Value.integer? value = some n →
      (value.CountsAs (readDefault reported) → ∀ content, ¬ ReadsAs reported content) ∧
      (∀ m, IntegerLiteral reported m →
        (value.CountsAs (readDefault reported) ↔ Binary64.RoundedAlike n m)) ∧
      ((∀ text m, IntegerLiteral text m → value.CountsAs (readDefault text) → m = n) ↔
        Binary64.Alone n.natAbs ∨ Binary64.ofInt? n = none) := by
  refine ⟨agrees_withDefault agree name _, fun content => ?_, fun begins => ⟨?_, ?_⟩,
    fun value n integer => ⟨fun counts content reads => ?_, fun m literal => ?_, ?_⟩⟩
  · rw [Value.countsAs_text_iff, readDefault_eq_text]
  · exact .expression begins.isExpression
  · intro same
    have literal := unquoted?_sqlLiteral reported
    rw [← same, begins.isExpression.unquoted] at literal
    exact nomatch literal
  · obtain ⟨rounded, found, -, finds, -⟩ := counts.number integer
    rw [readDefault_eq_text.mpr reads] at finds
    exact nomatch finds
  · exact Value.countsAs_literal_iff integer literal
  · exact literals_told_iff integer

/-- Logs have a stamp and a size, each with a default. -/
def logs (stamp size : Value) : Schema where
  name := .text "logs"
  columns := [(.text "stamp", { storage := .text, default := stamp }),
    (.text "size", { storage := .integer, default := size })]

theorem drift_unnoticed_iff_logs :
    (logs (.text "now") (.int 3)).agrees (logs (.text "now") (.int 3)) = .ok true ∧
    (logs (.text "now") (.int 3)).agrees
      ((logs (.text "now") (.int 3)).withDefault "stamp" (readDefault "CURRENT_TIMESTAMP")) ≠
        .ok true := by
  have agree : (logs (.text "now") (.int 3)).agrees (logs (.text "now") (.int 3)) = .ok true := by
    decide +kernel
  obtain ⟨noticed, text, -, -⟩ := drift_unnoticed_iff agree "stamp" "CURRENT_TIMESTAMP"
  refine ⟨agree, fun unnoticed => ?_⟩
  have counts := noticed.mp unnoticed _ List.mem_cons_self
  have read := readDefault_eq_text.mpr ((text "now").mp counts)
  revert read
  decide +kernel

/-- A text that spells an expression counts the same as the expression, and an integer the same as the
next one. -/
theorem drift_unnoticed_logs :
    readDefault "CURRENT_TIMESTAMP" = .text "CURRENT_TIMESTAMP" ∧
    sqlLiteral "CURRENT_TIMESTAMP" ≠ "CURRENT_TIMESTAMP" ∧
    readDefault "9007199254740993" = .int 9007199254740993 ∧
    (logs (.text "CURRENT_TIMESTAMP") (.int 9007199254740992)).agrees
      (logs (readDefault "CURRENT_TIMESTAMP") (readDefault "9007199254740993")) = .ok true := by
  decide +kernel

end Schema

end Tabular
