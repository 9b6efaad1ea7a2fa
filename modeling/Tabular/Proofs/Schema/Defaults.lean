import Tabular.Proofs.Number.Written
import Tabular.Schema.Default

/-!
This module shows that a written default is read as one that counts the same. A text is read from its
literal as itself, and so are integers and finite numbers.
-/

namespace Tabular

namespace Text

/-! ## Quoted texts -/

theorem halveQuotes_doubleQuotes (cs : List Char) : halveQuotes '\'' (doubleQuotes cs) = cs := by
  induction cs with
  | nil => rfl
  | cons c rest inductionHypothesis =>
      rw [doubleQuotes]
      split
      · next quote => rw [halveQuotes, if_pos ⟨rfl, rfl⟩, inductionHypothesis, quote]
      · next other =>
          cases doubled : doubleQuotes rest with
          | nil =>
              rw [doubled] at inductionHypothesis
              rw [← inductionHypothesis]
              rfl
          | cons second tail =>
              rw [halveQuotes, if_neg fun same => other same.1, ← doubled, inductionHypothesis]

theorem unquoted?_sqlLiteral (text : String) :
    unquoted? (sqlLiteral text).toList = some text.toList := by
  have last : (doubleQuotes text.toList ++ ['\'']).getLast? = some '\'' := List.getLast?_concat
  rw [sqlLiteral, String.toList_ofList, List.cons_append, unquoted?, if_pos ⟨.inl rfl, last⟩,
    List.dropLast_concat, halveQuotes_doubleQuotes]

/-- A text that begins with neither quote is not a literal. -/
theorem unquoted?_none {first : Char} {rest : List Char} (single : first ≠ '\'') (double : first ≠ '"') :
    unquoted? (first :: rest) = none := by
  rw [unquoted?, if_neg]
  rintro ⟨same | same, -⟩
  · exact single same
  · exact double same

theorem unquoted?_signed (negative : Bool) {first : Char} {rest : List Char}
    (digit : first.isDigit = true) : unquoted? (signed negative (first :: rest)) = none := by
  cases negative with
  | true => exact unquoted?_none (by decide) (by decide)
  | false =>
      refine unquoted?_none ?_ ?_
      · rintro rfl
        exact nomatch digit
      · rintro rfl
        exact nomatch digit

/-! ## Numbers that are no integers -/

/-- A digit row consists of digits and underscores. -/
theorem digitRow?_each {cs : List Char} {digits : List Nat} (row : digitRow? cs = some digits) :
    ∀ c ∈ cs, c = '_' ∨ (digit? c).isSome = true := by
  induction cs using digitRow?.induct generalizing digits with
  | case1 => simp
  | case2 c =>
      obtain ⟨digit, read, -⟩ := Option.map_eq_some_iff.mp row
      simp [read]
  | case3 c rest inductionHypothesis =>
      obtain ⟨digit, read, others⟩ := Option.bind_eq_some_iff.mp row
      obtain ⟨tail, rowRest, -⟩ := Option.bind_eq_some_iff.mp others
      intro other member
      rcases List.mem_cons.mp member with rfl | member
      · simp [read]
      rcases List.mem_cons.mp member with rfl | member
      · exact .inl rfl
      · exact inductionHypothesis rowRest other member
  | case4 c rest notSingle notUnderscore inductionHypothesis =>
      rw [digitRow?] at row
      · obtain ⟨digit, read, others⟩ := Option.bind_eq_some_iff.mp row
        obtain ⟨tail, rowRest, -⟩ := Option.bind_eq_some_iff.mp others
        intro other member
        rcases List.mem_cons.mp member with rfl | member
        · simp [read]
        · exact inductionHypothesis rowRest other member
      · exact notSingle
      · exact notUnderscore

/-- A text with a point or a power of ten is not read as an integer. -/
theorem digitRow?_none {cs : List Char} {mark : Char} (member : mark ∈ cs) (other : mark ≠ '_')
    (unread : digit? mark = none) : digitRow? cs = none := by
  cases row : digitRow? cs with
  | none => rfl
  | some digits =>
      rcases digitRow?_each row mark member with same | reads
      · exact absurd same other
      · rw [unread] at reads
        exact nomatch reads

end Text

namespace DecimalLayout

theorem place_mark (layout : DecimalLayout) {row : List Char} (filled : row ≠ []) (leading : Int) :
    '.' ∈ layout.place row leading ∨ 'e' ∈ layout.place row leading := by
  unfold place
  split
  · split
    · simp
    · simp only
      split <;> simp
  · split
    · exact absurd rfl filled
    · exact .inr (List.mem_cons_of_mem _ List.mem_cons_self)
    · simp

end DecimalLayout

/-! ## Written defaults -/

/-- A number that can stand for a default is finite and can be made a floating-point number. -/
def Value.isConvertible : Value → Bool
  | .int value => (Binary64.ofInt? value).isSome
  | .float (.finite _ _) => true
  | .float _ => false
  | _ => true

/-- An integer that can be rounded has few digits. -/
theorem Binary64.toDigits_le_of_ofInt? {n : Int} (rounds : (ofInt? n).isSome = true) :
    (Nat.toDigits 10 n.natAbs).length ≤ 400 := by
  have inRange : nearestRank n.natAbs 1 < finiteCount := by
    simp only [ofInt?] at rounds
    split at rounds
    · next inRange => exact inRange
    · exact nomatch rounds
  have log : Nat.log2 (n.natAbs * unit) < 2099 := by
    rw [nearestRank, Nat.div_one, finiteCount] at inRange
    have shifted := Nat.lt_of_le_of_lt (Nat.le_add_right _ _) inRange
    have few := Nat.lt_of_mul_lt_mul_right shifted
    omega
  have below (power bound : Nat) (same : unit = 2 ^ power) (sum : power + bound = 2099) :
      n.natAbs < 2 ^ bound := by
    by_cases zero : n.natAbs = 0
    · rw [zero]
      exact Nat.two_pow_pos _
    · have filled : n.natAbs * unit ≠ 0 := by
        rw [same]
        exact Nat.mul_ne_zero zero (Nat.two_pow_pos _).ne'
      have small := (Nat.log2_lt filled).mp log
      rw [same, ← sum, Nat.add_comm, Nat.pow_add] at small
      exact Nat.lt_of_mul_lt_mul_right small
  have power : 2 ^ 1025 ≤ 10 ^ 400 := by decide +kernel
  rw [Nat.length_toDigits_le_iff (by decide) (by decide)]
  exact Nat.lt_of_lt_of_le (below 1074 1025 unit_eq rfl) power

theorem readDefault_int {n : Int} (rounds : (Binary64.ofInt? n).isSome = true) :
    readDefault (toString n) = .int n := by
  obtain ⟨first, rest, split⟩ :=
    List.exists_cons_of_ne_nil (Nat.toDigits_ne_nil (n := n.natAbs) (b := 10))
  have digit := Text.areDigits_toDigits n.natAbs first (split ▸ List.mem_cons_self)
  have short : (Nat.toDigits 10 n.natAbs).length ≤ digitLimit :=
    Nat.le_trans (Binary64.toDigits_le_of_ofInt? rounds) (by decide)
  have read := IntegerText.read_toString short
  rw [readDefault, toString_toList, split, Text.unquoted?_signed _ digit]
  simp only [read]

theorem IntegerText.read_malformed (negative : Bool) {first : Char} {rest : List Char}
    (digit : first.isDigit = true) (plain : ∀ c ∈ first :: rest, Text.isNumberBlank c = false)
    (unread : Text.digitRow? (first :: rest) = none) :
    IntegerText.read (String.ofList (Text.signed negative (first :: rest))) = .malformed := by
  rw [read, String.toList_ofList, Text.stripNumber_of_all (Text.isNumberBlank_signed negative plain),
    Text.splitSign_signed negative digit]
  simp only [unread]

theorem readDefault_float (negative : Bool) (rank : Fin finiteCount) :
    readDefault (Binary64.toText (.finite negative rank)) = .float (.finite negative rank) := by
  obtain ⟨first, rest, split, digit⟩ := Binary64.magnitude_head rank
  have plain : ∀ c ∈ Binary64.layout.magnitude rank, Text.isNumberBlank c = false :=
    fun c member => Binary64.isNumberBlank_numberChar (Binary64.numberChar_magnitude rank c member)
  have unread : Text.digitRow? (Binary64.layout.magnitude rank) = none := by
    rcases Binary64.layout.place_mark (Nat.toDigits_ne_nil (n := (Binary64.shortest rank).1)
      (b := 10)) _ with member | member
    · exact Text.digitRow?_none member (by decide) (by decide)
    · exact Text.digitRow?_none member (by decide) (by decide)
  rw [split] at plain unread
  have written : Binary64.toText (.finite negative rank) =
      String.ofList (Text.signed negative (first :: rest)) := by
    rw [← split]
    rfl
  have reads := Binary64.read?_toText negative rank
  have malformed := IntegerText.read_malformed negative digit plain unread
  rw [← written] at malformed
  rw [readDefault, malformed, reads]
  simp only [written, String.toList_ofList, Text.unquoted?_signed negative digit]

theorem readDefault_text (text : String) : readDefault (Text.sqlLiteral text) = .text text := by
  rw [readDefault, Text.unquoted?_sqlLiteral]
  simp

theorem DefaultKey.ofValue_whole {value : Value} {whole : Int} (integer : value.integer? = some whole) :
    DefaultKey.ofValue value = DefaultKey.ofRounded (Binary64.ofInt? whole) := by
  cases value with
  | bool flag => rw [← Option.some.inj integer]; rfl
  | int number => rw [← Option.some.inj integer]; rfl
  | _ => exact nomatch integer

theorem DefaultKey.ofValue_integer {value : Value} {whole : Int} (integer : value.integer? = some whole)
    {rounded : Binary64} (rounds : Binary64.ofInt? whole = some rounded) :
    DefaultKey.ofValue value = .ok (.number rounded) := by
  rw [ofValue_whole integer, rounds]
  rfl

theorem DefaultKey.same_number {value : Binary64} (finite : value.isNan = false) :
    (DefaultKey.number value).same (.number value) = true := by
  simp [DefaultKey.same, Binary64.equal, finite]

theorem Binary64.isNan_of_ofInt? {n : Int} {rounded : Binary64} (rounds : ofInt? n = some rounded) :
    rounded.isNan = false := by
  simp only [ofInt?, Option.dite_none_right_eq_some] at rounds
  obtain ⟨inRange, same⟩ := rounds
  rw [← Option.some.inj same]
  generalize nearestRank n.natAbs 1 = rank at inRange
  rfl

/-- A whole number counts the same when it is read back as an integer. -/
theorem DefaultKey.same_integer {value : Value} {n : Int} (integer : value.integer? = some n)
    (rounds : (Binary64.ofInt? n).isSome = true) :
    ∃ expected found, ofValue value = .ok expected ∧
      ofValue (readDefault (toString n)) = .ok found ∧ expected.same found = true := by
  obtain ⟨rounded, rounding⟩ := Option.isSome_iff_exists.mp rounds
  rw [readDefault_int rounds, ofValue_integer integer rounding, ofValue_integer rfl rounding]
  exact ⟨_, _, rfl, rfl, same_number (Binary64.isNan_of_ofInt? rounding)⟩

/-- A written default is read as one that counts the same. -/
theorem readDefault_same {name default : Value} {text : String}
    (written : Column.defaultText name default = .ok text) (convertible : default.isConvertible = true) :
    ∃ expected found, DefaultKey.ofValue default = .ok expected ∧
      DefaultKey.ofValue (readDefault text) = .ok found ∧ expected.same found = true := by
  cases default with
  | bool value =>
      obtain rfl := Except.ok.inj written
      cases value with
      | false => exact DefaultKey.same_integer (n := 0) rfl (by decide +kernel)
      | true => exact DefaultKey.same_integer (n := 1) rfl (by decide +kernel)
  | int value =>
      obtain rfl := Except.ok.inj written
      exact DefaultKey.same_integer rfl convertible
  | float value =>
      obtain rfl := Except.ok.inj written
      cases value with
      | finite negative rank =>
          rw [readDefault_float]
          exact ⟨_, _, rfl, rfl, DefaultKey.same_number rfl⟩
      | nan => exact nomatch convertible
      | infinite negative => exact nomatch convertible
  | text value =>
      obtain rfl := Except.ok.inj written
      rw [readDefault_text]
      refine ⟨_, _, rfl, rfl, ?_⟩
      simp [DefaultKey.same]
  | _ => exact nomatch written

end Tabular
