import Tabular.Number.Decimal

/-!
This module reads written digits again. A row of decimal digits is read as the number that it is
written for, and a written integer is read as itself.
-/

namespace Tabular

namespace Text

/-- Every character is one of the ten plain digits. -/
def AreDigits (cs : List Char) : Prop := ∀ c ∈ cs, c.isDigit = true

theorem AreDigits.append {first second : List Char} (digits : AreDigits first)
    (others : AreDigits second) : AreDigits (first ++ second) :=
  List.forall_mem_append.mpr ⟨digits, others⟩

theorem areDigits_toDigits (n : Nat) : AreDigits (Nat.toDigits 10 n) :=
  fun _ member => Nat.isDigit_of_mem_toDigits (by decide) (by decide) member

theorem areDigits_replicate (count : Nat) : AreDigits (List.replicate count '0') := by
  intro c member
  rw [List.eq_of_mem_replicate member]
  rfl

theorem AreDigits.ne {cs : List Char} (digits : AreDigits cs) (other : Char)
    (none : other.isDigit = false) : ∀ c ∈ cs, c ≠ other := by
  intro c member same
  rw [← same, digits c member] at none
  exact nomatch none

def digitValue (c : Char) : Nat := c.toNat - '0'.toNat

theorem digit?_isDigit {c : Char} (digit : c.isDigit = true) : digit? c = some (digitValue c) := by
  have bounds : 48 ≤ c.toNat ∧ c.toNat ≤ 57 := by
    simpa [Char.isDigit, UInt32.le_iff_toNat_le] using digit
  have inside : (0x30 ≤ c.toNat && c.toNat < 0x30 + 10) = true := by
    simp only [Bool.and_eq_true, decide_eq_true_eq]
    omega
  rw [digit?, zeros, List.find?_cons_of_pos (by exact inside)]
  rfl

/-- A row of digits is read digit by digit. -/
theorem digitRow?_digits {cs : List Char} (filled : cs ≠ []) (digits : AreDigits cs) :
    digitRow? cs = some (cs.map digitValue) := by
  induction cs with
  | nil => exact absurd rfl filled
  | cons c rest inductionHypothesis =>
      obtain ⟨digit, others⟩ := List.forall_mem_cons.mp digits
      cases rest with
      | nil => simp [digitRow?, digit?_isDigit digit]
      | cons second rest =>
          have plain : second ≠ '_' := AreDigits.ne others '_' rfl second List.mem_cons_self
          rw [digitRow?, digit?_isDigit digit, inductionHypothesis (by simp) others]
          · rfl
          · simp
          · intro others same
            exact plain (List.cons.inj same).1

theorem numberOfDigits_map (cs : List Char) :
    numberOfDigits (cs.map digitValue) = Nat.ofDigitChars 10 cs 0 := by
  rw [numberOfDigits, List.foldl_map, Nat.ofDigitChars_eq_foldl]
  simp only [Nat.mul_comm, digitValue]

theorem numberOfDigits_toDigits (n : Nat) :
    numberOfDigits ((Nat.toDigits 10 n).map digitValue) = n := by
  rw [numberOfDigits_map, Nat.ofDigitChars_ten_toDigits]

/-! ## Signs and blanks -/

theorem isNumberBlank_isDigit {c : Char} (digit : c.isDigit = true) : isNumberBlank c = false := by
  have bounds : 48 ≤ c.toNat ∧ c.toNat ≤ 57 := by
    simpa [Char.isDigit, UInt32.le_iff_toNat_le] using digit
  have outside : isBlank c = false := by
    simp [isBlank, Range.contains, blanks]
    omega
  rw [isNumberBlank, outside, Bool.false_and]

/-- Without blanks, nothing is removed around a number. -/
theorem stripNumber_of_all {cs : List Char} (filled : ∀ c ∈ cs, isNumberBlank c = false) :
    stripNumber cs = cs := by
  have kept {cs : List Char} (filled : ∀ c ∈ cs, isNumberBlank c = false) :
      cs.dropWhile isNumberBlank = cs := by
    cases cs with
    | nil => rfl
    | cons c rest => rw [List.dropWhile_cons_of_neg (by simp [filled c List.mem_cons_self])]
  rw [stripNumber, kept filled, kept fun c member => filled c (List.mem_reverse.mp member),
    List.reverse_reverse]

/-- This function writes a minus before a negative number. -/
def signed (negative : Bool) (cs : List Char) : List Char :=
  (if negative then ['-'] else []) ++ cs

/-- A number that begins with a digit is split from its sign. -/
theorem splitSign_signed (negative : Bool) {first : Char} (digit : first.isDigit = true)
    (rest : List Char) :
    splitSign (signed negative (first :: rest)) = (negative, first :: rest) := by
  cases negative with
  | true => rfl
  | false =>
      have minus : first ≠ '-' := by rintro rfl; exact nomatch digit
      have plus : first ≠ '+' := by rintro rfl; exact nomatch digit
      rw [signed, if_neg (by simp), List.nil_append, splitSign]
      · rintro others ⟨⟩
        exact minus rfl
      · rintro others ⟨⟩
        exact plus rfl

theorem isNumberBlank_signed (negative : Bool) {cs : List Char}
    (filled : ∀ c ∈ cs, isNumberBlank c = false) :
    ∀ c ∈ signed negative cs, isNumberBlank c = false := by
  intro c member
  rcases List.mem_append.mp member with member | member
  · cases negative with
    | true => rw [List.mem_singleton.mp member]; decide
    | false => exact absurd member List.not_mem_nil
  · exact filled c member

end Text

/-! ## Integers -/

theorem toString_toList (n : Int) :
    (toString n).toList = Text.signed (n < 0) (Nat.toDigits 10 n.natAbs) := by
  rw [Int.toString_eq_repr, Int.repr_eq_if]
  split
  · next positive =>
      rw [Nat.toList_repr, decide_eq_false (by omega), show n.natAbs = n.toNat by omega]
      rfl
  · next negative =>
      rw [String.toList_append, Nat.toList_repr, decide_eq_true (by omega),
        show n.natAbs = (-n).toNat by omega]
      rfl

/-- An integer that is not too long is read as it was written. -/
theorem IntegerText.read_toString {n : Int}
    (short : (Nat.toDigits 10 n.natAbs).length ≤ digitLimit) :
    IntegerText.read (toString n) = .value n := by
  have digits := Text.areDigits_toDigits n.natAbs
  have filled : Nat.toDigits 10 n.natAbs ≠ [] := Nat.toDigits_ne_nil
  have plain : ∀ c ∈ Nat.toDigits 10 n.natAbs, Text.isNumberBlank c = false :=
    fun c member => Text.isNumberBlank_isDigit (digits c member)
  have row := Text.digitRow?_digits filled digits
  have number := Text.numberOfDigits_toDigits n.natAbs
  obtain ⟨first, rest, split⟩ := List.exists_cons_of_ne_nil filled
  have signs := Text.splitSign_signed (n < 0) (digits first (split ▸ List.mem_cons_self)) rest
  rw [← split] at signs
  rw [read, toString_toList, Text.stripNumber_of_all (Text.isNumberBlank_signed _ plain), signs]
  simp only [row, List.length_map]
  rw [if_neg (by omega), number]
  congr 1
  by_cases negative : n < 0
  · simp only [negative, decide_true, if_true]
    omega
  · simp only [negative, decide_false, if_false, Bool.false_eq_true]
    omega

end Tabular
