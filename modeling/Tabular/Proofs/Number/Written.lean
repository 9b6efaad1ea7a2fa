import Mathlib.Data.List.TakeWhile
import Tabular.Proofs.Number.Digits
import Tabular.Proofs.Number.Rounding

/-!
This module reads written numbers again. A finite number is read from its text as itself.
-/

namespace Tabular

namespace Text

/-! ## The parts of a decimal -/

/-- A text without such a character is not split. -/
theorem splitAt?_none {test : Char → Bool} {cs : List Char} (none : ∀ c ∈ cs, test c = false) :
    splitAt? test cs = (cs, Option.none) := by
  have passes : ∀ c ∈ cs, (!test c) = true := by
    intro c member
    simp [none c member]
  rw [splitAt?, List.dropWhile_eq_nil_iff.mpr passes]

/-- A text is split at the first such character. -/
theorem splitAt?_some {test : Char → Bool} {before : List Char} (none : ∀ c ∈ before, test c = false)
    {c : Char} (found : test c = true) (after : List Char) :
    splitAt? test (before ++ c :: after) = (before, some after) := by
  have passes : ∀ c ∈ before, (!test c) = true := by
    intro c member
    simp [none c member]
  rw [splitAt?, List.dropWhile_append_of_pos passes, List.takeWhile_append_of_pos passes,
    List.dropWhile_cons_of_neg (by simp [found]), List.takeWhile_cons_of_neg (by simp [found]),
    List.append_nil]

/-- A row of digits is read digit by digit. -/
theorem optionalDigits?_digits {cs : List Char} (digits : AreDigits cs) :
    optionalDigits? cs = some (cs.map digitValue) := by
  cases cs with
  | nil => rfl
  | cons c rest => exact digitRow?_digits (by simp) digits

/-- No power of ten begins in a text without these letters. -/
def WithoutPower (cs : List Char) : Prop := ∀ c ∈ cs, (c = 'e' || c = 'E' : Bool) = false

/-- No power of ten begins among digits. -/
theorem AreDigits.noPower {cs : List Char} (digits : AreDigits cs) : WithoutPower cs := by
  intro c member
  simp [digits.ne 'e' rfl c member, digits.ne 'E' rfl c member]

/-- Nor does one begin among digits with a point. -/
theorem AreDigits.noPowerPoint {whole fraction : List Char} (digits : AreDigits whole)
    (others : AreDigits fraction) : WithoutPower (whole ++ '.' :: fraction) := by
  intro c member
  rcases List.mem_append.mp member with member | member
  · exact digits.noPower c member
  · rcases List.mem_cons.mp member with rfl | member
    · rfl
    · exact others.noPower c member

/-- Digits hold no point. -/
theorem AreDigits.noPoint {cs : List Char} (digits : AreDigits cs) :
    ∀ c ∈ cs, (c = '.' : Bool) = false := by
  intro c member
  simp [digits.ne '.' rfl c member]

/-- A decimal is read from the digits before and after its point and from its exponent. -/
theorem decimal?_parts (negative : Bool) {cs significand whole : List Char}
    {power fraction : Option (List Char)} {digits others : List Nat} {shift : Int}
    (split : splitAt? (fun c => c = 'e' || c = 'E') cs = (significand, power))
    (point : splitAt? (· = '.') significand = (whole, fraction))
    (first : optionalDigits? whole = some digits)
    (second : optionalDigits? (fraction.getD []) = some others)
    (shifts : exponent? power = some shift) (filled : digits ≠ []) :
    decimal? negative cs =
      some ⟨negative, numberOfDigits (digits ++ others), shift - others.length⟩ := by
  rw [decimal?, split]
  simp only [point, first, second, shifts, Option.bind_eq_bind, Option.bind_some,
    if_neg fun none : digits = [] ∧ others = [] => filled none.1]
  rfl

/-- A decimal without a point is read as its digits. -/
theorem decimal?_whole (negative : Bool) {cs whole : List Char} {power : Option (List Char)}
    {shift : Int} (split : splitAt? (fun c => c = 'e' || c = 'E') cs = (whole, power))
    (filled : whole ≠ []) (digits : AreDigits whole) (shifts : exponent? power = some shift)
    {number : Nat} (same : Nat.ofDigitChars 10 whole 0 = number) :
    decimal? negative cs = some ⟨negative, number, shift⟩ := by
  rw [decimal?_parts negative split (splitAt?_none digits.noPoint) (optionalDigits?_digits digits)
    rfl shifts (by simpa using filled), List.append_nil, numberOfDigits_map, same]
  simp

/-- A decimal with a point is read as its digits without the point. -/
theorem decimal?_point (negative : Bool) {cs whole fraction : List Char}
    {power : Option (List Char)} {shift : Int}
    (split : splitAt? (fun c => c = 'e' || c = 'E') cs = (whole ++ '.' :: fraction, power))
    (filled : whole ≠ []) (digits : AreDigits whole) (others : AreDigits fraction)
    (shifts : exponent? power = some shift) {number : Nat} {exponent : Int}
    (same : Nat.ofDigitChars 10 (whole ++ fraction) 0 = number)
    (shifted : shift - fraction.length = exponent) :
    decimal? negative cs = some ⟨negative, number, exponent⟩ := by
  rw [decimal?_parts negative split (splitAt?_some digits.noPoint (by decide) fraction)
    (optionalDigits?_digits digits) (optionalDigits?_digits others) shifts (by simpa using filled),
    ← List.map_append, numberOfDigits_map, List.length_map]
  rw [← same, ← shifted]
  rfl

/-- A power of ten is read with its sign and its zeros in front. -/
theorem exponent?_power (exponent : Int) (count : Nat) :
    exponent? (some ((if exponent < 0 then '-' else '+') ::
      (List.replicate count '0' ++ Nat.toDigits 10 exponent.natAbs))) = some exponent := by
  have digits := (areDigits_replicate count).append (areDigits_toDigits exponent.natAbs)
  have filled : List.replicate count '0' ++ Nat.toDigits 10 exponent.natAbs ≠ [] := by simp
  have row := digitRow?_digits filled digits
  have number : numberOfDigits ((List.replicate count '0' ++
      Nat.toDigits 10 exponent.natAbs).map digitValue) = exponent.natAbs := by
    rw [numberOfDigits_map, Nat.ofDigitChars_append, Nat.ofDigitChars_replicate_zero, Nat.mul_zero,
      Nat.ofDigitChars_ten_toDigits]
  split
  · next negative =>
      simp only [exponent?, splitSign, row, Option.map_some, number, if_true]
      congr 1
      omega
  · next positive =>
      simp only [exponent?, splitSign, row, Option.map_some, number, Bool.false_eq_true, if_false]
      congr 1
      omega

end Text

/-! ## Written magnitudes -/

namespace DecimalLayout

open Text

/-- A written power of ten is read as its exponent. -/
theorem power_read (layout : DecimalLayout) (exponent : Int) :
    ∃ power, layout.power exponent = 'e' :: power ∧ exponent? (some power) = some exponent :=
  ⟨_, rfl, exponent?_power exponent _⟩

section Placed

variable (negative : Bool) {row : List Char} {number : Nat}

/-- Digits behind a point and some zeros are read as a fraction. -/
theorem decimal?_zerosBefore (digits : AreDigits row)
    (value : Nat.ofDigitChars 10 row 0 = number) (count : Nat) :
    decimal? negative ('0' :: '.' :: zeros count ++ row) =
      some ⟨negative, number, -(count + row.length)⟩ := by
  have zero : AreDigits ['0'] := areDigits_replicate 1
  have others := (areDigits_replicate count).append digits
  refine decimal?_point negative (splitAt?_none (zero.noPowerPoint others)) (by simp) zero others rfl
    ?_ ?_
  · rw [← List.append_assoc, Nat.ofDigitChars_append, List.singleton_append,
      ← List.replicate_succ, Nat.ofDigitChars_replicate_zero, Nat.mul_zero, value]
  · rw [List.length_append, List.length_replicate]
    omega

/-- The zeros that are written behind the digits belong to the number, also the one behind the
point. -/
theorem decimal?_zerosBehind (filled : row ≠ []) (digits : AreDigits row)
    (value : Nat.ofDigitChars 10 row 0 = number) (count : Nat) :
    decimal? negative (row ++ zeros count ++ ['.', '0']) =
      some ⟨negative, number * 10 ^ (count + 1), -1⟩ := by
  have zero : AreDigits ['0'] := areDigits_replicate 1
  have longer := digits.append (areDigits_replicate count)
  refine decimal?_point negative (splitAt?_none (longer.noPowerPoint zero)) (by simp [filled]) longer
    zero rfl ?_ rfl
  rw [List.append_assoc, ← List.replicate_succ', Nat.ofDigitChars_append,
    Nat.ofDigitChars_replicate_zero, value, Nat.mul_comm]

/-- Digits with a point among them are read as a fraction. -/
theorem decimal?_inside (filled : row ≠ []) (digits : AreDigits row)
    (value : Nat.ofDigitChars 10 row 0 = number) (before : Nat) :
    decimal? negative (row.take (before + 1) ++ '.' :: row.drop (before + 1)) =
      some ⟨negative, number, -(row.length - (before + 1) : Nat)⟩ := by
  have whole : AreDigits (row.take (before + 1)) :=
    fun c member => digits c (List.mem_of_mem_take member)
  have fraction : AreDigits (row.drop (before + 1)) :=
    fun c member => digits c (List.mem_of_mem_drop member)
  refine decimal?_point negative (splitAt?_none (whole.noPowerPoint fraction)) (by simp [filled])
    whole fraction rfl ?_ ?_
  · rw [List.take_append_drop, value]
  · rw [List.length_drop]
    omega

/-- One digit and a power of ten are read as their product. -/
theorem decimal?_digitPower (layout : DecimalLayout) {digit : Char} (digits : AreDigits [digit])
    (value : Nat.ofDigitChars 10 [digit] 0 = number) (leading : Int) :
    decimal? negative (digit :: layout.power leading) = some ⟨negative, number, leading⟩ := by
  obtain ⟨power, written, read⟩ := layout.power_read leading
  have split := splitAt?_some digits.noPower (c := 'e') rfl power
  rw [written]
  exact decimal?_whole negative split (by simp) digits read value

/-- One digit stands before the point where a power of ten is written. -/
theorem decimal?_pointPower (layout : DecimalLayout) {digit : Char} {rest : List Char}
    (digits : AreDigits (digit :: rest)) (value : Nat.ofDigitChars 10 (digit :: rest) 0 = number)
    (leading : Int) : decimal? negative (digit :: '.' :: rest ++ layout.power leading) =
      some ⟨negative, number, leading - rest.length⟩ := by
  obtain ⟨power, written, read⟩ := layout.power_read leading
  obtain ⟨first, others⟩ := List.forall_mem_cons.mp digits
  have one : AreDigits [digit] := List.forall_mem_singleton.mpr first
  have split := splitAt?_some (one.noPowerPoint others) (c := 'e') rfl power
  rw [written]
  exact decimal?_point negative split (by simp) one others read value rfl

end Placed

/-- A placed number is read as its digits, with as many zeros as were written behind them. -/
theorem decimal?_place (layout : DecimalLayout) (negative : Bool) (number : Nat) (exponent : Int) :
    ∃ count : Nat, decimal? negative (layout.place (Nat.toDigits 10 number)
        (exponent + (Nat.toDigits 10 number).length - 1)) =
      some ⟨negative, number * 10 ^ count, exponent - count⟩ := by
  have digits := areDigits_toDigits number
  have filled : Nat.toDigits 10 number ≠ [] := Nat.toDigits_ne_nil
  have value : Nat.ofDigitChars 10 (Nat.toDigits 10 number) 0 = number :=
    Nat.ofDigitChars_ten_toDigits
  generalize Nat.toDigits 10 number = row at *
  have same {magnitude : Nat} {power other : Int} (equal : power = other) :
      some (⟨negative, magnitude, power⟩ : Decimal) = some ⟨negative, magnitude, other⟩ := by
    rw [equal]
  unfold place
  split
  · split
    · next below =>
        refine ⟨0, (decimal?_zerosBefore negative digits value _).trans ?_⟩
        rw [Nat.pow_zero, Nat.mul_one]
        exact same (by omega)
    · next above =>
        simp only
        split
        · next short =>
            exact ⟨_, (decimal?_zerosBehind negative filled digits value _).trans (same (by omega))⟩
        · next long =>
            refine ⟨0, (decimal?_inside negative filled digits value _).trans ?_⟩
            rw [Nat.pow_zero, Nat.mul_one]
            exact same (by omega)
  · cases row with
    | nil => exact absurd rfl filled
    | cons digit rest =>
        refine ⟨0, ?_⟩
        rw [Nat.pow_zero, Nat.mul_one]
        cases rest with
        | nil => exact (decimal?_digitPower negative layout digits value _).trans (same (by simp))
        | cons second rest =>
            refine (decimal?_pointPower negative layout digits value _).trans (same ?_)
            simp only [List.length_cons]
            omega

/-- These characters occur in written numbers. -/
def isNumberChar (c : Char) : Bool := c.isDigit || "+-.einfa".toList.contains c

/-- A digit occurs in written numbers. -/
theorem isNumberChar_digit {c : Char} {n : Nat} (digit : c ∈ Nat.toDigits 10 n) :
    isNumberChar c = true := by
  have digit := Nat.isDigit_of_mem_toDigits (by decide) (by decide) digit
  simp [isNumberChar, digit]

theorem numberChar_zeros (count : Nat) : ∀ c ∈ zeros count, isNumberChar c = true := by
  intro c member
  rw [zeros] at member
  rw [List.eq_of_mem_replicate member]
  decide

/-- Every character of a written power occurs in written numbers. -/
theorem numberChar_power (layout : DecimalLayout) (exponent : Int) :
    ∀ c ∈ layout.power exponent, isNumberChar c = true := by
  intro c member
  simp only [power, List.cons_append, List.mem_cons, List.mem_append] at member
  rcases member with rfl | rfl | member | member
  · decide
  · split <;> decide
  · exact numberChar_zeros _ c member
  · exact isNumberChar_digit member

/-- A layout places digits among points, zeros and a power of ten. -/
theorem numberChar_place (layout : DecimalLayout) (digits : List Char) (leading : Int)
    (each : ∀ c ∈ digits, isNumberChar c = true) :
    ∀ c ∈ layout.place digits leading, isNumberChar c = true := by
  have zeros := numberChar_zeros
  have power := numberChar_power layout leading
  have point : isNumberChar '.' = true := by decide
  have zero : isNumberChar '0' = true := by decide
  intro c member
  unfold place at member
  split at member
  · split at member
    · simp only [List.cons_append, List.mem_cons, List.mem_append] at member
      rcases member with rfl | rfl | member | member
      exacts [zero, point, zeros _ c member, each c member]
    · simp only at member
      split at member
      · simp only [List.mem_append, List.mem_cons, List.not_mem_nil, or_false] at member
        rcases member with (member | member) | rfl | rfl
        exacts [each c member, zeros _ c member, point, zero]
      · simp only [List.mem_append, List.mem_cons] at member
        rcases member with member | rfl | member
        exacts [each c (List.mem_of_mem_take member), point, each c (List.mem_of_mem_drop member)]
  · split at member
    · exact absurd member List.not_mem_nil
    · rcases List.mem_cons.mp member with rfl | member
      exacts [each c (by simp), power c member]
    · next first rest =>
        simp only [List.cons_append, List.mem_cons, List.mem_append] at member
        rcases member with rfl | rfl | member | member
        exacts [each c (by simp), point, each c (by simp [member]), power c member]

/-- A placed number begins with a digit. -/
theorem place_head (layout : DecimalLayout) {row : List Char} (filled : row ≠ [])
    (digits : AreDigits row) (leading : Int) :
    ∃ first rest, layout.place row leading = first :: rest ∧ first.isDigit = true := by
  obtain ⟨first, rest, rfl⟩ := List.exists_cons_of_ne_nil filled
  have digit := digits first List.mem_cons_self
  unfold place
  split
  · split
    · exact ⟨_, _, rfl, rfl⟩
    · simp only
      split
      · exact ⟨_, _, rfl, digit⟩
      · exact ⟨_, _, rfl, digit⟩
  · cases rest with
    | nil => exact ⟨_, _, rfl, digit⟩
    | cons second rest => exact ⟨_, _, rfl, digit⟩

end DecimalLayout

namespace Binary64

open Text

/-- A written magnitude is read as the number of its rank. -/
theorem decimal?_magnitude (negative : Bool) (rank : Fin finiteCount) :
    (decimal? negative (layout.magnitude rank)).map Decimal.toBinary64 =
      some (.finite negative rank) := by
  rw [DecimalLayout.magnitude]
  obtain ⟨count, read⟩ := layout.decimal?_place negative (shortest rank).1 (shortest rank).2
  refine (congrArg (Option.map Decimal.toBinary64) read).trans (congrArg some ?_)
  by_cases zero : rank.val = 0
  · obtain ⟨rank, inRange⟩ := rank
    obtain rfl : rank = 0 := zero
    rw [show shortest (⟨0, inRange⟩ : Fin finiteCount) = (0, 0) from rfl, Nat.zero_mul]
    rfl
  · obtain ⟨filled, rounds⟩ := shortest_exact zero rank.isLt
    rw [Decimal.toBinary64_shift negative filled, Decimal.toBinary64_sign rank.isLt rounds, ofRank,
      dif_pos rank.isLt]

/-- Every character of a written magnitude occurs in written numbers. -/
theorem numberChar_magnitude (rank : Nat) :
    ∀ c ∈ layout.magnitude rank, DecimalLayout.isNumberChar c = true :=
  DecimalLayout.numberChar_place _ _ _ fun _ member => DecimalLayout.isNumberChar_digit member

/-- A written magnitude begins with a digit. -/
theorem magnitude_head (rank : Nat) :
    ∃ first rest, layout.magnitude rank = first :: rest ∧ first.isDigit = true :=
  layout.place_head Nat.toDigits_ne_nil (areDigits_toDigits _) _

theorem magnitude_ne_nil (rank : Nat) : layout.magnitude rank ≠ [] := by
  obtain ⟨first, rest, split, -⟩ := magnitude_head rank
  simp [split]

/-- A digit has no other case. -/
theorem toLower_isDigit {c : Char} (digit : c.isDigit = true) : c.toLower = c := by
  have bounds : 48 ≤ c.val.toNat ∧ c.val.toNat ≤ 57 := by
    simpa [Char.isDigit, UInt32.le_iff_toNat_le] using digit
  refine dif_neg ?_
  rintro ⟨above, -⟩
  have above : 65 ≤ c.val.toNat := UInt32.le_iff_toNat_le.mp above
  omega

/-- No character of a number is a blank around one. -/
theorem isNumberBlank_numberChar {c : Char} (number : DecimalLayout.isNumberChar c = true) :
    isNumberBlank c = false := by
  rcases Bool.or_eq_true_iff.mp number with digit | other
  · exact isNumberBlank_isDigit digit
  · have each : "+-.einfa".toList.all (fun c => !isNumberBlank c) = true := by decide
    have plain := List.all_eq_true.mp each c (by simpa using other)
    simpa using plain

/-- What begins with a digit is no name, and is read as a decimal. -/
theorem read?_split {text : String} {negative : Bool} {first : Char} {rest : List Char}
    (digit : first.isDigit = true)
    (split : splitSign (stripNumber text.toList) = (negative, first :: rest)) :
    read? text = (decimal? negative (first :: rest)).map Decimal.toBinary64 := by
  have other (name : String) (different : name.toList.head? ≠ some first) :
      String.ofList (lowerAscii (first :: rest)) ≠ name := by
    intro same
    apply different
    rw [← same, String.toList_ofList, lowerAscii, List.map_cons, toLower_isDigit digit]
    rfl
  have letter (c : Char) (none : c.isDigit = false) : some c ≠ some first := by
    intro same
    rw [Option.some.inj same, digit] at none
    exact nomatch none
  have names : ¬ ((String.ofList (lowerAscii (first :: rest)) = "inf" ||
      String.ofList (lowerAscii (first :: rest)) = "infinity" : Bool) = true) := by
    simp [other "inf" (letter 'i' rfl), other "infinity" (letter 'i' rfl)]
  rw [read?, split]
  simp only
  rw [if_neg names, if_neg (other "nan" (letter 'n' rfl))]

/-- A finite number is read from its text as itself. -/
theorem read?_toText (negative : Bool) (rank : Fin finiteCount) :
    read? (toText (.finite negative rank)) = some (.finite negative rank) := by
  obtain ⟨first, rest, split, digit⟩ := magnitude_head rank
  have plain : ∀ c ∈ layout.magnitude rank, isNumberBlank c = false :=
    fun c member => isNumberBlank_numberChar (numberChar_magnitude rank c member)
  have signs := splitSign_signed negative digit rest
  have read := decimal?_magnitude negative rank
  have written : (toText (.finite negative rank)).toList = signed negative (first :: rest) := by
    rw [← split]
    exact String.toList_ofList
  rw [split] at read plain
  rw [read?_split digit (by rw [written, stripNumber_of_all (isNumberBlank_signed negative plain), signs]),
    read]

end Binary64

end Tabular
