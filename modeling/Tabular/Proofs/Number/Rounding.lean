import Mathlib.Algebra.Group.Nat.Defs
import Mathlib.Data.Nat.Log
import Tabular.Number.Shortest

/-!
This module shows that rounding depends on the value of a decimal alone and not on how it is written,
and that it gives back the finite numbers.
-/

namespace Tabular

namespace Binary64

theorem unit_eq : unit = 2 ^ 1074 := Nat.pow_eq ..

theorem unit_pos : 0 < unit := by
  have positive (bits : Nat) (same : unit = 2 ^ bits) : 0 < unit := same ▸ Nat.two_pow_pos bits
  exact positive 1074 unit_eq

theorem units_eq (rank : Nat) :
    units rank =
      if rank < 2 ^ 52 then rank else (2 ^ 52 + rank % 2 ^ 52) * 2 ^ (rank / 2 ^ 52 - 1) := rfl

theorem nearestRank_eq (numerator denominator : Nat) :
    nearestRank numerator denominator =
      (Nat.log2 (numerator * unit / denominator) - 52) * 2 ^ 52 + roundQuotient (numerator * unit)
        (denominator * 2 ^ (Nat.log2 (numerator * unit / denominator) - 52)) := rfl

/-! ## Rounding of quotients -/

theorem roundQuotient_scale (numerator denominator : Nat) {factor : Nat} (positive : 0 < factor) :
    roundQuotient (numerator * factor) (denominator * factor) =
      roundQuotient numerator denominator := by
  simp only [roundQuotient, Nat.mul_div_mul_right _ _ positive, Nat.mul_mod_mul_right,
    ← Nat.mul_assoc, Nat.mul_lt_mul_right positive]

theorem nearestRank_scale (numerator denominator : Nat) {factor : Nat} (positive : 0 < factor) :
    nearestRank (numerator * factor) (denominator * factor) = nearestRank numerator denominator := by
  have quotient : numerator * factor * unit / (denominator * factor) =
      numerator * unit / denominator := by
    rw [Nat.mul_right_comm, Nat.mul_div_mul_right _ _ positive]
  simp only [nearestRank, quotient]
  rw [Nat.mul_right_comm numerator, Nat.mul_right_comm denominator,
    roundQuotient_scale _ _ positive]

/-- Equal quotients are rounded to the same number. -/
theorem ofRatio_congr (negative : Bool) {first second third fourth : Nat}
    (positiveSecond : 0 < second) (positiveFourth : 0 < fourth)
    (same : first * fourth = third * second) :
    ofRatio negative first second = ofRatio negative third fourth := by
  rw [ofRatio, ← nearestRank_scale first second positiveFourth, same, Nat.mul_comm second,
    nearestRank_scale third fourth positiveSecond]
  rfl

/-- A quotient without a remainder is not rounded. -/
theorem roundQuotient_exact (quotient : Nat) {denominator : Nat} (positive : 0 < denominator) :
    roundQuotient (quotient * denominator) denominator = quotient := by
  simp only [roundQuotient, Nat.mul_div_cancel _ positive, Nat.mul_mod_left, Nat.mul_zero,
    if_pos positive]

/-- A rank is made of the power of two of its magnitude and of the leading digits. -/
theorem units_split (rank : Nat) :
    ∃ shift leading, Nat.log2 (units rank) - 52 = shift ∧ units rank = leading * 2 ^ shift ∧
      shift * 2 ^ 52 + leading = rank := by
  rw [units_eq]
  split
  · next small =>
      have below : Nat.log2 rank < 52 := by
        by_cases zero : rank = 0
        · rw [zero]; decide
        · exact (Nat.log2_lt zero).mpr small
      exact ⟨0, rank, by omega, by simp, by simp⟩
  · next large =>
      refine ⟨rank / 2 ^ 52 - 1, 2 ^ 52 + rank % 2 ^ 52, ?_, rfl, ?_⟩
      · have digits : rank % 2 ^ 52 < 2 ^ 52 := Nat.mod_lt _ (by decide)
        generalize rank % 2 ^ 52 = leading at digits
        generalize rank / 2 ^ 52 - 1 = shift
        have log : Nat.log2 ((2 ^ 52 + leading) * 2 ^ shift) = 52 + shift := by
          rw [Nat.log2_eq_iff (Nat.mul_ne_zero (by omega) (Nat.two_pow_pos shift).ne')]
          constructor
          · rw [Nat.pow_add]
            exact Nat.mul_le_mul_right _ (Nat.le_add_right _ _)
          · rw [show 52 + shift + 1 = 53 + shift by omega, Nat.pow_add]
            exact Nat.mul_lt_mul_of_pos_right (by omega) (Nat.two_pow_pos shift)
        omega
      · have positive : 1 ≤ rank / 2 ^ 52 := (Nat.one_le_div_iff (by decide)).mpr (by omega)
        omega

/-- A magnitude in units is rounded to its rank. -/
theorem nearestRank_exact {numerator denominator rank : Nat} (positive : 0 < denominator)
    (exact : numerator * unit = units rank * denominator) :
    nearestRank numerator denominator = rank := by
  obtain ⟨shift, leading, log, split, whole⟩ := units_split rank
  have quotient : numerator * unit / denominator = units rank := by
    rw [exact, Nat.mul_div_cancel _ positive]
  have powered : numerator * unit = leading * (denominator * 2 ^ shift) := by
    rw [exact, split, Nat.mul_assoc, Nat.mul_comm (2 ^ shift)]
  rw [nearestRank_eq, quotient, log]
  rw [powered, roundQuotient_exact leading (Nat.mul_pos positive (Nat.two_pow_pos shift)), whole]

end Binary64

/-! ## Decimals of one value -/

namespace Decimal

theorem digitCount_ten {digits : Nat} (filled : digits ≠ 0) :
    digitCount (10 * digits) = digitCount digits + 1 := by
  have appended := Nat.toDigits_append_toDigits (b := 10) (d := 0) (by decide)
    (Nat.pos_of_ne_zero filled) (by decide)
  rw [digitCount, ← Nat.add_zero (10 * digits), ← appended, List.length_append]
  rfl

theorem digitCount_shift {digits : Nat} (filled : digits ≠ 0) (count : Nat) :
    digitCount (digits * 10 ^ count) = digitCount digits + count := by
  induction count with
  | zero => simp
  | succ count inductionHypothesis =>
      have filled : digits * 10 ^ count ≠ 0 := Nat.mul_ne_zero filled (Nat.pow_pos (by decide)).ne'
      rw [Nat.pow_succ, ← Nat.mul_assoc, Nat.mul_comm, digitCount_ten filled, inductionHypothesis]
      omega

/-- Zeros at the end of the digits make up for the power of ten. -/
theorem toBinary64_shift (negative : Bool) {digits : Nat} (filled : digits ≠ 0) (exponent : Int)
    (count : Nat) :
    toBinary64 ⟨negative, digits * 10 ^ count, exponent - count⟩ =
      toBinary64 ⟨negative, digits, exponent⟩ := by
  have positive (power : Nat) : 0 < 10 ^ power := Nat.pow_pos (by decide)
  have longer : digits * 10 ^ count ≠ 0 := Nat.mul_ne_zero filled (positive count).ne'
  have size : exponent - count + (digitCount digits + count : Nat) = exponent + digitCount digits := by
    omega
  simp only [toBinary64, if_neg longer, if_neg filled, digitCount_shift filled, size, Nat.pow_eq]
  split
  · rfl
  split
  · rfl
  by_cases whole : 0 ≤ exponent
  · obtain ⟨power, rfl⟩ := Int.eq_ofNat_of_zero_le whole
    rw [if_pos whole]
    split
    · next still =>
        apply Binary64.ofRatio_congr negative Nat.one_pos Nat.one_pos
        have sum : count + ((power : Int) - count).toNat = power := by omega
        rw [Int.toNat_natCast, Nat.mul_assoc digits, ← Nat.pow_add, sum]
    · next below =>
        apply Binary64.ofRatio_congr negative (positive _) Nat.one_pos
        have sum : power + (-((power : Int) - count)).toNat = count := by omega
        rw [Int.toNat_natCast, Nat.mul_one, Nat.mul_assoc digits, ← Nat.pow_add, sum]
  · rw [if_neg whole, if_neg (by omega)]
    apply Binary64.ofRatio_congr negative (positive _) (positive _)
    have sum : (-(exponent - count)).toNat = count + (-exponent).toNat := by omega
    rw [sum, Nat.mul_assoc, ← Nat.pow_add]

/-- A decimal that rounds to a finite number does so with either sign. -/
theorem toBinary64_sign {digits rank : Nat} {exponent : Int} (inRange : rank < finiteCount)
    (rounds : toBinary64 ⟨false, digits, exponent⟩ = .ofRank false rank) (negative : Bool) :
    toBinary64 ⟨negative, digits, exponent⟩ = .ofRank negative rank := by
  have zero (sign : Bool) : Binary64.zero sign = .ofRank sign 0 := by
    rw [Binary64.ofRank, dif_pos (by decide)]
    rfl
  have infinite : Binary64.infinite false ≠ .ofRank false rank := by
    rw [Binary64.ofRank, dif_pos inRange]
    exact nofun
  have injective (other : Nat) (same : Binary64.ofRank false other = .ofRank false rank) :
      other = rank := by
    rw [Binary64.ofRank, Binary64.ofRank, dif_pos inRange] at same
    split at same
    · exact congrArg Fin.val (Binary64.finite.inj same).2
    · exact nomatch same
  simp only [toBinary64, zero] at rounds ⊢
  split at rounds
  · next none => rw [if_pos none, injective 0 rounds]
  next some =>
  rw [if_neg some]
  split at rounds
  · exact absurd rounds infinite
  next few =>
  rw [if_neg few]
  split at rounds
  · next small => rw [if_pos small, injective 0 rounds]
  next many =>
  rw [if_neg many]
  split at rounds
  · next whole => rw [if_pos whole, Binary64.ofRatio, injective _ rounds]
  · next part => rw [if_neg part, Binary64.ofRatio, injective _ rounds]

end Decimal

/-! ## The shortest digits -/

namespace Binary64

theorem units_pos {rank : Nat} (positive : rank ≠ 0) : 0 < units rank := by
  rw [units_eq]
  split
  · exact Nat.pos_of_ne_zero positive
  · exact Nat.mul_pos (by omega) (Nat.two_pow_pos _)

theorem units_lt {rank : Nat} (inRange : rank < finiteCount) : units rank < 2 ^ 53 * 2 ^ 2045 := by
  have below (leading shift power : Nat) (few : leading < 2 ^ 53) (low : shift ≤ power) :
      leading * 2 ^ shift < 2 ^ 53 * 2 ^ power :=
    Nat.mul_lt_mul_of_lt_of_le few (Nat.pow_le_pow_right Nat.two_pos low) (Nat.two_pow_pos _)
  rw [units_eq]
  split
  · next small =>
      rw [← Nat.mul_one rank]
      exact below rank 0 2045 (Nat.lt_trans small (by decide)) (by decide)
  · have digits : rank % 2 ^ 52 < 2 ^ 52 := Nat.mod_lt _ (by decide)
    have shift : rank / 2 ^ 52 < 2047 := Nat.div_lt_of_lt_mul (by rw [Nat.mul_comm]; exact inRange)
    exact below _ _ 2045 (by omega) (by omega)

/-- The digits of a magnitude are neither too many nor too few to be rounded. -/
theorem allDigits_size {rank : Nat} (positive : rank ≠ 0) (inRange : rank < finiteCount) :
    750 < Decimal.digitCount (units rank * 5 ^ 1074) ∧
      Decimal.digitCount (units rank * 5 ^ 1074) ≤ 1383 := by
  have least : 10 ^ 750 ≤ units rank * 5 ^ 1074 := by
    have power : 10 ^ 750 ≤ 5 ^ 1074 := by decide +kernel
    exact Nat.le_trans power (Nat.le_mul_of_pos_left _ (units_pos positive))
  have most : units rank * 5 ^ 1074 < 10 ^ 1383 := by
    have power : 2 ^ 53 * 2 ^ 2045 * 5 ^ 1074 ≤ 10 ^ 1383 := by decide +kernel
    have five (power : Nat) : 0 < 5 ^ power := Nat.pow_pos (by decide)
    exact Nat.lt_of_lt_of_le (Nat.mul_lt_mul_of_pos_right (units_lt inRange) (five 1074)) power
  constructor
  · rw [Decimal.digitCount, ← Nat.not_le, Nat.length_toDigits_le_iff (by decide) (by decide)]
    exact Nat.not_lt.mpr least
  · rw [Decimal.digitCount, Nat.length_toDigits_le_iff (by decide) (by decide)]
    exact most

/-- A decimal fraction that is a magnitude is read as it. -/
theorem toBinary64_exact {digits rank power : Nat} (filled : digits ≠ 0) (positive : 0 < power)
    (least : power ≤ Decimal.digitCount digits + 400)
    (most : Decimal.digitCount digits ≤ power + 400)
    (exact : digits * unit = units rank * 10 ^ power) :
    Decimal.toBinary64 ⟨false, digits, -power⟩ = ofRank false rank := by
  rw [Decimal.toBinary64, if_neg filled]
  simp only [Nat.pow_eq]
  rw [if_neg (by omega), if_neg (by omega), if_neg (by omega), Int.neg_neg, Int.toNat_natCast,
    ofRatio, nearestRank_exact (Nat.pow_pos (by decide)) exact]

/-- All digits of a magnitude are read back without rounding. -/
theorem allDigits_exact {rank : Nat} (positive : rank ≠ 0) (inRange : rank < finiteCount) :
    Decimal.toBinary64 ⟨false, (allDigits rank).1, (allDigits rank).2⟩ = ofRank false rank := by
  obtain ⟨least, most⟩ := allDigits_size positive inRange
  have five (power : Nat) : 0 < 5 ^ power := Nat.pow_pos (by decide)
  have filled : units rank * 5 ^ 1074 ≠ 0 := (Nat.mul_pos (units_pos positive) (five 1074)).ne'
  have rounds (power : Nat) (same : unit = 2 ^ power) (positive : 0 < power)
      (filled : units rank * 5 ^ power ≠ 0)
      (least : power ≤ Decimal.digitCount (units rank * 5 ^ power) + 400)
      (most : Decimal.digitCount (units rank * 5 ^ power) ≤ power + 400) :
      Decimal.toBinary64 ⟨false, units rank * 5 ^ power, -power⟩ = ofRank false rank :=
    toBinary64_exact filled positive least most (by rw [same, Nat.mul_assoc, ← Nat.mul_pow])
  have power : -((1074 : Nat) : Int) = -1074 := rfl
  rw [allDigits, ← power]
  exact rounds 1074 unit_eq (by decide) filled (by omega) (by omega)

theorem trimZeros_shift {digits : Nat} (filled : digits ≠ 0) (exponent : Int) (room : Nat) :
    ∃ count : Nat, digits = (trimZeros digits exponent room).1 * 10 ^ count ∧
      exponent = (trimZeros digits exponent room).2 - count := by
  induction room generalizing digits exponent with
  | zero => exact ⟨0, by simp [trimZeros], by simp [trimZeros]⟩
  | succ room inductionHypothesis =>
      rw [trimZeros]
      split
      · next trims =>
          have tens : digits = digits / 10 * 10 := by omega
          have less : digits / 10 ≠ 0 := by omega
          obtain ⟨count, same, shifted⟩ := inductionHypothesis less (exponent + 1)
          refine ⟨count + 1, ?_, by omega⟩
          rw [Nat.pow_succ, ← Nat.mul_assoc, ← same, ← tens]
      · exact ⟨0, by simp, by simp⟩

theorem search_readsBack {rank : Nat} {point : Int} {count room : Nat} {found : Nat × Int}
    (same : search rank point count room = some found) : readsBack rank found.1 found.2 = true := by
  induction room generalizing count with
  | zero => exact nomatch same
  | succ room inductionHypothesis =>
      rw [search] at same
      split at same
      · next digits near =>
          rw [← Option.some.inj same]
          simp only [neighbour?] at near
          exact (List.find?_some near :)
      · exact inductionHypothesis same

/-- The shortest digits of a magnitude are read back as it. -/
theorem shortest_exact {rank : Nat} (positive : rank ≠ 0) (inRange : rank < finiteCount) :
    (shortest rank).1 ≠ 0 ∧ Decimal.toBinary64 ⟨false, (shortest rank).1, (shortest rank).2⟩ =
      ofRank false rank := by
  obtain ⟨found, same⟩ : ∃ found,
      (search rank (decimalPoint rank) 1 17).getD (allDigits rank) = found := ⟨_, rfl⟩
  have rounds : Decimal.toBinary64 ⟨false, found.1, found.2⟩ = ofRank false rank := by
    cases searched : search rank (decimalPoint rank) 1 17 with
    | none =>
        rw [← same, searched]
        exact allDigits_exact positive inRange
    | some pair =>
        rw [← same, searched]
        exact beq_iff_eq.mp (search_readsBack searched)
  have filled : found.1 ≠ 0 := by
    intro none
    rw [Decimal.toBinary64, if_pos none, ofRank, dif_pos inRange] at rounds
    exact positive (congrArg Fin.val (Binary64.finite.inj rounds).2).symm
  obtain ⟨count, digits, exponent⟩ :=
    trimZeros_shift filled found.2 (Decimal.digitCount found.1)
  have trimmed : shortest rank = trimZeros found.1 found.2 (Decimal.digitCount found.1) := by
    rw [shortest, if_neg positive, same]
  rw [← trimmed] at digits exponent
  have kept : (shortest rank).1 ≠ 0 := by
    intro none
    rw [none, Nat.zero_mul] at digits
    exact filled digits
  refine ⟨kept, ?_⟩
  rw [← Decimal.toBinary64_shift false kept (shortest rank).2 count, ← digits, ← exponent]
  exact rounds

end Binary64

end Tabular