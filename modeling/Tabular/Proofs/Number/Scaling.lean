import Tabular.Proofs.Number.Neighbours

/-!
This module tells what a quotient is after it was rounded, multiplied, rounded again, and cut to an
integer. The digits that are kept at first and the gap of the numbers at the end decide.
-/

namespace Tabular

namespace Binary64

/-! ## Rounded quotients by their digits -/

/-- Digits in steps of a power of two are a magnitude, also where there is one digit more. -/
theorem units_digits {digits : Nat} (shift : Nat) (least : 2 ^ 52 ≤ digits)
    (most : digits ≤ 2 ^ 53) : units (shift * 2 ^ 52 + digits) = digits * 2 ^ shift := by
  rcases Nat.lt_or_eq_of_le most with below | whole
  · have quotient : (shift * 2 ^ 52 + digits) / 2 ^ 52 = shift + 1 := by omega
    have remainder : (shift * 2 ^ 52 + digits) % 2 ^ 52 = digits - 2 ^ 52 := by omega
    rw [units_eq, if_neg (by omega), quotient, remainder, Nat.add_sub_cancel' least,
      Nat.add_sub_cancel]
  · have quotient : (shift * 2 ^ 52 + digits) / 2 ^ 52 = shift + 2 := by omega
    have remainder : (shift * 2 ^ 52 + digits) % 2 ^ 52 = 0 := by omega
    rw [units_eq, if_neg (by omega), quotient, remainder, whole, Nat.add_zero,
      Nat.add_sub_assoc (by decide), Nat.pow_add 2 shift, Nat.mul_comm (2 ^ shift), ← Nat.mul_assoc,
      show 2 ^ 52 * 2 ^ (2 - 1) = 2 ^ 53 by decide]

section Digits

variable {numerator denominator shift : Nat} (positive : 0 < denominator)
  (least : 2 ^ 52 * 2 ^ shift * denominator ≤ numerator * unit)
  (most : numerator * unit < 2 ^ 53 * 2 ^ shift * denominator)

include positive least most

/-- A quotient is rounded to a rank with the digits that its power of two leaves. -/
theorem nearestRank_digits : nearestRank numerator denominator =
    shift * 2 ^ 52 + roundQuotient (numerator * unit) (denominator * 2 ^ shift) := by
  have filled : numerator * unit / denominator ≠ 0 := by
    rw [Nat.div_ne_zero_iff]
    refine ⟨positive.ne', Nat.le_trans ?_ least⟩
    exact Nat.le_mul_of_pos_left _ (Nat.mul_pos (by decide) (Nat.two_pow_pos shift))
  have log : Nat.log2 (numerator * unit / denominator) = 52 + shift := by
    rw [Nat.log2_eq_iff filled, Nat.le_div_iff_mul_le positive, Nat.div_lt_iff_lt_mul positive,
      Nat.pow_add, show 52 + shift + 1 = 53 + shift by omega, Nat.pow_add]
    exact ⟨least, most⟩
  rw [nearestRank_eq, log, Nat.add_sub_cancel_left]

theorem roundQuotient_digits :
    2 ^ 52 ≤ roundQuotient (numerator * unit) (denominator * 2 ^ shift) ∧
      roundQuotient (numerator * unit) (denominator * 2 ^ shift) ≤ 2 ^ 53 := by
  have steps : 0 < denominator * 2 ^ shift := Nat.mul_pos positive (Nat.two_pow_pos shift)
  have low := roundQuotient_mono least (denominator * 2 ^ shift)
  have high := roundQuotient_mono most.le (denominator * 2 ^ shift)
  rw [Nat.mul_assoc, Nat.mul_comm (2 ^ shift), roundQuotient_exact _ steps] at low high
  exact ⟨low, high⟩

/-- The magnitude of a rounded quotient. -/
theorem units_nearestRank : units (nearestRank numerator denominator) =
    roundQuotient (numerator * unit) (denominator * 2 ^ shift) * 2 ^ shift := by
  obtain ⟨low, high⟩ := roundQuotient_digits positive least most
  rw [nearestRank_digits positive least most, units_digits shift low high]

theorem nearestRank_lt (small : shift ≤ 2044) :
    nearestRank numerator denominator < finiteCount := by
  obtain ⟨-, high⟩ := roundQuotient_digits positive least most
  have count : finiteCount = 2047 * 2 ^ 52 := rfl
  rw [nearestRank_digits positive least most, count]
  omega

end Digits

/-! ## Rounding to an even number -/

/-- Where a rounded quotient is divided by an even number, a tie may as well be rounded up. -/
theorem roundQuotient_div_even (numerator : Nat) {half : Nat} (positive : 0 < half) (count : Nat) :
    roundQuotient numerator (2 * half) / (2 * count) =
      (numerator + half) / (2 * half * (2 * count)) := by
  suffices halves : roundQuotient numerator (2 * half) / 2 = (numerator + half) / (2 * half) / 2 by
    rw [← Nat.div_div_eq_div_mul, halves, Nat.div_div_eq_div_mul, Nat.div_div_eq_div_mul,
      Nat.mul_assoc]
  have steps : 0 < 2 * half := by omega
  have parts := Nat.div_add_mod numerator (2 * half)
  have remainder := Nat.mod_lt numerator steps
  simp only [roundQuotient]
  generalize numerator / (2 * half) = quotient at *
  generalize numerator % (2 * half) = rest at *
  have up (bound : half ≤ rest) : (numerator + half) / (2 * half) = quotient + 1 := by
    rw [← parts, Nat.add_assoc, Nat.mul_add_div steps,
      show rest + half = 2 * half + (rest - half) by omega, Nat.add_div_left _ steps,
      Nat.div_eq_of_lt (by omega)]
  split
  · next less =>
      have down : rest + half < 2 * half := by omega
      rw [← parts, Nat.add_assoc, Nat.mul_add_div steps, Nat.div_eq_of_lt down, Nat.add_zero]
  split
  · next more => rw [up (by omega)]
  · -- A tie is rounded to the even quotient, and the odd one above it has the same half.
    rw [up (by omega)]
    omega

/-! ## Products of rounded quotients -/

theorem unit_split {places shift : Nat} (sum : places + shift = 1074) :
    unit = 2 ^ places * 2 ^ shift := by
  rw [← Nat.one_mul unit, ← Nat.pow_zero 2, pow_mul_unit 0 places shift (by omega)]

/-- This is half of the gap between the numbers about a thousandfold, in steps of the digits. -/
def halfGap (thousandfold : Nat) : Nat := if thousandfold < 2 ^ 62 then 2 ^ 8 else 2 ^ 9

/-- A magnitude is multiplied by a thousand, rounded, and cut to an integer. -/
theorem units_thousandfold {digits places shift : Nat} (least : 2 ^ 52 ≤ digits)
    (most : digits ≤ 2 ^ 53) (sum : places + shift = 1074) (room : 10 < places) :
    nearestRank (digits * 2 ^ shift * 1000) unit < finiteCount ∧
      units (nearestRank (digits * 2 ^ shift * 1000) unit) / unit =
        (1000 * digits + halfGap (1000 * digits)) / 2 ^ places := by
  obtain ⟨gap, wide, low, high, half⟩ : ∃ gap, gap ≤ 9 ∧ 2 ^ 52 * 2 ^ (gap + 1) ≤ 1000 * digits ∧
      1000 * digits < 2 ^ 53 * 2 ^ (gap + 1) ∧ halfGap (1000 * digits) = 2 ^ gap := by
    by_cases short : 1000 * digits < 2 ^ 62
    · exact ⟨8, by decide, by omega, by omega, if_pos short⟩
    · exact ⟨9, by decide, by omega, by omega, if_neg short⟩
  obtain ⟨rest, split⟩ : ∃ rest, places = gap + 1 + (rest + 1) := ⟨places - gap - 2, by omega⟩
  have steps : 0 < 2 ^ shift * unit := Nat.mul_pos (Nat.two_pow_pos shift) unit_pos
  have product : digits * 2 ^ shift * 1000 * unit = 1000 * digits * (2 ^ shift * unit) := by
    rw [Nat.mul_comm _ 1000, ← Nat.mul_assoc, Nat.mul_assoc]
  have powers (count : Nat) :
      count * 2 ^ (gap + 1 + shift) * unit = count * 2 ^ (gap + 1) * (2 ^ shift * unit) := by
    rw [Nat.pow_add 2 (gap + 1), ← Nat.mul_assoc, Nat.mul_assoc]
  have reaches : 2 ^ 52 * 2 ^ (gap + 1 + shift) * unit ≤ digits * 2 ^ shift * 1000 * unit := by
    rw [powers, product]
    exact Nat.mul_le_mul_right _ low
  have below : digits * 2 ^ shift * 1000 * unit < 2 ^ 53 * 2 ^ (gap + 1 + shift) * unit := by
    rw [powers, product]
    exact Nat.mul_lt_mul_of_pos_right high steps
  refine ⟨nearestRank_lt unit_pos reaches below (by omega), ?_⟩
  have rounds : roundQuotient (digits * 2 ^ shift * 1000 * unit) (unit * 2 ^ (gap + 1 + shift)) =
      roundQuotient (1000 * digits) (2 * 2 ^ gap) := by
    rw [product, Nat.mul_comm unit, ← Nat.one_mul (2 ^ (gap + 1 + shift)), powers, Nat.one_mul,
      roundQuotient_scale _ _ steps, Nat.pow_succ']
  have whole : unit = 2 ^ (rest + 1) * 2 ^ (gap + 1 + shift) := unit_split (by omega)
  have cut (count : Nat) : count * 2 ^ (gap + 1 + shift) / unit = count / (2 * 2 ^ rest) := by
    rw [whole, Nat.mul_div_mul_right _ _ (Nat.two_pow_pos _), Nat.pow_succ']
  rw [units_nearestRank unit_pos reaches below, rounds, cut,
    roundQuotient_div_even _ (Nat.two_pow_pos gap), half, split, Nat.pow_add 2 (gap + 1),
    Nat.pow_succ', Nat.pow_succ']

/-- A quotient is rounded, multiplied by a thousand, rounded again, and cut to an integer. -/
theorem truncate?_thousandfold (negative : Bool) {numerator denominator places : Nat}
    (positive : 0 < denominator) (least : 2 ^ 52 * denominator ≤ numerator * 2 ^ places)
    (most : numerator * 2 ^ places < 2 ^ 53 * denominator) (room : 10 < places)
    (few : places ≤ 1074) {digits : Nat}
    (rounds : roundQuotient (numerator * 2 ^ places) denominator = digits) :
    ((ofRatio negative numerator denominator).scale 1000).truncate? =
      some (if negative then -(((1000 * digits + halfGap (1000 * digits)) / 2 ^ places : Nat) : Int)
        else ((1000 * digits + halfGap (1000 * digits)) / 2 ^ places : Nat)) := by
  obtain ⟨shift, sum⟩ : ∃ shift, places + shift = 1074 := ⟨1074 - places, by omega⟩
  have steps := Nat.two_pow_pos shift
  have scaled : numerator * unit = numerator * 2 ^ places * 2 ^ shift := by
    rw [unit_split sum, Nat.mul_assoc]
  have reaches : 2 ^ 52 * 2 ^ shift * denominator ≤ numerator * unit := by
    rw [scaled, Nat.mul_right_comm (2 ^ 52)]
    exact Nat.mul_le_mul_right _ least
  have below : numerator * unit < 2 ^ 53 * 2 ^ shift * denominator := by
    rw [scaled, Nat.mul_right_comm (2 ^ 53)]
    exact Nat.mul_lt_mul_of_pos_right most steps
  have same : roundQuotient (numerator * unit) (denominator * 2 ^ shift) = digits := by
    rw [scaled, roundQuotient_scale _ _ steps, rounds]
  have inRange := nearestRank_lt positive reaches below (by omega)
  have magnitude := units_nearestRank positive reaches below
  obtain ⟨low, high⟩ := roundQuotient_digits positive reaches below
  rw [same] at magnitude low high
  obtain ⟨finite, whole⟩ := units_thousandfold low high sum room
  rw [ofRatio, ofRank, dif_pos inRange, scale]
  dsimp only
  rw [magnitude, ofRatio, ofRank, dif_pos finite, truncate?]
  dsimp only
  rw [whole]

end Binary64

end Tabular
