import Tabular.Parameter
import Tabular.Proofs.Number.Scaling

/-!
This module tells which moments keep their millisecond when they are stored. The seconds of a moment
are rounded to a number, which is multiplied by a thousand with rounding and cut to an integer, so a
moment loses a millisecond where the first rounding goes down by more than the second one makes up.
-/

namespace Tabular

/-! ## Valid moments -/

namespace Date

/-- No month has more than 31 days. -/
theorem monthLength_le (year month : Nat) : monthLength year month ≤ 31 := by
  rw [monthLength]
  split
  · split <;> decide
  · split <;> decide

/-- A valid date has a year of at most four digits. -/
structure Valid (date : Date) : Prop where
  unproblematic : date.problem? = none
  year : date.year ≤ 9999

/-- The parts of a valid date lie in their ranges. -/
theorem Valid.ranges {date : Date} (valid : date.Valid) :
    1 ≤ date.year ∧ 1 ≤ date.month ∧ date.month ≤ 12 ∧ 1 ≤ date.day ∧ date.day ≤ 31 := by
  have unproblematic := valid.unproblematic
  have length := monthLength_le date.year date.month
  simp only [problem?, Bool.or_eq_true, decide_eq_true_eq] at unproblematic
  split at unproblematic
  · exact nomatch unproblematic
  split at unproblematic
  · exact nomatch unproblematic
  split at unproblematic
  · exact nomatch unproblematic
  · omega

/-- A valid date is less than three million days from the epoch. -/
theorem Valid.days {date : Date} (valid : date.Valid) :
    -719162 ≤ date.days ∧ date.days ≤ 2932896 := by
  obtain ⟨leastYear, leastMonth, mostMonth, leastDay, mostDay⟩ := valid.ranges
  have mostYear := valid.year
  simp only [Date.days]
  split <;> omega

end Date

namespace Moment

/-- A valid moment has a valid date and time, and less than one day of offset. -/
structure Valid (moment : Moment) : Prop where
  date : moment.date.Valid
  unproblematic : moment.problem? = none
  microsecond : moment.microsecond < 1000000
  offset : (moment.offset.getD 0).natAbs < 1440

/-- The parts of a valid time lie in their ranges. -/
theorem Valid.ranges {moment : Moment} (valid : moment.Valid) :
    moment.hour < 24 ∧ moment.minute < 60 ∧ moment.second < 60 := by
  have unproblematic := valid.unproblematic
  rw [problem?, valid.date.unproblematic] at unproblematic
  dsimp only at unproblematic
  split at unproblematic
  · exact nomatch unproblematic
  split at unproblematic
  · exact nomatch unproblematic
  split at unproblematic
  · exact nomatch unproblematic
  · omega

/-- A valid moment is fewer than `2 ^ 38` seconds from the epoch. -/
theorem Valid.few {moment : Moment} (valid : moment.Valid) :
    moment.microseconds.natAbs < 2 ^ 38 * 1000000 := by
  obtain ⟨hour, minute, second⟩ := valid.ranges
  have days := valid.date.days
  have microsecond := valid.microsecond
  have offset := valid.offset
  rw [microseconds]
  omega

/-! ## The digits of the seconds -/

/-- This function gives the binary places that are left for the fraction of the seconds. -/
def places (count : Nat) : Nat := 72 - Nat.log2 (count * 2 ^ 20 / 1000000)

/-- This function gives the digits of the seconds, from a count of microseconds. -/
def digits (count : Nat) : Nat := Binary64.roundQuotient (count * 2 ^ places count) 1000000

/-- The places are chosen so that the seconds fill the 53 digits of a float. -/
theorem places_bounds {count : Nat} (positive : 0 < count) (few : count < 2 ^ 38 * 1000000) :
    14 < places count ∧ places count ≤ 72 ∧ 2 ^ 52 * 1000000 ≤ count * 2 ^ places count ∧
      count * 2 ^ places count < 2 ^ 53 * 1000000 := by
  have filled : count * 2 ^ 20 / 1000000 ≠ 0 := by omega
  have least := Nat.log2_self_le filled
  have most := Nat.lt_log2_self (n := count * 2 ^ 20 / 1000000)
  have small : Nat.log2 (count * 2 ^ 20 / 1000000) < 58 := (Nat.log2_lt filled).mpr (by omega)
  rw [places]
  generalize Nat.log2 (count * 2 ^ 20 / 1000000) = power at *
  obtain ⟨places, sum⟩ : ∃ places, places + power = 72 := ⟨72 - power, by omega⟩
  rw [show 72 - power = places by omega]
  have scaled (more : Nat) :
      2 ^ places * (2 ^ (power + more) * 1000000) = 2 ^ (72 + more) * 1000000 := by
    rw [← Nat.mul_assoc, ← Nat.pow_add, ← Nat.add_assoc, sum]
  have product : 2 ^ places * (count * 2 ^ 20) = count * 2 ^ places * 2 ^ 20 := by
    rw [← Nat.mul_assoc, Nat.mul_comm _ count]
  have low : 2 ^ places * (2 ^ (power + 0) * 1000000) ≤ 2 ^ places * (count * 2 ^ 20) :=
    Nat.mul_le_mul_left _ (by rw [Nat.add_zero]; omega)
  have high : 2 ^ places * (count * 2 ^ 20) < 2 ^ places * (2 ^ (power + 1) * 1000000) :=
    Nat.mul_lt_mul_of_pos_left (by omega) (Nat.two_pow_pos places)
  rw [scaled, product] at low high
  omega

/-- Early moments leave at least 20 places for the fraction. -/
theorem places_wide {count : Nat} (early : count < 2 ^ 33 * 1000000) : 20 ≤ places count := by
  rw [places]
  by_cases filled : count * 2 ^ 20 / 1000000 = 0
  · rw [filled]; decide
  · have small : Nat.log2 (count * 2 ^ 20 / 1000000) < 53 := (Nat.log2_lt filled).mpr (by omega)
    omega

/-- This function gives the milliseconds that are stored for a count of microseconds. -/
def storedCount (count : Nat) : Nat :=
  (1000 * digits count + Binary64.halfGap (1000 * digits count)) / 2 ^ places count

/-- The milliseconds are cut from the digits of the seconds, with the sign of the moment. -/
theorem milliseconds_eq {moment : Moment} (few : moment.microseconds.natAbs < 2 ^ 38 * 1000000) :
    moment.milliseconds = moment.microseconds.sign * storedCount moment.microseconds.natAbs := by
  rw [milliseconds, seconds]
  generalize moment.microseconds = count at *
  rcases Int.lt_trichotomy count 0 with negative | rfl | positive
  · obtain ⟨wide, narrow, least, most⟩ := places_bounds (Int.natAbs_pos.mpr negative.ne) few
    rw [Binary64.truncate?_thousandfold _ (by decide) least most (by omega) (by omega) rfl,
      Option.getD_some, if_pos (by simpa using negative), Int.sign_eq_neg_one_of_neg negative,
      Int.neg_one_mul]
    rfl
  · decide +kernel
  · obtain ⟨wide, narrow, least, most⟩ := places_bounds (Int.natAbs_pos.mpr positive.ne') few
    rw [Binary64.truncate?_thousandfold _ (by decide) least most (by omega) (by omega) rfl,
      Option.getD_some, if_neg (by simp; omega), Int.sign_eq_one_of_pos positive, Int.one_mul]
    rfl

/-! ## Whole milliseconds -/

/-- A count of whole milliseconds slips where the seconds are less than 1.024 times a power of two
and are rounded down by more than a quarter of a step, but by less than half of one. -/
def Slips (count : Nat) : Prop :=
  count % 1000 = 0 ∧ count / 1000 * 2 ^ places count < 2 ^ 62 ∧
    256 < count / 1000 * 2 ^ places count % 1000 ∧ count / 1000 * 2 ^ places count % 1000 < 500

instance (count : Nat) : Decidable (Slips count) := inferInstanceAs (Decidable (_ ∧ _))

/-- A count is stored as a whole number exactly when the two roundings lead there. -/
theorem storedCount_eq_iff {count whole : Nat} : storedCount count = whole ↔
    whole * 2 ^ places count ≤ 1000 * digits count + Binary64.halfGap (1000 * digits count) ∧
      1000 * digits count + Binary64.halfGap (1000 * digits count) <
        whole * 2 ^ places count + 2 ^ places count := by
  have steps := Nat.two_pow_pos (places count)
  rw [storedCount, Nat.div_eq_iff steps]
  omega

/-- Whole milliseconds are stored as they are, or as one less where they slip. -/
theorem storedCount_whole {count : Nat} (positive : 0 < count) (few : count < 2 ^ 38 * 1000000)
    (whole : count % 1000 = 0) :
    storedCount count = if Slips count then count / 1000 - 1 else count / 1000 := by
  obtain ⟨wide, -, -, -⟩ := places_bounds positive few
  obtain ⟨rest, split⟩ : ∃ rest, places count = rest + 15 := ⟨places count - 15, by omega⟩
  have steps : 32768 ≤ 2 ^ places count := by
    rw [split, Nat.pow_add]
    exact Nat.le_mul_of_pos_left _ (Nat.two_pow_pos rest)
  have scaled : count * 2 ^ places count = 1000 * (count / 1000 * 2 ^ places count) := by
    rw [← Nat.mul_assoc, Nat.mul_div_cancel' (Nat.dvd_of_mod_eq_zero whole)]
  -- A number of steps is no odd multiple of four, so there is no tie at half a thousand of them.
  have eighth : count / 1000 * 2 ^ places count % 8 = 0 := by
    rw [split, Nat.pow_add, ← Nat.mul_assoc]
    exact Nat.mod_eq_zero_of_dvd (Nat.dvd_mul_left_of_dvd (by decide) _)
  have before : (count / 1000 - 1) * 2 ^ places count =
      count / 1000 * 2 ^ places count - 2 ^ places count := by
    rw [Nat.sub_mul, Nat.one_mul]
  have least : 2 ^ places count ≤ count / 1000 * 2 ^ places count :=
    Nat.le_mul_of_pos_left _ (by omega)
  rw [storedCount_eq_iff]
  simp only [Slips, digits, Binary64.roundQuotient, Binary64.halfGap, scaled, whole, true_and]
  generalize 2 ^ places count = step at *
  generalize product : count / 1000 * step = amount at *
  by_cases slips : amount < 2 ^ 62 ∧ 256 < amount % 1000 ∧ amount % 1000 < 500
  · rw [if_pos slips, before]
    rw [if_pos (by omega), if_pos (by omega)]
    omega
  · rw [if_neg slips, product]
    by_cases down : amount % 1000 < 500
    · rw [if_pos (by omega)]
      split <;> omega
    · rw [if_neg (by omega), if_pos (by omega)]
      split <;> omega

/-- Whole seconds never slip. -/
theorem not_slips_of_seconds {count : Nat} (whole : count % 1000000 = 0) : ¬ Slips count := by
  rintro ⟨-, -, more, -⟩
  rw [Nat.mul_mod, show count / 1000 % 1000 = 0 by omega, Nat.zero_mul, Nat.zero_mod] at more
  omega

/-! ## Parts of milliseconds -/

/-- A count is its milliseconds and the rest, in steps of the last place. -/
theorem steps_parts (count : Nat) :
    1000 * (count / 1000 * 2 ^ places count) + count % 1000 * 2 ^ places count =
      count * 2 ^ places count := by
  rw [← Nat.mul_assoc, ← Nat.add_mul, Nat.div_add_mod]

/-- The roundings of a count stay within its millisecond. The first one errs by some millionths of a
step, and the second one adds half a gap. -/
def Within (count : Nat) : Prop :=
  let error : Int := (1000000 * digits count : Nat) - (count * 2 ^ places count : Nat)
  let reached : Int := (count % 1000 * 2 ^ places count : Nat) + error +
    1000 * (Binary64.halfGap (1000 * digits count) : Nat)
  0 ≤ reached ∧ reached < 1000 * (2 ^ places count : Nat)

instance (count : Nat) : Decidable (Within count) := inferInstanceAs (Decidable (_ ∧ _))

/-- A count keeps its millisecond exactly when its roundings stay within it. -/
theorem storedCount_within {count : Nat} : storedCount count = count / 1000 ↔ Within count := by
  have parts := steps_parts count
  rw [storedCount_eq_iff, Within]
  generalize count / 1000 * 2 ^ places count = whole at *
  generalize count % 1000 * 2 ^ places count = part at *
  omega

/-- For more than two centuries, a moment between two milliseconds keeps the one that it is in. -/
theorem storedCount_early {count : Nat} (early : count < 2 ^ 33 * 1000000)
    (part : count % 1000 ≠ 0) : storedCount count = count / 1000 := by
  obtain ⟨rest, split⟩ : ∃ rest, places count = rest + 20 :=
    ⟨places count - 20, by have wide := places_wide early; omega⟩
  have steps : 1048576 ≤ 2 ^ places count := by
    rw [split, Nat.pow_add]
    exact Nat.le_mul_of_pos_left _ (Nat.two_pow_pos rest)
  have parts := steps_parts count
  have above : 1 * 2 ^ places count ≤ count % 1000 * 2 ^ places count :=
    Nat.mul_le_mul_right _ (by omega)
  have below : count % 1000 * 2 ^ places count ≤ 999 * 2 ^ places count :=
    Nat.mul_le_mul_right _ (by omega)
  have gap : Binary64.halfGap (1000 * digits count) ≤ 512 := by
    rw [Binary64.halfGap]
    split <;> decide
  rw [storedCount_eq_iff]
  generalize Binary64.halfGap (1000 * digits count) = half at *
  rw [digits]
  generalize count / 1000 * 2 ^ places count = whole at *
  generalize count % 1000 * 2 ^ places count = part at *
  generalize count * 2 ^ places count = amount at *
  generalize 2 ^ places count = step at *
  simp only [Binary64.roundQuotient]
  split
  · omega
  · split <;> omega

/-! ## Stored moments -/

/-- A count of microseconds keeps its millisecond. -/
def Keeps (count : Nat) : Prop :=
  if count % 1000 = 0 then ¬ Slips count else count < 2 ^ 33 * 1000000 ∨ Within count

instance (count : Nat) : Decidable (Keeps count) := inferInstanceAs (Decidable (ite _ _ _))

/-- The milliseconds of a count are stored exactly when the count keeps its millisecond. -/
theorem storedCount_keeps {count : Nat} (few : count < 2 ^ 38 * 1000000) :
    storedCount count = count / 1000 ↔ Keeps count := by
  rw [Keeps]
  by_cases whole : count % 1000 = 0
  · rw [if_pos whole]
    rcases Nat.eq_zero_or_pos count with rfl | positive
    · decide +kernel
    · rw [storedCount_whole positive few whole]
      split
      · next slips => simp only [slips, not_true_eq_false, iff_false]; omega
      · next keeps => simp only [keeps, not_false_eq_true]
  · rw [if_neg whole]
    constructor
    · exact fun kept => .inr (storedCount_within.mp kept)
    · rintro (early | within)
      · exact storedCount_early early whole
      · exact storedCount_within.mpr within

/-- The millisecond that a moment of whole milliseconds loses, with the sign of the moment. -/
def slip (moment : Moment) : Int :=
  if Slips moment.microseconds.natAbs then moment.microseconds.sign else 0

/-- The milliseconds of a moment are cut towards the epoch. -/
theorem microseconds_tdiv (moment : Moment) : moment.microseconds.tdiv 1000 =
    moment.microseconds.sign * (moment.microseconds.natAbs / 1000 : Nat) := by
  cases moment.microseconds with
  | ofNat count =>
      cases count with
      | zero => rfl
      | succ count => exact (Int.one_mul _).symm
  | negSucc count => exact (Int.neg_one_mul _).symm

/-- A valid moment is stored exactly when its count keeps its millisecond. -/
theorem Valid.milliseconds_exact_iff {moment : Moment} (valid : moment.Valid) :
    moment.milliseconds = moment.microseconds.tdiv 1000 ↔ Keeps moment.microseconds.natAbs := by
  rw [milliseconds_eq valid.few, microseconds_tdiv, ← storedCount_keeps valid.few]
  by_cases start : moment.microseconds = 0
  · rw [start]
    decide +kernel
  · rw [Int.mul_eq_mul_left_iff (mt Int.sign_eq_zero_iff_zero.mp start), Int.natCast_inj]

/-- Moments of whole milliseconds are stored without the millisecond that they lose. -/
theorem Valid.milliseconds_whole {moment : Moment} (valid : moment.Valid)
    (whole : moment.microseconds % 1000 = 0) :
    1000 * (moment.milliseconds + moment.slip) = moment.microseconds := by
  have sign := Int.sign_mul_natAbs moment.microseconds
  rw [milliseconds_eq valid.few, slip]
  by_cases start : moment.microseconds = 0
  · rw [start]
    decide +kernel
  have positive : 0 < moment.microseconds.natAbs := Int.natAbs_pos.mpr start
  rw [storedCount_whole positive valid.few (by omega)]
  rcases Int.lt_trichotomy moment.microseconds 0 with negative | same | later
  · rw [Int.sign_eq_neg_one_of_neg negative]
    split <;> omega
  · exact absurd same start
  · rw [Int.sign_eq_one_of_pos later]
    split <;> omega

/-- A moment is stored as its exact milliseconds without their fraction iff it keeps its
millisecond, and two moments of whole milliseconds keep their distance iff they lose the same. -/
theorem stored_exact_iff {moment other : Moment} (valid : moment.Valid) (otherValid : other.Valid) :
    (Value.stored (.moment moment) = .ok (.int (moment.microseconds.tdiv 1000)) ↔
      Keeps moment.microseconds.natAbs) ∧
    (moment.microseconds % 1000 = 0 → other.microseconds % 1000 = 0 →
      ((∃ stored, Value.stored (.moment moment) = .ok (.int stored) ∧
        Value.stored (.moment other) =
          .ok (.int (stored + (other.microseconds - moment.microseconds) / 1000))) ↔
        moment.slip = other.slip)) := by
  have form (moment : Moment) (count : Int) :
      Value.stored (.moment moment) = .ok (.int count) ↔ moment.milliseconds = count := by
    rw [Value.stored]
    exact ⟨fun same => by injection same with same; injection same, fun same => same ▸ rfl⟩
  refine ⟨(form _ _).trans valid.milliseconds_exact_iff, fun whole otherWhole => ?_⟩
  have first := valid.milliseconds_whole whole
  have second := otherValid.milliseconds_whole otherWhole
  simp only [form, exists_eq_left']
  omega

/-- This is one second and some milliseconds after the start of 1970. -/
def startup (milliseconds : Nat) : Moment := ⟨⟨1970, 1, 1⟩, 0, 0, 1, milliseconds * 1000, none⟩

/-- The first second after the epoch is stored exactly, and one millisecond later is lost. -/
theorem stored_exact_iff_startup : (startup 0).Valid ∧ (startup 1).Valid ∧
    Value.stored (.moment (startup 0)) = .ok (.int 1000) ∧
    ¬ ∃ stored, Value.stored (.moment (startup 0)) = .ok (.int stored) ∧
      Value.stored (.moment (startup 1)) = .ok (.int (stored + 1)) := by
  have valid : (startup 0).Valid := ⟨⟨by decide, by decide⟩, by decide, by decide, by decide⟩
  have otherValid : (startup 1).Valid := ⟨⟨by decide, by decide⟩, by decide, by decide, by decide⟩
  obtain ⟨exact, distance⟩ := stored_exact_iff valid otherValid
  refine ⟨valid, otherValid, exact.mpr (by decide +kernel), fun kept => ?_⟩
  exact absurd ((distance (by decide) (by decide)).mp kept) (by decide +kernel)

/-- The first millisecond after the first second of 1970 is stored as that second. -/
theorem stored_slips : (startup 1).microseconds.tdiv 1000 = 1001 ∧
    Value.stored (.moment (startup 1)) = .ok (.int 1000) ∧
    Value.stored (.moment (startup 0)) = .ok (.int 1000) := by
  decide +kernel

/-- The midnight of a valid date is valid. -/
theorem Valid.midnight {date : Date} (valid : date.Valid) : (midnight date).Valid where
  date := valid
  unproblematic := by rw [problem?, Moment.midnight, valid.unproblematic]; rfl
  microsecond := show 0 < 1000000 by decide
  offset := show (0 : Int).natAbs < 1440 by decide

end Moment

/-- A date is stored as the exact milliseconds of its midnight. -/
theorem Date.Valid.stored {date : Date} (valid : date.Valid) :
    Value.stored (.date date) = .ok (.int (86400000 * date.days)) := by
  have count : (Moment.midnight date).microseconds = 86400000000 * date.days := by
    simp only [Moment.midnight, Moment.microseconds, Option.getD_some]
    omega
  have whole : (Moment.midnight date).microseconds.natAbs % 1000000 = 0 := by omega
  have keeps : Moment.Keeps (Moment.midnight date).microseconds.natAbs := by
    rw [Moment.Keeps, if_pos (by omega)]
    exact Moment.not_slips_of_seconds whole
  have days : (86400000000 * date.days).tdiv 1000 = 86400000 * date.days := by
    rw [show (86400000000 : Int) = 86400000 * 1000 by decide, Int.mul_right_comm,
      Int.mul_tdiv_cancel _ (by decide)]
  rw [Value.stored, (Moment.Valid.midnight valid).milliseconds_exact_iff.mpr keeps, count, days]
  rfl

end Tabular
