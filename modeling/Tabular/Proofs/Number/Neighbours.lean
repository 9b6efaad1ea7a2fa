import Tabular.Proofs.Number.Rounding

/-!
This module tells which integers are rounded to the same number. Rounding keeps the order of integers, so
an integer is the only one that is rounded to its number where its two neighbours are not.
-/

namespace Tabular

namespace Binary64

/-! ## The order of rounded quotients -/

theorem roundQuotient_bounds (numerator denominator : Nat) :
    numerator / denominator ≤ roundQuotient numerator denominator ∧
      roundQuotient numerator denominator ≤ numerator / denominator + 1 := by
  simp only [roundQuotient]
  split
  · omega
  split <;> omega

theorem roundQuotient_mono {first second : Nat} (least : first ≤ second) (denominator : Nat) :
    roundQuotient first denominator ≤ roundQuotient second denominator := by
  have order := Nat.div_le_div_right (c := denominator) least
  by_cases same : first / denominator = second / denominator
  · have parts := Nat.div_add_mod first denominator
    have others := Nat.div_add_mod second denominator
    rw [same] at parts
    simp only [roundQuotient, same]
    split
    · split
      · omega
      split <;> omega
    split
    · rw [if_neg (by omega), if_pos (by omega)]
    · rw [if_neg (by omega)]
      split <;> omega
  · have below := (roundQuotient_bounds first denominator).2
    have above := (roundQuotient_bounds second denominator).1
    omega

/-! ## Ranks of integers -/

section Ranked

variable {n power : Nat}

/-- The rank of an integer is made of its power of two and of its rounded digits. -/
theorem nearestRank_log (least : 2 ^ power ≤ n) (most : n < 2 ^ (power + 1)) {shift : Nat}
    (sum : power + 1074 = 52 + shift) :
    nearestRank n 1 = shift * 2 ^ 52 + roundQuotient (n * unit) (2 ^ shift) := by
  have positive : 0 < n := Nat.lt_of_lt_of_le (Nat.two_pow_pos _) least
  have log (bits : Nat) (same : unit = 2 ^ bits) : Nat.log2 (n * unit / 1) = power + bits := by
    rw [Nat.div_one, same, Nat.log2_eq_iff (Nat.mul_pos positive (Nat.two_pow_pos bits)).ne']
    constructor
    · rw [Nat.pow_add]
      exact Nat.mul_le_mul_right _ least
    · rw [Nat.add_right_comm, Nat.pow_add]
      exact Nat.mul_lt_mul_of_pos_right most (Nat.two_pow_pos bits)
  rw [nearestRank_eq, log 1074 unit_eq, Nat.one_mul, sum, Nat.add_sub_cancel_left]

/-- A power of two in units is a power of two in steps of the digits. -/
theorem pow_mul_unit (power digits shift : Nat) (sum : power + 1074 = digits + shift) :
    2 ^ power * unit = 2 ^ digits * 2 ^ shift := by
  have powers (bits : Nat) (same : unit = 2 ^ bits) (sum : power + bits = digits + shift) :
      2 ^ power * unit = 2 ^ digits * 2 ^ shift := by
    rw [same, ← Nat.pow_add, ← Nat.pow_add, sum]
  exact powers 1074 unit_eq sum

theorem nearestRank_between (power : Nat) (least : 2 ^ power ≤ n) (most : n < 2 ^ (power + 1)) :
    (power + 1023) * 2 ^ 52 ≤ nearestRank n 1 ∧ nearestRank n 1 ≤ (power + 1024) * 2 ^ 52 := by
  obtain ⟨shift, sum⟩ : ∃ shift, power + 1074 = 52 + shift := ⟨power + 1022, by omega⟩
  have steps := Nat.two_pow_pos shift
  have low : 2 ^ 52 ≤ roundQuotient (n * unit) (2 ^ shift) := by
    rw [← roundQuotient_exact (2 ^ 52) steps, ← pow_mul_unit _ _ _ sum]
    exact roundQuotient_mono (Nat.mul_le_mul_right _ least) _
  have high : roundQuotient (n * unit) (2 ^ shift) ≤ 2 ^ 53 := by
    rw [← roundQuotient_exact (2 ^ 53) steps, ← pow_mul_unit (power + 1) 53 shift (by omega)]
    exact roundQuotient_mono (Nat.mul_le_mul_right _ most.le) _
  rw [nearestRank_log least most sum, show power + 1023 = shift + 1 by omega,
    show power + 1024 = shift + 2 by omega]
  constructor <;> omega

/-- A small integer is not rounded. -/
theorem nearestRank_few {rest : Nat} (few : power + rest = 52) (least : 2 ^ power ≤ n)
    (most : n < 2 ^ (power + 1)) :
    nearestRank n 1 = (power + 1022) * 2 ^ 52 + n * 2 ^ rest := by
  obtain ⟨shift, sum⟩ : ∃ shift, power + 1074 = 52 + shift := ⟨power + 1022, by omega⟩
  have exact : n * unit = n * 2 ^ rest * 2 ^ shift := by
    rw [← Nat.one_mul unit, ← Nat.pow_zero 2, pow_mul_unit 0 rest shift (by omega), Nat.mul_assoc]
  rw [nearestRank_log least most sum, exact, roundQuotient_exact _ (Nat.two_pow_pos _)]
  omega

/-- A large integer is rounded to a multiple of a power of two, also where it is the next one. -/
theorem nearestRank_many (rest : Nat) (many : power = 52 + rest) (least : 2 ^ power ≤ n)
    (most : n ≤ 2 ^ (power + 1)) :
    nearestRank n 1 = (power + 1022) * 2 ^ 52 + roundQuotient n (2 ^ rest) := by
  have below (power rest : Nat) (many : power = 52 + rest) (least : 2 ^ power ≤ n)
      (most : n < 2 ^ (power + 1)) :
      nearestRank n 1 = (power + 1022) * 2 ^ 52 + roundQuotient n (2 ^ rest) := by
    obtain ⟨shift, sum⟩ : ∃ shift, power + 1074 = 52 + shift := ⟨power + 1022, by omega⟩
    have scaled : 2 ^ shift = 2 ^ rest * unit := by
      rw [pow_mul_unit rest 0 shift (by omega), Nat.pow_zero, Nat.one_mul]
    rw [nearestRank_log least most sum, scaled, roundQuotient_scale _ _ unit_pos]
    omega
  rcases Nat.lt_or_eq_of_le most with most | whole
  · exact below power rest many least most
  · have split (digits shift : Nat) (sum : power + 1 = digits + shift) :
        roundQuotient n (2 ^ shift) = 2 ^ digits := by
      rw [whole, sum, Nat.pow_add, roundQuotient_exact _ (Nat.two_pow_pos shift)]
    rw [below (power + 1) (rest + 1) (by omega) whole.ge
      (whole ▸ Nat.pow_lt_pow_succ (by decide)), split 52 _ (by omega), split 53 _ (by omega)]
    omega

end Ranked

theorem nearestRank_zero : nearestRank 0 1 = 0 := by
  rw [nearestRank_eq, Nat.zero_mul, Nat.zero_div]
  decide

/-- Rounding keeps the order of integers. -/
theorem nearestRank_mono {first second : Nat} (order : first ≤ second) :
    nearestRank first 1 ≤ nearestRank second 1 := by
  by_cases zero : first = 0
  · rw [zero, nearestRank_zero]
    exact Nat.zero_le _
  have filled : second ≠ 0 := by omega
  have least := Nat.log2_self_le zero
  have most := Nat.lt_log2_self (n := first)
  have leastSecond := Nat.log2_self_le filled
  have mostSecond := Nat.lt_log2_self (n := second)
  have powers : Nat.log2 first ≤ Nat.log2 second :=
    (Nat.le_log2 filled).mpr (Nat.le_trans least order)
  rcases Nat.lt_or_eq_of_le powers with less | same
  · have below := (nearestRank_between _ least most).2
    have above := (nearestRank_between _ leastSecond mostSecond).1
    omega
  · obtain ⟨shift, sum⟩ : ∃ shift, Nat.log2 second + 1074 = 52 + shift :=
      ⟨Nat.log2 second + 1022, by omega⟩
    rw [same] at least most
    rw [nearestRank_log least most sum, nearestRank_log leastSecond mostSecond sum]
    exact Nat.add_le_add_left (roundQuotient_mono (Nat.mul_le_mul_right _ order) _) _

/-! ## Integers that are alone with their number -/

/-- Consecutive small integers are rounded to different numbers. -/
theorem nearestRank_succ {n : Nat} (small : n < 2 ^ 53) :
    nearestRank n 1 < nearestRank (n + 1) 1 := by
  by_cases zero : n = 0
  · have first := (nearestRank_between (n := 1) 0 (by decide) (by decide)).1
    rw [zero, nearestRank_zero, Nat.zero_add]
    omega
  have least := Nat.log2_self_le zero
  have most := Nat.lt_log2_self (n := n)
  have few : Nat.log2 n < 53 := (Nat.log2_lt zero).mpr small
  obtain ⟨rest, sum⟩ : ∃ rest, Nat.log2 n + rest = 52 := ⟨52 - Nat.log2 n, by omega⟩
  generalize Nat.log2 n = power at *
  have steps := Nat.two_pow_pos rest
  rw [nearestRank_few sum least most]
  by_cases next : n + 1 < 2 ^ (power + 1)
  · rw [nearestRank_few sum (Nat.le_succ_of_le least) next, Nat.add_mul n 1]
    omega
  · have whole : n + 1 = 2 ^ (power + 1) := by omega
    have digits : (n + 1) * 2 ^ rest = 2 ^ 53 := by
      rw [whole, ← Nat.pow_add, Nat.add_right_comm, sum]
    have above := (nearestRank_between (power + 1) whole.ge
      (whole ▸ Nat.pow_lt_pow_succ (by decide))).1
    rw [Nat.add_mul] at digits
    omega

/-- An integer has its number for itself up to two to the power 53, and above that up to the next power
where it lies amid two multiples of four. -/
def Alone (n : Nat) : Prop := n < 2 ^ 53 ∨ n < 2 ^ 54 ∧ n % 4 = 2

instance (n : Nat) : Decidable (Alone n) := inferInstanceAs (Decidable (_ ∨ _))

theorem Alone.apart {n : Nat} (alone : Alone n) :
    (0 < n → nearestRank (n - 1) 1 < nearestRank n 1) ∧ nearestRank n 1 < nearestRank (n + 1) 1 := by
  by_cases small : n < 2 ^ 53
  · refine ⟨fun positive => ?_, nearestRank_succ small⟩
    have before := nearestRank_succ (n := n - 1) (by omega)
    rwa [Nat.sub_add_cancel positive] at before
  · have amid : n < 2 ^ 54 ∧ n % 4 = 2 := alone.resolve_left small
    have rank {n : Nat} (least : 2 ^ 53 ≤ n) (most : n ≤ 2 ^ 54) :=
      nearestRank_many 1 (by decide) least most
    rw [rank (n := n - 1) (by omega) (by omega), rank (n := n) (by omega) (by omega),
      rank (n := n + 1) (by omega) (by omega)]
    simp only [roundQuotient]
    constructor
    · intro _
      rw [if_neg (by omega), if_neg (by omega), if_pos (by omega)]
      omega
    · rw [if_pos (by omega), if_neg (by omega), if_neg (by omega)]
      omega

theorem Alone.only {n m : Nat} (alone : Alone n) (same : nearestRank m 1 = nearestRank n 1) : m = n := by
  obtain ⟨before, behind⟩ := alone.apart
  rcases Nat.lt_trichotomy m n with less | equal | more
  · have order := nearestRank_mono (Nat.le_sub_one_of_lt less)
    have before := before (by omega)
    omega
  · exact equal
  · have order : nearestRank (n + 1) 1 ≤ nearestRank m 1 := nearestRank_mono more
    omega

/-- Every other integer shares its number, with the multiple that it is rounded to or with the integer
behind it. -/
theorem nearestRank_shared {n : Nat} (shared : ¬ Alone n) :
    ∃ m, m ≠ n ∧ 0 < m ∧ nearestRank m 1 = nearestRank n 1 := by
  rw [Alone, not_or, not_and, Nat.not_lt] at shared
  obtain ⟨large, notAmid⟩ := shared
  have least := Nat.log2_self_le (n := n) (by omega)
  have most := Nat.lt_log2_self (n := n)
  have many : 53 ≤ Nat.log2 n := (Nat.le_log2 (by omega)).mpr large
  obtain ⟨rest, split⟩ : ∃ rest, Nat.log2 n = 52 + (rest + 1) := ⟨Nat.log2 n - 53, by omega⟩
  rw [split, Nat.pow_add] at least
  rw [split, Nat.add_right_comm, Nat.pow_add] at most
  have rank {m : Nat} (least : 2 ^ 52 * 2 ^ (rest + 1) ≤ m) (most : m ≤ 2 ^ 53 * 2 ^ (rest + 1)) :
      nearestRank m 1 = (52 + (rest + 1) + 1022) * 2 ^ 52 + roundQuotient m (2 ^ (rest + 1)) := by
    refine nearestRank_many (rest + 1) rfl ?_ ?_
    · rwa [Nat.pow_add]
    · rwa [Nat.add_right_comm, Nat.pow_add]
  have steps := Nat.two_pow_pos (rest + 1)
  generalize rounds : roundQuotient n (2 ^ (rest + 1)) = multiple
  have low : 2 ^ 52 ≤ multiple := by
    rw [← rounds, ← roundQuotient_exact (2 ^ 52) steps]
    exact roundQuotient_mono least _
  have high : multiple ≤ 2 ^ 53 := by
    rw [← rounds, ← roundQuotient_exact (2 ^ 53) steps]
    exact roundQuotient_mono most.le _
  -- Where the number is itself a multiple, the next number is rounded to it. Otherwise the multiple is.
  by_cases whole : multiple * 2 ^ (rest + 1) = n
  · refine ⟨n + 1, by omega, by omega, ?_⟩
    have rounded : roundQuotient (multiple * 2 ^ (rest + 1) + 1) (2 ^ (rest + 1)) = multiple := by
      have wide : 1 < 2 ^ (rest + 1) := Nat.one_lt_two_pow (by omega)
      rw [roundQuotient, Nat.mul_comm multiple, Nat.mul_add_div steps, Nat.mul_add_mod,
        Nat.div_eq_of_lt wide, Nat.mod_eq_of_lt wide]
      rcases Nat.eq_zero_or_pos rest with rfl | more
      · rw [if_neg (by omega), if_neg (by omega)]
        omega
      · have wider : 2 ^ 1 < 2 ^ (rest + 1) := Nat.pow_lt_pow_right (by decide) (by omega)
        rw [if_pos (by omega)]
        rfl
    rw [rank (by omega) most, rank least most.le, rounds, ← whole, rounded]
  · have positive : 0 < multiple * 2 ^ (rest + 1) := Nat.mul_pos (by omega) steps
    refine ⟨_, whole, positive, ?_⟩
    rw [rank (Nat.mul_le_mul_right _ low) (Nat.mul_le_mul_right _ high), rank least most.le, rounds,
      roundQuotient_exact _ steps]

/-! ## Rounded integers -/

/-- Two integers are rounded to the same finite number. -/
def RoundedAlike (n m : Int) : Prop := ∃ rounded, ofInt? n = some rounded ∧ ofInt? m = some rounded

theorem ofInt?_eq_some {n : Int} {rounded : Binary64} :
    ofInt? n = some rounded ↔ ∃ inRange : nearestRank n.natAbs 1 < finiteCount,
      rounded = .finite (n < 0) ⟨nearestRank n.natAbs 1, inRange⟩ := by
  simp only [ofInt?, Option.dite_none_right_eq_some, Option.some.injEq]
  constructor
  · rintro ⟨inRange, same⟩
    exact ⟨inRange, same.symm⟩
  · rintro ⟨inRange, same⟩
    exact ⟨inRange, same.symm⟩

theorem RoundedAlike.ranks {n m : Int} (alike : RoundedAlike n m) :
    nearestRank m.natAbs 1 = nearestRank n.natAbs 1 ∧ (m < 0 ↔ n < 0) := by
  obtain ⟨rounded, first, second⟩ := alike
  obtain ⟨inRange, rfl⟩ := ofInt?_eq_some.mp first
  obtain ⟨otherInRange, same⟩ := ofInt?_eq_some.mp second
  rw [finite.injEq, decide_eq_decide, Fin.mk.injEq] at same
  exact ⟨same.2.symm, same.1.symm⟩

theorem roundedAlike_of_ranks {n m : Int} (rounds : (ofInt? n).isSome = true)
    (ranks : nearestRank m.natAbs 1 = nearestRank n.natAbs 1) (signs : m < 0 ↔ n < 0) :
    RoundedAlike n m := by
  obtain ⟨rounded, first⟩ := Option.isSome_iff_exists.mp rounds
  obtain ⟨inRange, same⟩ := ofInt?_eq_some.mp first
  refine ⟨rounded, first, ofInt?_eq_some.mpr ⟨?_, ?_⟩⟩
  · rwa [ranks]
  · simp only [same, signs, ranks]

/-- An integer shares its number with no other one exactly where it is small, or lies amid two multiples
of four below the next power of two. An integer without a number shares none. -/
theorem roundedAlike_only_iff {n : Int} (rounds : (ofInt? n).isSome = true) :
    (∀ m, RoundedAlike n m → m = n) ↔ Alone n.natAbs := by
  constructor
  · intro only
    by_contra shared
    obtain ⟨m, other, positive, ranks⟩ := nearestRank_shared shared
    by_cases negative : n < 0
    · have same := only (-m) (roundedAlike_of_ranks rounds (by simpa using ranks) (by omega))
      omega
    · have same := only m (roundedAlike_of_ranks rounds (by simpa using ranks) (by omega))
      omega
  · intro alone m alike
    obtain ⟨ranks, signs⟩ := alike.ranks
    have magnitude := alone.only ranks
    omega

end Binary64

end Tabular
