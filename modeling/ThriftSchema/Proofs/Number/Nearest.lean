import Mathlib.Algebra.Order.Field.Power
import Mathlib.Data.Int.Log
import Mathlib.Data.Rat.Floor
import Mathlib.Tactic.FieldSimp
import Mathlib.Tactic.Linarith
import Mathlib.Tactic.Positivity
import Mathlib.Tactic.Ring
import ThriftSchema.Number.Shortest

set_option autoImplicit false

/-! # The nearest double

The double nearest to a fraction depends on the number alone, not on its numerator and
denominator. Between two powers of two the codes are the multiples of a step, so that the nearest
one is found by rounding the number in steps; the step below is as good at the power itself. A
number that is off a double by less than one part in `2^54` is nearest to it.

* `roundDiv_eq_of_near`: rounding to the nearest integer.
* `nearest_eq`: the nearest code by steps.
* `nearest_congr`: equal fractions have one nearest code.
* `nearest_of_near`: a number close to a double.
-/

namespace ThriftSchema.Number.Double

/-! ## Rounding -/

theorem roundDiv_mul (n d : Nat) {t : Nat} (ht : 0 < t) :
    roundDiv (n * t) (d * t) = roundDiv n d := by
  have hlt : ∀ a b : Nat, (a * t < b * t) = (a < b) := fun a b =>
    propext (Nat.mul_lt_mul_right ht)
  rw [roundDiv, roundDiv, Nat.mul_div_mul_right n d ht, Nat.mul_mod_mul_right]
  simp only [← Nat.mul_assoc, hlt]

/-- Equal fractions are rounded alike. -/
theorem roundDiv_congr {n d n' d' : Nat} (hd : 0 < d) (hd' : 0 < d') (h : n * d' = n' * d) :
    roundDiv n d = roundDiv n' d' := by
  rw [← roundDiv_mul n d hd', h, Nat.mul_comm d d', roundDiv_mul n' d' hd]

/-- A fraction is rounded to an integer that it is off by a half at most. -/
theorem roundDiv_bounds (n : Nat) {d : Nat} (hd : 0 < d) :
    2 * (roundDiv n d * d) ≤ 2 * n + d ∧ 2 * n ≤ 2 * (roundDiv n d * d) + d := by
  have hdiv : n / d * d + n % d = n := by rw [Nat.mul_comm, Nat.div_add_mod]
  have hmod := Nat.mod_lt n hd
  have hsucc : (n / d + 1) * d = n / d * d + d := Nat.succ_mul _ _
  unfold roundDiv
  dsimp only
  split_ifs <;> omega

/-- A fraction that is off an integer by less than a half is rounded to it. -/
theorem roundDiv_eq_of_near {n d m : Nat} (hlow : 2 * (m * d) < 2 * n + d)
    (hhigh : 2 * n < 2 * (m * d) + d) : roundDiv n d = m := by
  obtain ⟨hle, hge⟩ := roundDiv_bounds n (d := d) (by omega)
  rcases Nat.lt_trichotomy (roundDiv n d) m with hlt | heq | hlt
  · have := Nat.mul_le_mul_right d hlt
    rw [Nat.succ_mul] at this
    omega
  · exact heq
  · have := Nat.mul_le_mul_right d hlt
    rw [Nat.succ_mul] at this
    omega

/-! ## Steps -/

/-- A fraction in steps of a power of two. -/
def inSteps (num den : Nat) (exponent : Int) : Nat × Nat :=
  if exponent < 0 then (num <<< exponent.natAbs, den) else (num, den <<< exponent.natAbs)

theorem inSteps_den_pos (num : Nat) {den : Nat} (hden : 0 < den) (exponent : Int) :
    0 < (inSteps num den exponent).2 := by
  unfold inSteps
  split
  · exact hden
  · rw [Nat.shiftLeft_eq]
    positivity

theorem inSteps_eq (num den : Nat) (exponent : Int) :
    ((inSteps num den exponent).1 : ℚ) / (inSteps num den exponent).2 =
      (num : ℚ) / den / 2 ^ exponent := by
  unfold inSteps
  split
  · next h =>
    have hneg : exponent = -(exponent.natAbs : Int) := by omega
    rw [hneg]
    simp only [Int.natAbs_neg, Int.natAbs_natCast, Nat.shiftLeft_eq, zpow_neg, zpow_natCast]
    push_cast
    field_simp
  · next h =>
    have hpos : exponent = (exponent.natAbs : Int) := by omega
    rw [hpos]
    simp only [Int.natAbs_natCast, Nat.shiftLeft_eq, zpow_natCast]
    push_cast
    rw [div_div]

/-- The exponent of the power of two that starts the range of a fraction, from below. -/
def guess (num den : Nat) : Int := (num.log2 : Int) - den.log2 - 52

theorem guess_bounds {num den : Nat} (hnum : 0 < num) (hden : 0 < den) :
    (2 : ℚ) ^ (guess num den + 51) < (num : ℚ) / den ∧
      (num : ℚ) / den < 2 ^ (guess num den + 53) := by
  have hnumLow : ((2 : ℚ) ^ num.log2) ≤ num := by exact_mod_cast Nat.log2_self_le hnum.ne'
  have hnumHigh : (num : ℚ) < 2 ^ (num.log2 + 1) := by exact_mod_cast Nat.lt_log2_self
  have hdenLow : ((2 : ℚ) ^ den.log2) ≤ den := by exact_mod_cast Nat.log2_self_le hden.ne'
  have hdenHigh : (den : ℚ) < 2 ^ (den.log2 + 1) := by exact_mod_cast Nat.lt_log2_self
  have hden' : (0 : ℚ) < den := by exact_mod_cast hden
  have hlow : guess num den + 51 = (num.log2 : Int) - ((den.log2 + 1 : Nat) : Int) := by
    unfold guess
    push_cast
    ring
  have hhigh : guess num den + 53 = ((num.log2 + 1 : Nat) : Int) - (den.log2 : Int) := by
    unfold guess
    push_cast
    ring
  constructor
  · rw [hlow, zpow_sub₀ (by norm_num), zpow_natCast, zpow_natCast]
    exact div_lt_div₀' hnumLow hdenHigh (by positivity) (by positivity)
  · rw [hhigh, zpow_sub₀ (by norm_num), zpow_natCast, zpow_natCast]
    exact div_lt_div₀ hnumHigh hdenLow (by positivity) (by positivity)

/-! ## The nearest code -/

/-- A number lies in the range that starts at the code `k * 2^52`: its steps are
`2^(k - 1074)`, and below the first of these ranges there is nothing. -/
structure InRange (x : ℚ) (k : Nat) : Prop where
  low : k = 0 ∨ 2 ^ ((k : Int) - 1022) ≤ x
  high : x < 2 ^ ((k : Int) - 1021)

theorem exists_inRange {x : ℚ} (hx : 0 < x) : ∃ k, InRange x k := by
  have hlow : (2 : ℚ) ^ Int.log 2 x ≤ x := Int.zpow_log_le_self (by decide) hx
  have hhigh : x < (2 : ℚ) ^ (Int.log 2 x + 1) := Int.lt_zpow_succ_log_self (by decide) x
  refine ⟨(Int.log 2 x + 1022).toNat, ?_, ?_⟩
  · by_cases hk : Int.log 2 x + 1022 ≤ 0
    · exact .inl (Int.toNat_of_nonpos hk)
    · exact .inr (by rwa [Int.toNat_of_nonneg (by omega), Int.add_sub_cancel])
  · exact hhigh.trans_le (zpow_le_zpow_right₀ (by norm_num) (by omega))

theorem two_zpow_add (exponent : Int) (n : Nat) :
    (2 : ℚ) ^ (exponent + n) = 2 ^ n * 2 ^ exponent := by
  rw [zpow_add₀ (by norm_num), zpow_natCast, mul_comm]

/-- The range of a number, told from how many steps it is. -/
theorem inRange_of_steps {x : ℚ} {k : Nat}
    (hlow : k = 0 ∨ (2 : ℚ) ^ 52 ≤ x / 2 ^ ((k : Int) - 1074))
    (hhigh : x / 2 ^ ((k : Int) - 1074) < 2 ^ 53) : InRange x k := by
  have hstep : (0 : ℚ) < 2 ^ ((k : Int) - 1074) := by positivity
  constructor
  · refine hlow.imp id fun hle => ?_
    rw [show (k : Int) - 1022 = (k : Int) - 1074 + (52 : Nat) by push_cast; ring, two_zpow_add]
    exact (le_div_iff₀ hstep).1 hle
  · rw [show (k : Int) - 1021 = (k : Int) - 1074 + (53 : Nat) by push_cast; ring, two_zpow_add]
    exact (div_lt_iff₀ hstep).1 hhigh

variable {num den k : Nat}

theorem fractions_eq : fractions = 2 ^ 52 := rfl

/-- The exponent at which the nearest code is computed, but for the least one that there is. -/
def start (num den : Nat) : Int :=
  if (inSteps num den (guess num den)).1 < (inSteps num den (guess num den)).2 * fractions then
    guess num den - 1
  else guess num den

theorem start_bounds (hnum : 0 < num) (hden : 0 < den) :
    (2 : ℚ) ^ (start num den + 52) ≤ (num : ℚ) / den ∧
      (num : ℚ) / den < 2 ^ (start num den + 53) := by
  obtain ⟨hlow, hhigh⟩ := guess_bounds hnum hden
  have hsteps := inSteps_eq num den (guess num den)
  have hpos : (0 : ℚ) < (inSteps num den (guess num den)).2 := by
    exact_mod_cast inSteps_den_pos num hden _
  have hpow : (0 : ℚ) < 2 ^ guess num den := by positivity
  -- how many steps there are is told by comparing with `2^52`
  have hcompare : ((inSteps num den (guess num den)).1 <
      (inSteps num den (guess num den)).2 * fractions) ↔
      (num : ℚ) / den < 2 ^ (guess num den + 52) := by
    rw [← Nat.cast_lt (α := ℚ), Nat.cast_mul, ← div_lt_iff₀' hpos, hsteps, div_lt_iff₀ hpow,
      zpow_add₀ (by norm_num), mul_comm, fractions_eq]
    norm_num
  unfold start
  split
  · next h =>
    constructor
    · rw [show guess num den - 1 + 52 = guess num den + 51 by ring]
      exact hlow.le
    · rw [show guess num den - 1 + 53 = guess num den + 52 by ring]
      exact hcompare.1 h
  · next h => exact ⟨not_lt.1 (mt hcompare.2 h), hhigh⟩

theorem max_start (hnum : 0 < num) (hden : 0 < den) (h : InRange ((num : ℚ) / den) k) :
    max (start num den) (-1074) = (k : Int) - 1074 := by
  obtain ⟨hlow, hhigh⟩ := start_bounds hnum hden
  have hone : (1 : ℚ) < 2 := by norm_num
  have hupper := (zpow_lt_zpow_iff_right₀ hone).1 (hlow.trans_lt h.high)
  rcases h.low with rfl | hk
  · omega
  · have hlower := (zpow_lt_zpow_iff_right₀ hone).1 (hk.trans_lt hhigh)
    omega

/-- How the nearest code is computed, said of any numbers in place of those of the format, which
are too large to be computed with. -/
theorem nearest_form (num den size top : Nat) (first step least offset : Int) :
    (have guess := first
     have scale := fun q : Int =>
       if q < 0 then (num <<< q.natAbs, den) else (num, den <<< q.natAbs)
     match scale guess with
     | (n, d) =>
       have exponent := max (if n < d * size then guess - step else guess) least
       match scale exponent with
       | (n, d) => min top ((exponent + offset).toNat * size + roundDiv n d)) =
    (have exponent := max (if (inSteps num den first).1 < (inSteps num den first).2 * size then
        first - step else first) least
     min top ((exponent + offset).toNat * size +
       roundDiv (inSteps num den exponent).1 (inSteps num den exponent).2)) := rfl

theorem nearest_def (hnum : num ≠ 0) : nearest num den =
    min infinite ((max (start num den) (-1074) + 1074).toNat * fractions +
      roundDiv (inSteps num den (max (start num den) (-1074))).1
        (inSteps num den (max (start num den) (-1074))).2) := by
  rw [nearest, if_neg hnum, start, guess]
  generalize (-1074 : Int) = least
  generalize (1074 : Int) = offset
  generalize fractions = size
  generalize infinite = top
  generalize (num.log2 : Int) - den.log2 - 52 = first
  generalize (1 : Int) = step
  exact nearest_form num den size top first step least offset

/-- The nearest code is found by rounding in the steps of the range. -/
theorem nearest_eq (hnum : 0 < num) (hden : 0 < den) (h : InRange ((num : ℚ) / den) k) :
    nearest num den = min infinite (k * fractions +
      roundDiv (inSteps num den (k - 1074)).1 (inSteps num den (k - 1074)).2) := by
  rw [nearest_def hnum.ne', max_start hnum hden h, Int.sub_add_cancel, Int.toNat_natCast]

/-- Equal fractions have one nearest code. -/
theorem nearest_congr {num' den' : Nat} (hnum : 0 < num) (hden : 0 < den) (hden' : 0 < den')
    (h : (num : ℚ) / den = (num' : ℚ) / den') : nearest num den = nearest num' den' := by
  have hpos : (0 : ℚ) < (num : ℚ) / den := by positivity
  have hnum' : 0 < num' := by
    rw [h] at hpos
    exact_mod_cast (div_pos_iff_of_pos_right (by exact_mod_cast hden')).1 hpos
  obtain ⟨k, hrange⟩ := exists_inRange hpos
  rw [nearest_eq hnum hden hrange, nearest_eq hnum' hden' (h ▸ hrange)]
  have hsteps := inSteps_eq num den ((k : Int) - 1074)
  rw [h, ← inSteps_eq num' den'] at hsteps
  have hd := inSteps_den_pos num hden ((k : Int) - 1074)
  have hd' := inSteps_den_pos num' hden' ((k : Int) - 1074)
  rw [roundDiv_congr hd hd']
  rw [div_eq_div_iff (by exact_mod_cast hd.ne') (by exact_mod_cast hd'.ne')] at hsteps
  exact_mod_cast hsteps

/-! ## Numbers close to a double -/

/-- A number that is off an integral number of steps by less than a half of one. -/
theorem nearest_of_steps (hnum : 0 < num) (hden : 0 < den) (h : InRange ((num : ℚ) / den) k)
    {m : Nat} (hm : |(num : ℚ) / den / 2 ^ ((k : Int) - 1074) - m| < 1 / 2) :
    nearest num den = min infinite (k * fractions + m) := by
  have hd : (0 : ℚ) < (inSteps num den (k - 1074)).2 := by
    exact_mod_cast inSteps_den_pos num hden _
  rw [← inSteps_eq, abs_lt] at hm
  rw [nearest_eq hnum hden h]
  congr 2
  obtain ⟨hlow, hhigh⟩ := hm
  rw [lt_sub_iff_add_lt, lt_div_iff₀ hd] at hlow
  rw [sub_lt_iff_lt_add, div_lt_iff₀ hd] at hhigh
  refine roundDiv_eq_of_near ?_ ?_
  · exact_mod_cast (by linarith : 2 * ((m : ℚ) * (inSteps num den (k - 1074)).2) <
      2 * (inSteps num den (k - 1074)).1 + (inSteps num den (k - 1074)).2)
  · exact_mod_cast (by linarith : 2 * ((inSteps num den (k - 1074)).1 : ℚ) <
      2 * (m * (inSteps num den (k - 1074)).2) + (inSteps num den (k - 1074)).2)

/-- A code as steps above the start of a range. -/
structure IsCode (code k m : Nat) : Prop where
  eq : code = k * fractions + m
  low : k = 0 ∨ fractions ≤ m
  high : m < 2 * fractions

theorem isCode_decode (code : Nat) : IsCode code (decode code).2 (decode code).1 := by
  have hpos : 0 < fractions := by decide
  have hdiv : code / fractions * fractions + code % fractions = code := by
    rw [Nat.mul_comm, Nat.div_add_mod]
  have hmod := Nat.mod_lt code hpos
  unfold decode
  by_cases h : code / fractions = 0
  · rw [h] at hdiv
    rw [if_pos h]
    exact ⟨by omega, .inl rfl, by omega⟩
  · obtain ⟨e, he⟩ := Nat.exists_eq_succ_of_ne_zero h
    rw [if_neg h, he, Nat.succ_sub_one]
    rw [he, Nat.succ_mul] at hdiv
    refine ⟨?_, .inr (Nat.le_add_right _ _), by omega⟩
    show code = e * fractions + (fractions + code % fractions)
    omega

/-- A number that is off a double by less than one part in `2^54` is nearest to it. -/
theorem nearest_of_near {code m : Nat} (hcode : IsCode code k m) (hfinite : code ≤ infinite)
    (hnum : 0 < num) (hden : 0 < den)
    (h : |(num : ℚ) / den / 2 ^ ((k : Int) - 1074) - m| < m / 2 ^ 54) :
    nearest num den = code := by
  have hhigh : (m : ℚ) ≤ 2 ^ 53 - 1 := by
    have hsucc : m + 1 ≤ 2 ^ 53 := hcode.high
    have hcast : (m : ℚ) + 1 ≤ 2 ^ 53 := by exact_mod_cast hsucc
    linarith
  obtain ⟨habove, hbelow⟩ := abs_lt.1 h
  by_cases hrange : k = 0 ∨ (2 : ℚ) ^ 52 ≤ (num : ℚ) / den / 2 ^ ((k : Int) - 1074)
  · -- the number is in the range of the double
    have hin := inRange_of_steps hrange (by linarith)
    rw [nearest_of_steps hnum hden hin (h.trans_le (by linarith)), ← hcode.eq,
      Nat.min_eq_right hfinite]
  · -- the double is a power of two, and the number is in the range below
    obtain ⟨hk, hlt⟩ := not_or.1 hrange
    rw [not_le] at hlt
    have hm : m = 2 ^ 52 := by
      have hge : 2 ^ 52 ≤ m := hcode.low.resolve_left hk
      have hlt' : (m : ℚ) < 2 ^ 52 + 1 := by linarith
      have : m < 2 ^ 52 + 1 := by exact_mod_cast hlt'
      omega
    obtain ⟨k, rfl⟩ := Nat.exists_eq_succ_of_ne_zero hk
    have hhalf : (num : ℚ) / den / 2 ^ ((k.succ : Int) - 1074) =
        (num : ℚ) / den / 2 ^ ((k : Int) - 1074) / 2 := by
      rw [show (k.succ : Int) - 1074 = (k : Int) - 1074 + 1 by push_cast; ring,
        zpow_add_one₀ (by norm_num), div_div _ _ (2 : ℚ)]
    rw [hhalf] at hlt habove
    rw [hm] at habove
    push_cast at habove
    have hin : InRange ((num : ℚ) / den) k :=
      inRange_of_steps (.inr (by linarith)) (by linarith)
    have hnear : |(num : ℚ) / den / 2 ^ ((k : Int) - 1074) - (2 ^ 53 : Nat)| < 1 / 2 := by
      rw [abs_lt]
      push_cast
      constructor <;> linarith
    have hbelow : k * fractions + 2 ^ 53 = code := by
      rw [hcode.eq, hm, Nat.succ_mul, fractions_eq]
      ring
    rw [nearest_of_steps hnum hden hin hnear, hbelow, Nat.min_eq_right hfinite]

/-! ## Numbers that are too small or too large -/

theorem nearest_eq_zero (hnum : 0 < num) (hden : 0 < den)
    (h : (num : ℚ) / den < 2 ^ (-1075 : Int)) : nearest num den = 0 := by
  have hsteps : (num : ℚ) / den / 2 ^ (((0 : Nat) : Int) - 1074) < 1 / 2 := by
    rw [div_lt_iff₀ (by positivity)]
    rwa [show (-1075 : Int) = ((0 : Nat) : Int) - 1074 - 1 by norm_num,
      zpow_sub_one₀ (by norm_num), mul_comm, inv_eq_one_div] at h
  have hpos : (0 : ℚ) < (num : ℚ) / den / 2 ^ (((0 : Nat) : Int) - 1074) := by positivity
  have hin : InRange ((num : ℚ) / den) 0 := inRange_of_steps (.inl rfl) (by linarith)
  have hnear : |(num : ℚ) / den / 2 ^ (((0 : Nat) : Int) - 1074) - (0 : Nat)| < 1 / 2 := by
    rwa [Nat.cast_zero (R := ℚ), sub_zero, abs_of_pos hpos]
  rw [nearest_of_steps hnum hden hin hnear, Nat.zero_mul, Nat.min_zero]

theorem nearest_eq_infinite (hnum : 0 < num) (hden : 0 < den)
    (h : (2 : ℚ) ^ (1026 : Int) ≤ (num : ℚ) / den) : nearest num den = infinite := by
  obtain ⟨k, hin⟩ := exists_inRange (x := (num : ℚ) / den) (by positivity)
  have hk := (zpow_lt_zpow_iff_right₀ (by norm_num : (1 : ℚ) < 2)).1 (h.trans_lt hin.high)
  have hle : 2047 * fractions ≤ k * fractions := Nat.mul_le_mul_right _ (by omega)
  rw [nearest_eq hnum hden hin]
  exact Nat.min_eq_left (Nat.le_trans hle (Nat.le_add_right _ _))

end ThriftSchema.Number.Double
