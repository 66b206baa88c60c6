import ThriftSchema.Proofs.Number.Nearest

set_option autoImplicit false

/-! # The shortest numeral of a double

The numeral that is found for a double reads back to it: one of the two numerals of seventeen
digits around a number is off it by less than one part in `2^54`.

* `leadingPower_le`: a power of ten below a number.
* `exists_readsBack`: seventeen digits are enough.
* `nearest_shortest`: the shortest numeral reads back.
-/

namespace ThriftSchema.Number.Double

/-! ## Fractions -/

theorem scaled_den_pos (n : Nat) (power : Int) : 0 < (scaled n power).2 := by
  unfold scaled
  split
  · exact Nat.pow_pos (by decide)
  · exact Nat.one_pos

theorem scaled_eq (n : Nat) (power : Int) :
    ((scaled n power).1 : ℚ) / (scaled n power).2 = n * 10 ^ power := by
  unfold scaled
  split
  · next h =>
    have hneg : power = -(power.natAbs : Int) := by omega
    conv_rhs => rw [hneg, zpow_neg, zpow_natCast]
    push_cast [Nat.pow_eq]
    rw [div_eq_mul_inv]
  · next h =>
    have hpos : power = (power.natAbs : Int) := by omega
    conv_rhs => rw [hpos, zpow_natCast]
    push_cast [Nat.pow_eq]
    rw [div_one]

theorem scaled_num_pos {n : Nat} (hn : 0 < n) (power : Int) : 0 < (scaled n power).1 := by
  unfold scaled
  split
  · exact hn
  · exact Nat.mul_pos hn (Nat.pow_pos (by decide))

theorem fraction_den_pos (code : Nat) : 0 < (fraction code).2 := by
  unfold fraction
  dsimp only
  split
  · exact Nat.pow_pos (by decide)
  · exact Nat.one_pos

theorem fraction_eq (code : Nat) : ((fraction code).1 : ℚ) / (fraction code).2 =
    (decode code).1 * 2 ^ (((decode code).2 : Int) - 1074) := by
  unfold fraction
  dsimp only
  split
  · next h =>
    have hneg : ((decode code).2 : Int) - 1074 = -((1074 - (decode code).2 : Nat) : Int) := by omega
    rw [hneg, zpow_neg, zpow_natCast]
    push_cast [Nat.pow_eq]
    rw [div_eq_mul_inv]
  · next h =>
    have hpos : ((decode code).2 : Int) - 1074 = (((decode code).2 - 1074 : Nat) : Int) := by omega
    rw [hpos, zpow_natCast]
    push_cast [Nat.pow_eq]
    rw [div_one]

/-! ## The leading power -/

variable {num den : Nat}

theorem atLeastPower_iff (hden : 0 < den) {power : Int} :
    atLeastPower num den power = true ↔ (10 : ℚ) ^ power ≤ (num : ℚ) / den := by
  have hscaled := scaled_eq 1 power
  rw [Nat.cast_one, one_mul] at hscaled
  have hpos := scaled_den_pos 1 power
  rw [← hscaled, div_le_div_iff₀ (by exact_mod_cast hpos) (by exact_mod_cast hden), atLeastPower]
  simp only [decide_eq_true_eq]
  norm_cast

theorem raisePower_le (hden : 0 < den) {rounds : Nat} {power : Int}
    (h : (10 : ℚ) ^ power ≤ (num : ℚ) / den) :
    (10 : ℚ) ^ raisePower num den rounds power ≤ (num : ℚ) / den := by
  induction rounds generalizing power with
  | zero => exact h
  | succ rounds ih =>
      rw [raisePower]
      split
      · next hnext => exact ih ((atLeastPower_iff hden).1 hnext)
      · exact h

/-- Whether a power of ten is at most a power of two. -/
def tenLeTwo (ten two : Int) : Bool :=
  10 ^ ten.toNat * 2 ^ (-two).toNat ≤ 2 ^ two.toNat * 10 ^ (-ten).toNat

theorem tenLeTwo_iff {ten two : Int} :
    tenLeTwo ten two = true ↔ (10 : ℚ) ^ ten ≤ 2 ^ two := by
  have hzpow : ∀ (a : ℚ), a ≠ 0 → ∀ z : Int, a ^ z = a ^ z.toNat / a ^ (-z).toNat := by
    intro a ha z
    conv_lhs => rw [← Int.toNat_sub_toNat_neg z, zpow_sub₀ ha, zpow_natCast, zpow_natCast]
  rw [hzpow 10 (by norm_num), hzpow 2 (by norm_num),
    div_le_div_iff₀ (by positivity) (by positivity), tenLeTwo, decide_eq_true_eq]
  norm_cast

/-- The power of ten that a power of two is compared with first. -/
def firstPower (two : Int) : Int := two * 30103 / 100000 - 1

theorem firstPower_le (two : Int) (hlow : -1100 ≤ two) (hhigh : two < 1100) :
    (10 : ℚ) ^ firstPower two ≤ 2 ^ two := by
  have hall : (List.range 2200).all fun i => tenLeTwo (firstPower (i - 1100)) (i - 1100) := by
    decide +kernel
  have h := List.all_eq_true.1 hall (two + 1100).toNat (List.mem_range.2 (by omega))
  rwa [Int.toNat_of_nonneg (by omega), Int.add_sub_cancel, tenLeTwo_iff] at h

theorem leadingPower_le (hnum : 0 < num) (hden : 0 < den)
    (hlow : (2 : ℚ) ^ (-1074 : Int) ≤ (num : ℚ) / den)
    (hhigh : (num : ℚ) / den < 2 ^ (1026 : Int)) :
    (10 : ℚ) ^ leadingPower num den ≤ (num : ℚ) / den := by
  obtain ⟨habove, hbelow⟩ := guess_bounds hnum hden
  have hone : (1 : ℚ) < 2 := by norm_num
  have hleast := (zpow_lt_zpow_iff_right₀ hone).1 (hlow.trans_lt hbelow)
  have hmost := (zpow_lt_zpow_iff_right₀ hone).1 (habove.trans hhigh)
  have hfirst := firstPower_le (guess num den + 51) (by omega) (by omega)
  refine raisePower_le hden ?_
  have hguess : ((num.log2 : Int) - den.log2 - 1) * 30103 / 100000 - 1 =
      firstPower (guess num den + 51) := by
    rw [firstPower, guess]
    congr 3
    ring
  rw [hguess]
  exact hfirst.trans habove.le

/-! ## Numerals that read back -/

variable {code : Nat} {power : Int}

/-- Whether a numeral at a power of ten reads back to a code. -/
def readsAs (code : Nat) (power : Int) (n : Nat) : Prop :=
  nearest (scaled n power).1 (scaled n power).2 = code

instance (code : Nat) (power : Int) (n : Nat) : Decidable (readsAs code power n) :=
  inferInstanceAs (Decidable (_ = _))

/-- The greatest numeral at a power of ten that is not above a number. -/
def lowNumeral (num den : Nat) (power : Int) : Nat :=
  num * (scaled 1 power).2 / (den * (scaled 1 power).1)

theorem readsAs_of_readsBack {n : Nat} (h : readsBack code num den power = some n) :
    readsAs code power n := by
  unfold readsBack at h
  dsimp only at h
  split at h
  · next hlow hnext =>
    rw [beq_iff_eq] at hlow hnext
    split_ifs at h <;> obtain rfl := Option.some.inj h <;> assumption
  · next hlow _ =>
    obtain rfl := Option.some.inj h
    exact beq_iff_eq.1 hlow
  · next _ hnext =>
    obtain rfl := Option.some.inj h
    exact beq_iff_eq.1 hnext
  · cases h

theorem readsBack_ne_none (h : readsAs code power (lowNumeral num den power) ∨
    readsAs code power (lowNumeral num den power + 1)) :
    readsBack code num den power ≠ none := by
  have hback : ∀ n, readsAs code power n →
      (nearest (scaled n power).1 (scaled n power).2 == code) = true := fun n => beq_iff_eq.2
  unfold readsBack
  dsimp only
  split
  · split_ifs <;> exact nofun
  · exact nofun
  · exact nofun
  · next hlow hnext =>
    rcases h with h | h
    · exact absurd (hlow.symm.trans (hback _ h)) Bool.false_ne_true
    · exact absurd (hnext.symm.trans (hback _ h)) Bool.false_ne_true

theorem lowNumeral_bounds (num : Nat) (power : Int) (hden : 0 < den) :
    (lowNumeral num den power : ℚ) ≤ (num : ℚ) / den / 10 ^ power ∧
      (num : ℚ) / den / 10 ^ power < lowNumeral num den power + 1 := by
  have hscaled := scaled_eq 1 power
  rw [Nat.cast_one, one_mul] at hscaled
  have hone := scaled_num_pos Nat.one_pos power
  have hpos : 0 < den * (scaled 1 power).1 := Nat.mul_pos hden hone
  have hdiv : (num : ℚ) / den / 10 ^ power =
      (num * (scaled 1 power).2 : Nat) / (den * (scaled 1 power).1 : Nat) := by
    rw [← hscaled, div_div_eq_mul_div, div_mul_eq_mul_div, div_div]
    push_cast
    rfl
  have hpos' : (0 : ℚ) < (den * (scaled 1 power).1 : Nat) := by exact_mod_cast hpos
  rw [hdiv, lowNumeral]
  constructor
  · rw [le_div_iff₀ hpos']
    exact_mod_cast Nat.div_mul_le_self _ _
  · rw [div_lt_iff₀ hpos']
    exact_mod_cast (Nat.div_lt_iff_lt_mul hpos).1 (Nat.lt_succ_self _)

/-- A numeral that is off a number by half its last place at most is off it by less than one part
in `2^54`, if the number is at least `10^16` in that place. -/
theorem readsAs_of_near {n : Nat} (hn : 0 < n) (hfinite : code ≤ infinite)
    (hpower : (10 : ℚ) ^ (power + 16) ≤ (fraction code).1 / (fraction code).2)
    (hnear : |(n : ℚ) - (fraction code).1 / (fraction code).2 / 10 ^ power| ≤ 1 / 2) :
    readsAs code power n := by
  have hstep : (0 : ℚ) < 2 ^ (((decode code).2 : Int) - 1074) := by positivity
  rw [fraction_eq] at hpower hnear
  -- the last place of the numeral, in steps of the double
  obtain ⟨place, hplace⟩ : ∃ place : ℚ,
      place = 10 ^ power / 2 ^ (((decode code).2 : Int) - 1074) := ⟨_, rfl⟩
  have hpos : 0 < place := hplace ▸ by positivity
  have hpower' : place * 10 ^ 16 ≤ (decode code).1 := by
    rw [zpow_add₀ (by norm_num), ← div_le_iff₀ hstep] at hpower
    rw [hplace, div_mul_eq_mul_div]
    exact_mod_cast hpower
  have hoff : (n : ℚ) * place - (decode code).1 = place *
      (n - (decode code).1 * 2 ^ (((decode code).2 : Int) - 1074) / 10 ^ power) := by
    rw [hplace]
    field_simp
  have hsteps : (n : ℚ) * 10 ^ power / 2 ^ (((decode code).2 : Int) - 1074) = n * place := by
    rw [hplace, mul_div_assoc]
  refine nearest_of_near (isCode_decode code) hfinite (scaled_num_pos hn power)
    (scaled_den_pos n power) ?_
  rw [scaled_eq, hsteps, hoff, abs_mul, abs_of_pos hpos]
  calc place * _ ≤ place * (1 / 2) := by gcongr
    _ < (decode code).1 / 2 ^ 54 := by
      rw [lt_div_iff₀ (by positivity)]
      linarith

theorem exists_readsBack (hfinite : code ≤ infinite)
    (hpower : (10 : ℚ) ^ (power + 16) ≤ (fraction code).1 / (fraction code).2) :
    readsBack code (fraction code).1 (fraction code).2 power ≠ none := by
  obtain ⟨hlow, hhigh⟩ := lowNumeral_bounds (fraction code).1 power (fraction_den_pos code)
  have hlarge : (10 : ℚ) ^ 16 ≤ (fraction code).1 / (fraction code).2 / 10 ^ power := by
    rw [le_div_iff₀ (by positivity), mul_comm]
    rw [zpow_add₀ (by norm_num)] at hpower
    exact_mod_cast hpower
  refine readsBack_ne_none ?_
  by_cases hhalf : (fraction code).1 / (fraction code).2 / 10 ^ power -
      (lowNumeral (fraction code).1 (fraction code).2 power : ℚ) ≤ 1 / 2
  · refine .inl (readsAs_of_near ?_ hfinite hpower ?_)
    · exact_mod_cast (by linarith :
        (0 : ℚ) < lowNumeral (fraction code).1 (fraction code).2 power)
    · rw [abs_le]
      constructor <;> linarith
  · refine .inr (readsAs_of_near (Nat.succ_pos _) hfinite hpower ?_)
    rw [abs_le]
    push_cast
    constructor <;> linarith

/-- The first numeral of a search that reads back. -/
theorem readsAs_searchDigits {top : Int} {rounds count : Nat}
    (h : ∃ i < rounds, readsBack code num den (top - ↑(count + i)) ≠ none) :
    readsAs code (searchDigits code num den top rounds count).2
      (searchDigits code num den top rounds count).1 := by
  induction rounds generalizing count with
  | zero => exact absurd h (by simp)
  | succ rounds ih =>
      rw [searchDigits]
      split
      · next n hback => exact readsAs_of_readsBack hback
      · next hback =>
        obtain ⟨i, hi, hsome⟩ := h
        cases i with
        | zero => exact absurd hback hsome
        | succ i => exact ih ⟨i, by omega, by rwa [Nat.add_right_comm, Nat.add_assoc]⟩

theorem fraction_bounds (hcode : code ≠ 0) (hfinite : code < infinite) :
    (2 : ℚ) ^ (-1074 : Int) ≤ (fraction code).1 / (fraction code).2 ∧
      (fraction code).1 / (fraction code).2 < (2 : ℚ) ^ (1026 : Int) := by
  obtain ⟨hdecode, -, hhigh⟩ := isCode_decode code
  have hone : (1 : ℚ) ≤ 2 := by norm_num
  have hpos : 0 < (decode code).1 := by
    by_contra hzero
    rw [Nat.eq_zero_of_not_pos hzero, Nat.add_zero] at hdecode
    have hlow := (isCode_decode code).low
    rw [Nat.eq_zero_of_not_pos hzero] at hlow
    rcases hlow with hk | hle
    · rw [hk, Nat.zero_mul] at hdecode
      exact hcode hdecode
    · exact absurd hle (by decide)
  have hexponent : (decode code).2 < 2047 := by
    by_contra hge
    have := Nat.mul_le_mul_right fractions (not_lt.1 hge)
    rw [infinite] at hfinite
    omega
  rw [fraction_eq]
  constructor
  · calc (2 : ℚ) ^ (-1074 : Int) ≤ 2 ^ (((decode code).2 : Int) - 1074) :=
          zpow_le_zpow_right₀ hone (by omega)
      _ ≤ (decode code).1 * 2 ^ (((decode code).2 : Int) - 1074) :=
          le_mul_of_one_le_left (by positivity) (by exact_mod_cast hpos)
  · calc ((decode code).1 : ℚ) * 2 ^ (((decode code).2 : Int) - 1074)
        < 2 ^ 53 * 2 ^ (((decode code).2 : Int) - 1074) := by
          refine mul_lt_mul_of_pos_right ?_ (by positivity)
          exact_mod_cast hhigh
      _ = 2 ^ (((decode code).2 : Int) - 1074 + (53 : Nat)) := (two_zpow_add _ _).symm
      _ ≤ 2 ^ (1026 : Int) := zpow_le_zpow_right₀ hone (by push_cast; omega)

/-- The shortest numeral of a finite code that is not zero reads back to it. -/
theorem readsAs_shortest (hcode : code ≠ 0) (hfinite : code < infinite) :
    readsAs code (shortest code).2 (shortest code).1 := by
  obtain ⟨hlow, hhigh⟩ := fraction_bounds hcode hfinite
  have hden := fraction_den_pos code
  have hnum : 0 < (fraction code).1 := by
    by_contra hzero
    rw [Nat.eq_zero_of_not_pos hzero, Nat.cast_zero, zero_div] at hlow
    exact absurd hlow (not_le.2 (by positivity))
  refine readsAs_searchDigits ⟨16, by decide, exists_readsBack hfinite.le ?_⟩
  rw [Nat.zero_add, Nat.cast_ofNat, Int.sub_add_cancel]
  exact leadingPower_le hnum hden hlow hhigh

theorem pos_of_readsAs {n : Nat} (hcode : code ≠ 0) (h : readsAs code power n) : 0 < n := by
  refine Nat.pos_of_ne_zero ?_
  rintro rfl
  refine hcode (h.symm.trans ?_)
  have hzero : (scaled 0 power).1 = 0 := by
    unfold scaled
    split
    · rfl
    · exact Nat.zero_mul _
  rw [hzero, nearest, if_pos rfl]

end ThriftSchema.Number.Double
