import Mathlib.Data.List.TakeWhile
import ThriftSchema.Proofs.Number.Shortest
import ThriftSchema.Proofs.Number.Spelling

set_option autoImplicit false

/-! # Doubles that are read back

The text of a double is read as the double: the zeros that are left out and the place of the
point change the digits and the exponent of the shortest numeral, but not its value. So two
doubles can be told by their texts.

* `Denotes`: a text without a sign that is read as a number.
* `read_text`: reading the text of a double.
* `text_injective`: telling doubles by their texts.
-/

namespace ThriftSchema.Number

/-! ## Digits -/

theorem numeral_append (base : Nat) (cs ds : List Char) :
    numeral base (cs ++ ds) = numeral base cs * base ^ ds.length + numeral base ds := by
  induction cs with
  | nil => simp [numeral]
  | cons c cs ih =>
      rw [List.cons_append, numeral_cons, numeral_cons, ih, List.length_append, Nat.pow_add]
      ring

theorem numeral_replicate_zero (base n : Nat) : numeral base (List.replicate n '0') = 0 := by
  induction n with
  | zero => rfl
  | succ n ih => 
      rw [List.replicate_succ, numeral_cons, ih, show digitValue '0' = some 0 from rfl]
      simp

namespace Double

/-- The digits of a number are the significant ones and zeros behind them. -/
theorem exists_toDigits_eq (n : Nat) :
    ∃ zeros, Nat.toDigits 10 n = significant n ++ List.replicate zeros '0' := by
  refine ⟨((Nat.toDigits 10 n).reverse.takeWhile (· == '0')).length, ?_⟩
  have hzeros : (Nat.toDigits 10 n).reverse.takeWhile (· == '0') =
      List.replicate ((Nat.toDigits 10 n).reverse.takeWhile (· == '0')).length '0' :=
    List.eq_replicate_iff.2 ⟨rfl, fun c hc => by simpa using List.mem_takeWhile_imp hc⟩
  rw [significant, ← List.reverse_replicate, ← hzeros, ← List.reverse_append,
    List.takeWhile_append_dropWhile, List.reverse_reverse]

theorem isDigit_of_mem_significant {n : Nat} : ∀ c ∈ significant n, c.isDigit = true := by
  intro c hc
  obtain ⟨zeros, hdigits⟩ := exists_toDigits_eq n
  exact (isRun_toDigits n).2 c (hdigits ▸ List.mem_append_left _ hc)

/-- The value of the significant digits, and how many of them there are. -/
theorem significant_spec {n : Nat} (hn : 0 < n) : ∃ zeros : Nat,
    n = numeral 10 (significant n) * 10 ^ zeros ∧
      (Nat.toDigits 10 n).length = (significant n).length + zeros ∧
      0 < numeral 10 (significant n) ∧ IsRun Char.isDigit (significant n) := by
  obtain ⟨zeros, hdigits⟩ := exists_toDigits_eq n
  have hvalue : n = numeral 10 (significant n) * 10 ^ zeros := by
    have h := numeral_toDigits n
    rw [hdigits, numeral_append, numeral_replicate_zero, List.length_replicate, Nat.add_zero] at h
    exact h.symm
  have hpos : 0 < numeral 10 (significant n) := by
    refine Nat.pos_of_ne_zero fun hzero => ?_
    rw [hzero, Nat.zero_mul] at hvalue
    omega
  refine ⟨zeros, hvalue, by rw [hdigits, List.length_append, List.length_replicate], hpos,
    fun hnil => ?_, isDigit_of_mem_significant⟩
  rw [hnil] at hpos
  exact absurd hpos (by decide)

/-! ## What a text denotes -/

/-- A text without a sign is read as a number times a power of ten. -/
structure Denotes (cs : List Char) (n : Nat) (power : Int) : Prop where
  chars : IsUngrouped cs
  start : ∃ c rest, cs = c :: rest ∧ (c.isDigit = true ∨ c = '.')
  reads : ∀ negative, ∃ digits exponent,
    readMagnitude negative cs = some (ofDecimal negative digits exponent) ∧ 0 < digits ∧
      (digits : ℚ) * 10 ^ exponent = n * 10 ^ power

theorem denotes_fraction {whole digits : List Char} {n : Nat} {power : Int}
    (hwhole : IsRun Char.isDigit whole) (hdigits : IsRun Char.isDigit digits)
    (hpos : 0 < numeral 10 (whole ++ digits))
    (hvalue : (numeral 10 (whole ++ digits) : ℚ) * 10 ^ (-(digits.length : Int)) = n * 10 ^ power) :
    Denotes (whole ++ '.' :: digits) n power where
  chars := (IsUngrouped.of_digits hwhole.2).append
    (List.forall_mem_cons.2 ⟨by decide, IsUngrouped.of_digits hdigits.2⟩)
  start := by
    obtain ⟨d, ds, rfl⟩ := List.exists_cons_of_ne_nil hwhole.1
    exact ⟨d, _, rfl, .inl (hwhole.2 d (List.mem_cons_self ..))⟩
  reads negative := by
    have hread := readMagnitude_of_fraction hwhole.2 hdigits (.inl rfl) rfl negative
    rw [List.append_nil, Int.zero_sub] at hread
    exact ⟨_, _, hread, hpos, hvalue⟩

theorem isRun_append {cs ds : List Char} (hcs : IsRun Char.isDigit cs)
    (hds : ∀ c ∈ ds, c.isDigit = true) : IsRun Char.isDigit (cs ++ ds) :=
  ⟨by simp [hcs.1], List.forall_mem_append.2 ⟨hcs.2, hds⟩⟩

theorem isDigit_of_mem_zeros (n : Nat) : ∀ c ∈ List.replicate n '0', c.isDigit = true := by
  intro c hc
  rw [List.eq_of_mem_replicate hc]
  rfl

/-- Digits with a point among them. -/
theorem denotes_positional {digits : List Char} (hrun : IsRun Char.isDigit digits)
    (hpos : 0 < numeral 10 digits) (point : Int) :
    Denotes (positional digits point) (numeral 10 digits) (point - digits.length) := by
  have hten : (10 : ℚ) ≠ 0 := by norm_num
  have hzero : IsRun Char.isDigit ['0'] := ⟨by decide, by decide⟩
  unfold positional
  split
  · next hpoint =>
    have hvalue : numeral 10 (['0'] ++ (List.replicate point.natAbs '0' ++ digits)) =
        numeral 10 digits := by
      rw [numeral_append, numeral_append, numeral_replicate_zero]
      simp [show numeral 10 ['0'] = 0 from rfl]
    have hdigits : IsRun Char.isDigit (List.replicate point.natAbs '0' ++ digits) :=
      ⟨by simp [hrun.1], List.forall_mem_append.2 ⟨isDigit_of_mem_zeros _, hrun.2⟩⟩
    refine denotes_fraction hzero hdigits (by rwa [hvalue]) ?_
    rw [hvalue, List.length_append, List.length_replicate]
    congr 2
    omega
  · next hpoint =>
    dsimp only
    split
    · next hle =>
      have hvalue : numeral 10 (digits ++ List.replicate (point.toNat - digits.length) '0' ++ ['0'])
          = numeral 10 digits * 10 ^ (point.toNat - digits.length) * 10 := by
        rw [numeral_append, numeral_append, numeral_replicate_zero]
        simp [show numeral 10 ['0'] = 0 from rfl]
      refine denotes_fraction (isRun_append hrun (isDigit_of_mem_zeros _)) hzero
        (by rw [hvalue]; positivity) ?_
      have hexponent : point - digits.length = ((point.toNat - digits.length : Nat) : Int) := by
        omega
      rw [hvalue, hexponent, zpow_natCast]
      push_cast
      rw [List.length_singleton, Nat.cast_one, zpow_neg_one, mul_inv_cancel_right₀ hten]
    · next hlt =>
      have hsplit : digits.take point.toNat ++ digits.drop point.toNat = digits :=
        List.take_append_drop _ _
      have hwhole : IsRun Char.isDigit (digits.take point.toNat) :=
        ⟨by rw [ne_eq, List.take_eq_nil_iff]; rintro (h | h); omega; exact hrun.1 h,
          fun c hc => hrun.2 c (List.mem_of_mem_take hc)⟩
      have hdigits : IsRun Char.isDigit (digits.drop point.toNat) :=
        ⟨by rw [ne_eq, List.drop_eq_nil_iff]; omega,
          fun c hc => hrun.2 c (List.mem_of_mem_drop hc)⟩
      refine denotes_fraction hwhole hdigits (by rwa [hsplit]) ?_
      rw [hsplit, List.length_drop]
      congr 2
      omega

theorem readExponent_exponentText (exponent : Int) :
    IsExponent (exponentText exponent) ∧ readExponent (exponentText exponent) = some exponent := by
  have hdigits := isRun_toDigits exponent.natAbs
  have hpadded : ∃ padded, exponentText exponent =
        'e' :: ([if exponent < 0 then '-' else '+'] ++ padded) ∧ IsRun Char.isDigit padded ∧
        numeral 10 padded = exponent.natAbs := by
    by_cases hshort : (Nat.toDigits 10 exponent.natAbs).length < 2
    · refine ⟨'0' :: Nat.toDigits 10 exponent.natAbs, by simp [exponentText, hshort],
        ⟨by simp, List.forall_mem_cons.2 ⟨rfl, hdigits.2⟩⟩, ?_⟩
      rw [numeral_cons, numeral_toDigits, show digitValue '0' = some 0 from rfl]
      simp
    · exact ⟨_, by simp only [exponentText, if_neg hshort, List.singleton_append], hdigits,
        numeral_toDigits _⟩
  obtain ⟨padded, htext, hrun, hvalue⟩ := hpadded
  have hinteger : IsInteger ([if exponent < 0 then '-' else '+'] ++ padded) exponent := by
    by_cases hneg : exponent < 0
    · have h := IsInteger.intro IsSign.minus hrun
      rw [hvalue] at h
      rw [if_pos hneg]
      have hsigned : signed true exponent.natAbs = exponent := by
        rw [signed, if_pos rfl]
        omega
      rwa [hsigned] at h
    · have h := IsInteger.intro IsSign.plus hrun
      rw [hvalue] at h
      rw [if_neg hneg]
      have hsigned : signed false exponent.natAbs = exponent := by
        rw [signed, if_neg Bool.false_ne_true]
        omega
      rwa [hsigned] at h
  rw [htext]
  exact ⟨.intro (.inl rfl) hinteger, readExponent_cons (.inl rfl) hinteger⟩

/-- Digits with an exponent. -/
theorem denotes_scientific {digits : List Char} (hrun : IsRun Char.isDigit digits)
    (hpos : 0 < numeral 10 digits) (exponent : Int) :
    Denotes (scientific digits exponent) (numeral 10 digits) (exponent + 1 - digits.length) := by
  obtain ⟨hexponent, hread⟩ := readExponent_exponentText exponent
  obtain ⟨d, rest, rfl⟩ := List.exists_cons_of_ne_nil hrun.1
  have hd : d.isDigit = true := hrun.2 d (List.mem_cons_self ..)
  cases rest with
  | nil =>
      refine ⟨(IsUngrouped.of_digits hrun.2).append (.of_isExponent (.inr hexponent)),
        ⟨d, _, rfl, .inl hd⟩, fun negative =>
        ⟨_, _, readMagnitude_of_exponent hrun hexponent hread negative, hpos, ?_⟩⟩
      rw [List.length_singleton, Nat.cast_one, Int.add_sub_cancel]
  | cons d' rest =>
      have hrest : IsRun Char.isDigit (d' :: rest) :=
        ⟨by simp, (List.forall_mem_cons.1 hrun.2).2⟩
      have hsingle : ∀ c ∈ [d], c.isDigit = true := by simpa using hd
      refine ⟨(IsUngrouped.of_digits hsingle).append
          (List.forall_mem_cons.2 ⟨by decide,
            (IsUngrouped.of_digits hrest.2).append (.of_isExponent (.inr hexponent))⟩),
        ⟨d, _, rfl, .inl hd⟩, fun negative =>
        ⟨_, _, readMagnitude_of_fraction hsingle hrest
          (.inr hexponent) hread negative, hpos, ?_⟩⟩
      rw [List.singleton_append]
      congr 2
      rw [List.length_cons (a := d)]
      push_cast
      ring

/-! ## Reading a double back -/

theorem ofDecimal_of_readsAs {code n digits : Nat} {power exponent : Int} (hcode : code ≠ 0)
    (hfinite : code < infinite) (h : readsAs code power n) (hdigits : 0 < digits)
    (hvalue : (digits : ℚ) * 10 ^ exponent = n * 10 ^ power) (negative : Bool) :
    ofDecimal negative digits exponent = ⟨negative, code⟩ := by
  have hn := pos_of_readsAs hcode h
  have hnearest : nearest (scaled digits exponent).1 (scaled digits exponent).2 = code := by
    rw [← h]
    refine nearest_congr (scaled_num_pos hdigits _) (scaled_den_pos _ _) (scaled_den_pos _ _) ?_
    rw [scaled_eq, scaled_eq, hvalue]
  have hdigits' : (1 : ℚ) ≤ digits := by exact_mod_cast hdigits
  have hlarge : ¬310 < exponent := by
    intro hlarge
    have hpow : (2 : ℚ) ^ (1026 : Int) ≤ 10 ^ (311 : Int) := by
      have hnat : 2 ^ 1026 ≤ 10 ^ 311 := by decide +kernel
      have hcast := (Nat.cast_le (α := ℚ)).2 hnat
      rw [Nat.cast_pow, Nat.cast_pow] at hcast
      exact_mod_cast hcast
    have hbig :
        (2 : ℚ) ^ (1026 : Int) ≤ (scaled digits exponent).1 / (scaled digits exponent).2 := by
      rw [scaled_eq]
      calc (2 : ℚ) ^ (1026 : Int) ≤ 10 ^ (311 : Int) := hpow
        _ ≤ 10 ^ exponent := zpow_le_zpow_right₀ (by norm_num) (by omega)
        _ ≤ digits * 10 ^ exponent := le_mul_of_one_le_left (by positivity) hdigits'
    rw [nearest_eq_infinite (scaled_num_pos hdigits _) (scaled_den_pos _ _) hbig] at hnearest
    exact hfinite.ne' hnearest
  have hsmall : ¬3 * exponent + digits.log2 < -1200 := by
    intro hsmall
    have htiny : ((scaled digits exponent).1 : ℚ) / (scaled digits exponent).2 <
        2 ^ (-1075 : Int) := by
      have hlog : (digits : ℚ) < 2 ^ (digits.log2 + 1) := by exact_mod_cast Nat.lt_log2_self
      have hten : (10 : ℚ) ^ exponent ≤ 2 ^ (3 * exponent) := by
        have hneg : exponent = -(exponent.natAbs : Int) := by omega
        rw [zpow_mul, hneg, zpow_neg, zpow_neg, zpow_natCast, zpow_natCast]
        exact inv_anti₀ (by positivity) (pow_le_pow_left₀ (by positivity) (by norm_num) _)
      rw [scaled_eq]
      calc (digits : ℚ) * 10 ^ exponent < 2 ^ (digits.log2 + 1) * 10 ^ exponent :=
            mul_lt_mul_of_pos_right hlog (by positivity)
        _ ≤ 2 ^ (digits.log2 + 1) * 2 ^ (3 * exponent) := by gcongr
        _ = 2 ^ (3 * exponent + (digits.log2 + 1 : Nat)) := (two_zpow_add _ _).symm
        _ ≤ 2 ^ (-1075 : Int) := zpow_le_zpow_right₀ (by norm_num) (by push_cast; omega)
    rw [nearest_eq_zero (scaled_num_pos hdigits _) (scaled_den_pos _ _) htiny] at hnearest
    exact hcode hnearest.symm
  rw [ofDecimal, if_neg hdigits.ne', if_neg hlarge, if_neg hsmall]
  unfold scaled at hnearest
  split_ifs with hneg
  · rw [if_pos hneg] at hnearest
    rw [hnearest]
  · rw [if_neg hneg] at hnearest
    rw [hnearest]

/-- The text of a magnitude that is neither zero nor infinite. -/
theorem denotes_magnitudeText {code : Nat} (hcode : code ≠ 0) (hfinite : code < infinite) :
    Denotes (magnitudeText code) (shortest code).1 (shortest code).2 := by
  obtain ⟨zeros, hvalue, hlength, hpos, hrun⟩ :=
    significant_spec (pos_of_readsAs hcode (readsAs_shortest hcode hfinite))
  have hscale : ((shortest code).1 : ℚ) * 10 ^ (shortest code).2 =
      numeral 10 (significant (shortest code).1) * 10 ^ ((shortest code).2 + zeros) := by
    rw [zpow_add₀ (by norm_num), zpow_natCast]
    conv_lhs => rw [hvalue]
    push_cast
    ring
  have htransfer : ∀ {cs : List Char} {power : Int}, power = (shortest code).2 + zeros →
      Denotes cs (numeral 10 (significant (shortest code).1)) power →
      Denotes cs (shortest code).1 (shortest code).2 := by
    rintro cs power rfl h
    refine ⟨h.chars, h.start, fun negative => ?_⟩
    rw [hscale]
    exact h.reads negative
  rw [magnitudeText, if_neg hfinite.ne, if_neg hcode]
  dsimp only
  rw [hlength]
  split
  · exact htransfer (by push_cast; ring) (denotes_positional hrun hpos _)
  · exact htransfer (by push_cast; ring) (denotes_scientific hrun hpos _)

/-- The text of a double is read as the double. -/
theorem read_text {d : Double} (h : d.code ≤ infinite) : read d.text.toList = some d := by
  obtain ⟨negative, code⟩ := d
  have hnumber : isNaN ⟨negative, code⟩ = false := by
    rw [isNaN, decide_eq_false_iff_not]
    exact not_lt.2 h
  rw [text, hnumber, if_neg Bool.false_ne_true, String.toList_ofList]
  by_cases hcode : code = 0
  · subst hcode
    cases negative <;> decide +kernel
  by_cases hinfinite : code = infinite
  · subst hinfinite
    cases negative <;> decide +kernel
  obtain ⟨hchars, hstart, hreads⟩ := denotes_magnitudeText hcode (lt_of_le_of_ne h hinfinite)
  obtain ⟨digits, exponent, hread, hdigits, hvalue⟩ := hreads negative
  rw [ofDecimal_of_readsAs hcode (lt_of_le_of_ne h hinfinite)
    (readsAs_shortest hcode (lt_of_le_of_ne h hinfinite)) hdigits hvalue] at hread
  cases negative with
  | true => exact read_of_readMagnitude .minus hchars hstart hread
  | false => exact read_of_readMagnitude .absent hchars hstart hread

/-- Two doubles can be told by their texts. -/
theorem text_injective {d e : Double} (hd : d.code ≤ infinite) (he : e.code ≤ infinite)
    (h : d.text = e.text) : d = e := by
  have hread := read_text hd
  rw [h, read_text he] at hread
  exact (Option.some.inj hread).symm

theorem nearest_le (num den : Nat) : nearest num den ≤ infinite := by
  by_cases hnum : num = 0
  · rw [nearest, if_pos hnum]
    exact Nat.zero_le _
  · rw [nearest_def hnum]
    exact Nat.min_le_left _ _

/-- A decimal is read as a number, if only as infinity. -/
theorem code_ofDecimal_le (negative : Bool) (digits : Nat) (exponent : Int) :
    (ofDecimal negative digits exponent).code ≤ infinite := by
  rw [ofDecimal]
  split_ifs
  · exact Nat.zero_le _
  · exact Nat.le_refl _
  · exact Nat.zero_le _
  · exact nearest_le _ _
  · exact nearest_le _ _

/-! ## The characters of a text -/

/-- A character that the text of a double can hold. -/
def isTextChar (c : Char) : Bool := c.isDigit || "+-.aefin".toList.contains c

theorem isTextChar_of_isDigit {c : Char} (h : c.isDigit = true) : isTextChar c = true := by
  rw [isTextChar, h, Bool.true_or]

theorem isTextChar_of_mem_toString (n : Int) : ∀ c ∈ (toString n).toList, isTextChar c = true := by
  obtain ⟨sign, negative, htext, hsign, -⟩ := exists_sign_toString n
  rw [htext]
  refine List.forall_mem_append.2 ⟨?_, fun c hc =>
    isTextChar_of_isDigit ((isRun_toDigits _).2 c hc)⟩
  cases hsign <;> decide

theorem isTextChar_of_mem_positional {digits : List Char} (point : Int)
    (h : ∀ c ∈ digits, isTextChar c = true) :
    ∀ c ∈ positional digits point, isTextChar c = true := by
  have hzeros : ∀ n, ∀ c ∈ List.replicate n '0', isTextChar c = true := fun n c hc =>
    isTextChar_of_isDigit (isDigit_of_mem_zeros n c hc)
  unfold positional
  dsimp only
  split_ifs
  · exact List.forall_mem_cons.2 ⟨rfl, List.forall_mem_cons.2 ⟨rfl,
      List.forall_mem_append.2 ⟨hzeros _, h⟩⟩⟩
  · exact List.forall_mem_append.2 ⟨List.forall_mem_append.2 ⟨h, hzeros _⟩, by decide⟩
  · exact List.forall_mem_append.2 ⟨fun c hc => h c (List.mem_of_mem_take hc),
      List.forall_mem_cons.2 ⟨rfl, fun c hc => h c (List.mem_of_mem_drop hc)⟩⟩

theorem isTextChar_of_mem_scientific {digits : List Char} (exponent : Int)
    (h : ∀ c ∈ digits, isTextChar c = true) :
    ∀ c ∈ scientific digits exponent, isTextChar c = true := by
  have hexponent : ∀ c ∈ exponentText exponent, isTextChar c = true := by
    have hdigits : ∀ c ∈ Nat.toDigits 10 exponent.natAbs, isTextChar c = true := fun c hc =>
      isTextChar_of_isDigit ((isRun_toDigits _).2 c hc)
    unfold exponentText
    dsimp only
    refine List.forall_mem_cons.2 ⟨rfl, List.forall_mem_cons.2 ⟨?_, ?_⟩⟩
    · split_ifs <;> rfl
    · split_ifs
      · exact List.forall_mem_cons.2 ⟨rfl, hdigits⟩
      · exact hdigits
  unfold scientific
  split
  · exact nofun
  · exact List.forall_mem_cons.2 ⟨h _ (List.mem_cons_self ..), hexponent⟩
  · obtain ⟨hd, hrest⟩ := List.forall_mem_cons.1 h
    exact List.forall_mem_cons.2 ⟨hd, List.forall_mem_cons.2 ⟨rfl,
      List.forall_mem_append.2 ⟨hrest, hexponent⟩⟩⟩

theorem isTextChar_of_mem_text (d : Double) : ∀ c ∈ d.text.toList, isTextChar c = true := by
  have hdigits : ∀ n, ∀ c ∈ significant n, isTextChar c = true := fun n c hc =>
    isTextChar_of_isDigit (isDigit_of_mem_significant c hc)
  have hmagnitude : ∀ c ∈ magnitudeText d.code, isTextChar c = true := by
    unfold magnitudeText
    dsimp only
    split_ifs
    · decide
    · decide
    · exact isTextChar_of_mem_positional _ (hdigits _)
    · exact isTextChar_of_mem_scientific _ (hdigits _)
  unfold text
  split_ifs
  · decide
  · rw [String.toList_ofList]
    exact List.forall_mem_cons.2 ⟨rfl, hmagnitude⟩
  · rw [String.toList_ofList]
    exact hmagnitude

end Double

end ThriftSchema.Number
