import ThriftSchema.Proofs.Text.Numeral

set_option autoImplicit false

/-! # Measures and the text behind

A measure may look beyond what it measures: a run goes on as long as it can, and an exponent is
tried before there is known to be one. Still a measure is a matter of what it measures. Where
that lies in front of a cut it is measured without the text behind the cut as well, and where
nothing is measured with the text behind, nothing is measured without it.
-/

namespace ThriftSchema

/-- A measure to which the text behind what it measures makes no difference. -/
structure IsLocal (measure : List Char → Option Nat) : Prop where
  nil : measure [] = none
  pos : ∀ {cs n}, measure cs = some n → 0 < n
  some : ∀ {cs rest n}, measure (cs ++ rest) = some n → n ≤ cs.length → measure cs = some n
  none : ∀ {cs rest}, measure (cs ++ rest) = none → measure cs = none

/-- A measure that measures nothing of the empty text, and something of what it measures: only
texts with a first character have to be looked at. -/
theorem IsLocal.of_cons {measure : List Char → Option Nat} (hnil : measure [] = Option.none)
    (hpos : ∀ {cs n}, measure cs = Option.some n → 0 < n)
    (hsome : ∀ {c cs rest n}, measure (c :: (cs ++ rest)) = Option.some n → n ≤ cs.length + 1 →
      measure (c :: cs) = Option.some n)
    (hnone : ∀ {c cs rest}, measure (c :: (cs ++ rest)) = Option.none →
      measure (c :: cs) = Option.none) : IsLocal measure where
  nil := hnil
  pos := hpos
  some {cs rest n} h hn := by
    cases cs with
    | nil => exact absurd hn (Nat.not_le_of_lt (hpos h))
    | cons c cs => exact hsome h hn
  none {cs rest} h := by
    cases cs with
    | nil => exact hnil
    | cons c cs => exact hnone h

namespace Pattern

/-! ## Runs -/

theorem spanLength_of_append (p : Char → Bool) (cs rest : List Char) :
    spanLength p cs = min (spanLength p (cs ++ rest)) cs.length := by
  induction cs with
  | nil => simp [spanLength]
  | cons c cs ih =>
      cases hc : p c with
      | false => simp [spanLength, hc]
      | true =>
          simp only [spanLength, List.cons_append, List.takeWhile_cons_of_pos hc,
            List.length_cons] at ih ⊢
          omega

theorem isLocal_someLength (p : Char → Bool) : IsLocal (someLength p) := by
  have heq : ∀ {cs n}, someLength p cs = some n ↔ spanLength p cs = n ∧ 0 < n := by
    intro cs n
    rw [someLength]
    cases spanLength p cs <;> simp <;> omega
  have hnone : ∀ {cs}, someLength p cs = none ↔ spanLength p cs = 0 := by
    intro cs
    rw [someLength]
    cases spanLength p cs <;> simp
  refine ⟨rfl, fun h => (heq.1 h).2, fun {cs rest n} h hn => ?_, fun {cs rest} h => ?_⟩
  · obtain ⟨hspan, hpos⟩ := heq.1 h
    rw [heq, spanLength_of_append p cs rest, hspan]
    exact ⟨Nat.min_eq_left hn, hpos⟩
  · rw [hnone, spanLength_of_append p cs rest, hnone.1 h, Nat.zero_min]

theorem isLocal_wordLength (p q : Char → Bool) : IsLocal (wordLength p q) := by
  refine .of_cons rfl (fun {cs n} h => ?_) (fun {c cs rest n} h hn => ?_)
    fun {c cs rest} h => ?_
  · obtain ⟨word, _, _, rfl, hword, _⟩ := wordLength_eq_some h
    cases word with
    | nil => exact hword.elim
    | cons c word => exact Nat.succ_pos _
  · rw [wordLength] at h ⊢
    split at h
    · next hc =>
      rw [if_pos hc, spanLength_of_append q cs rest]
      rw [← Option.some.inj h] at hn
      rw [← h, Nat.min_eq_left (by omega)]
    · cases h
  · rw [wordLength] at h ⊢
    split at h
    · cases h
    · next hc => rw [if_neg hc]

theorem isLocal_quotedLength : IsLocal quotedLength := by
  refine .of_cons rfl (fun {cs n} h => ?_) (fun {c cs rest n} h hn => ?_)
    fun {c cs rest} h => ?_
  · obtain ⟨quoted, _, _, _, rfl, hquoted⟩ := quotedLength_eq_some h
    cases hquoted
    exact Nat.succ_pos _
  · rw [quotedLength] at h ⊢
    split at h
    · next hc =>
      rw [if_pos hc]
      dsimp only at h ⊢
      split at h
      · cases h
      · -- the quote that closes lies in front of the cut
        have hlength := Option.some.inj h
        rw [spanLength_of_append _ cs rest, Nat.min_eq_left (by omega), if_neg, h]
        rw [List.isEmpty_iff, List.drop_eq_nil_iff]
        omega
    · cases h
  · rw [quotedLength] at h ⊢
    split at h
    · next hc =>
      rw [if_pos hc]
      dsimp only at h ⊢
      split at h
      · next hempty =>
        rw [List.isEmpty_iff, List.drop_eq_nil_iff, List.length_append] at hempty
        rw [if_pos]
        rw [List.isEmpty_iff, List.drop_eq_nil_iff, spanLength_of_append _ cs rest]
        omega
      · cases h
    · next hc => rw [if_neg hc]

theorem isLocal_separatorLength : IsLocal separatorLength := by
  refine .of_cons rfl (fun {cs n} h => ?_) (fun h _ => h) fun h => h
  cases cs with
  | nil => cases h
  | cons c cs =>
      rw [separatorLength] at h
      split at h <;> cases h
      exact Nat.succ_pos _

/-! ## Parts one after the other -/

/-- A measure behind a first character of a class. -/
theorem isLocal_after {measure : List Char → Option Nat} (h : IsLocal measure)
    (p : Char → Bool) :
    IsLocal (fun cs => match cs with
      | c :: cs => if p c then (measure cs).map (1 + ·) else none
      | [] => none) := by
  refine .of_cons rfl (fun {cs n} h' => ?_) (fun {c cs rest n} h' hn => ?_)
    fun {c cs rest} h' => ?_
  · cases cs with
    | nil => cases h'
    | cons c cs =>
        dsimp only at h'
        split at h'
        · obtain ⟨k, -, rfl⟩ := Option.map_eq_some_iff.1 h'
          omega
        · cases h'
  · dsimp only at h' ⊢
    split at h'
    · next hc =>
      obtain ⟨k, hk, rfl⟩ := Option.map_eq_some_iff.1 h'
      rw [if_pos hc, h.some hk (by omega), Option.map_some]
    · cases h'
  · dsimp only at h' ⊢
    split at h'
    · next hc => rw [if_pos hc, h.none (Option.map_eq_none_iff.1 h'), Option.map_none]
    · next hc => rw [if_neg hc]

/-- A measure behind a sign, which may be missing. -/
theorem isLocal_signed {measure : List Char → Option Nat} (h : IsLocal measure) :
    IsLocal (fun cs => (measure (cs.drop (signLength cs))).map (signLength cs + ·)) := by
  -- the first character alone tells the sign
  have hsign : ∀ c cs rest, signLength (c :: (cs ++ rest)) = signLength (c :: cs) ∧
      (c :: (cs ++ rest)).drop (signLength (c :: cs)) =
        (c :: cs).drop (signLength (c :: cs)) ++ rest := by
    intro c cs rest
    have hle : signLength (c :: cs) ≤ (c :: cs).length := by
      rw [signLength]
      split <;> simp
    exact ⟨rfl, List.drop_append_of_le_length hle⟩
  refine .of_cons (by simp [h.nil]) (fun {cs n} h' => ?_) (fun {c cs rest n} h' hn => ?_)
    fun {c cs rest} h' => ?_
  · obtain ⟨k, hk, rfl⟩ := Option.map_eq_some_iff.1 h'
    have := h.pos hk
    omega
  · obtain ⟨hlength, hdrop⟩ := hsign c cs rest
    rw [hlength, hdrop] at h'
    obtain ⟨k, hk, rfl⟩ := Option.map_eq_some_iff.1 h'
    rw [h.some hk (by rw [List.length_drop, List.length_cons]; omega), Option.map_some]
  · obtain ⟨hlength, hdrop⟩ := hsign c cs rest
    rw [hlength, hdrop] at h'
    rw [h.none (Option.map_eq_none_iff.1 h'), Option.map_none]

/-! ## Numbers -/

theorem isLocal_integerLength : IsLocal integerLength :=
  isLocal_signed (isLocal_someLength Char.isDigit)

theorem isLocal_exponentLength : IsLocal exponentLength := by
  have heq : exponentLength = fun cs => match cs with
      | c :: cs => if c == 'e' || c == 'E' then (integerLength cs).map (1 + ·) else none
      | [] => none := by
    funext cs
    cases cs <;> rfl
  rw [heq]
  exact isLocal_after isLocal_integerLength fun c => c == 'e' || c == 'E'

/-- The length of an `x` and hexadecimal digits. -/
def markedLength : List Char → Option Nat
  | x :: digits =>
    if x == 'x' || x == 'X' then (someLength isHexDigit digits).map (1 + ·) else none
  | [] => none

/-- The length of a zero, an `x` and hexadecimal digits. -/
def prefixedLength : List Char → Option Nat
  | c :: cs => if c == '0' then (markedLength cs).map (1 + ·) else none
  | [] => none

theorem isLocal_markedLength : IsLocal markedLength := by
  have heq : markedLength = fun cs => match cs with
      | x :: digits =>
        if x == 'x' || x == 'X' then (someLength isHexDigit digits).map (1 + ·) else none
      | [] => none := by
    funext cs
    cases cs <;> rfl
  rw [heq]
  exact isLocal_after (isLocal_someLength isHexDigit) fun x => x == 'x' || x == 'X'

theorem isLocal_prefixedLength : IsLocal prefixedLength := by
  have heq : prefixedLength = fun cs => match cs with
      | c :: cs => if c == '0' then (markedLength cs).map (1 + ·) else none
      | [] => none := by
    funext cs
    cases cs <;> rfl
  rw [heq]
  exact isLocal_after isLocal_markedLength fun c => c == '0'

theorem hexadecimalLength_eq (cs : List Char) :
    hexadecimalLength cs
      = (prefixedLength (cs.drop (signLength cs))).map (signLength cs + ·) := by
  rw [hexadecimalLength]
  generalize cs.drop (signLength cs) = after
  split
  · next x digits =>
    show (if x == 'x' || x == 'X' then (someLength isHexDigit digits).map (signLength cs + 2 + ·)
      else none) = ((markedLength (x :: digits)).map (1 + ·)).map (signLength cs + ·)
    rw [markedLength]
    split
    · rw [Option.map_map, Option.map_map]
      congr 1
      funext n
      simp only [Function.comp]
      omega
    · rfl
  · next hother =>
    cases after with
    | nil => rfl
    | cons c after =>
        rw [prefixedLength]
        split
        · next hc =>
          cases after with
          | nil => rfl
          | cons x digits =>
              obtain rfl : c = '0' := by simpa using hc
              exact (hother x digits rfl).elim
        · rfl

theorem isLocal_hexadecimalLength : IsLocal hexadecimalLength := by
  rw [funext hexadecimalLength_eq]
  exact isLocal_signed isLocal_prefixedLength

/-- The length of digits and an exponent, which may be missing. -/
def digitsLength (cs : List Char) : Option Nat :=
  (someLength Char.isDigit cs).map fun n => n + (exponentLength (cs.drop n)).getD 0

theorem isLocal_digitsLength : IsLocal digitsLength := by
  have hsome := isLocal_someLength Char.isDigit
  have hdrop : ∀ {cs rest : List Char} {n : Nat}, n ≤ cs.length →
      (cs ++ rest).drop n = cs.drop n ++ rest := List.drop_append_of_le_length
  refine ⟨rfl, fun {cs n} h => ?_, fun {cs rest n} h hn => ?_, fun {cs rest} h => ?_⟩
  · obtain ⟨k, hk, rfl⟩ := Option.map_eq_some_iff.1 h
    have := hsome.pos hk
    omega
  · obtain ⟨k, hk, rfl⟩ := Option.map_eq_some_iff.1 h
    rw [digitsLength, hsome.some hk (by omega), Option.map_some]
    rw [hdrop (by omega)] at hn ⊢
    cases he : exponentLength (cs.drop k ++ rest) with
    | none => rw [isLocal_exponentLength.none he]
    | some e =>
        rw [he, Option.getD_some] at hn
        rw [isLocal_exponentLength.some he (by rw [List.length_drop]; omega)]
  · rw [digitsLength, hsome.none (Option.map_eq_none_iff.1 h), Option.map_none]

theorem fractionLength_eq (cs : List Char) :
    fractionLength cs = match cs with
      | c :: cs => if c == '.' then (digitsLength cs).map (1 + ·) else none
      | [] => none := by
  cases cs with
  | nil => rfl
  | cons c cs =>
      show _ = if c == '.' then (digitsLength cs).map (1 + ·) else none
      rw [fractionLength, digitsLength]
      cases someLength Char.isDigit cs with
      | none => rfl
      | some n => simp only [Option.map_some, Nat.add_assoc]

theorem isLocal_fractionLength : IsLocal fractionLength := by
  rw [funext fractionLength_eq]
  exact isLocal_after isLocal_digitsLength fun c => c == '.'

/-- The length of a decimal without its sign. -/
def unsignedLength (cs : List Char) : Option Nat :=
  let whole := spanLength Char.isDigit cs
  if whole = 0 then fractionLength (cs.drop whole)
  else ((exponentLength (cs.drop whole)).or (fractionLength (cs.drop whole))).map (whole + ·)

theorem isLocal_or {measure measure' : List Char → Option Nat} (h : IsLocal measure)
    (h' : IsLocal measure') : IsLocal (fun cs => (measure cs).or (measure' cs)) := by
  refine ⟨by simp [h.nil, h'.nil], fun hor => ?_, fun hor hn => ?_, fun hor => ?_⟩
  · rcases Option.or_eq_some_iff.1 hor with hfirst | ⟨-, hsecond⟩
    · exact h.pos hfirst
    · exact h'.pos hsecond
  · rcases Option.or_eq_some_iff.1 hor with hfirst | ⟨hfirst, hsecond⟩
    · rw [h.some hfirst hn, Option.some_or]
    · rw [h.none hfirst, Option.none_or, h'.some hsecond hn]
  · rw [Option.or_eq_none_iff] at hor
    rw [h.none hor.1, h'.none hor.2, Option.none_or]

theorem isLocal_unsignedLength : IsLocal unsignedLength := by
  have hor := isLocal_or isLocal_exponentLength isLocal_fractionLength
  have hspan := spanLength_of_append Char.isDigit
  have hdrop : ∀ {cs rest : List Char} {n : Nat}, n ≤ cs.length →
      (cs ++ rest).drop n = cs.drop n ++ rest := List.drop_append_of_le_length
  refine ⟨rfl, fun {cs n} h => ?_, fun {cs rest n} h hn => ?_, fun {cs rest} h => ?_⟩
  · rw [unsignedLength] at h
    split at h
    · exact isLocal_fractionLength.pos h
    · obtain ⟨k, -, rfl⟩ := Option.map_eq_some_iff.1 h
      omega
  · rw [unsignedLength] at h ⊢
    split at h
    · next hzero =>
      have hwhole : spanLength Char.isDigit cs = 0 := by rw [hspan cs rest, hzero, Nat.zero_min]
      rw [hzero, List.drop_zero] at h
      rw [if_pos hwhole, hwhole, List.drop_zero, isLocal_fractionLength.some h hn]
    · next hne =>
      obtain ⟨k, hk, rfl⟩ := Option.map_eq_some_iff.1 h
      have hwhole : spanLength Char.isDigit cs = spanLength Char.isDigit (cs ++ rest) := by
        rw [hspan cs rest, Nat.min_eq_left (by omega)]
      rw [hdrop (by omega)] at hk
      rw [hwhole, if_neg hne, hor.some hk (by rw [List.length_drop]; omega), Option.map_some]
  · rw [unsignedLength] at h ⊢
    split at h
    · next hzero =>
      have hwhole : spanLength Char.isDigit cs = 0 := by rw [hspan cs rest, hzero, Nat.zero_min]
      rw [hzero, List.drop_zero] at h
      rw [if_pos hwhole, hwhole, List.drop_zero, isLocal_fractionLength.none h]
    · -- the digits end in front of the cut, or with it
      by_cases hcut : spanLength Char.isDigit (cs ++ rest) ≤ cs.length
      · next hne =>
        have hwhole : spanLength Char.isDigit cs = spanLength Char.isDigit (cs ++ rest) := by
          rw [hspan cs rest, Nat.min_eq_left hcut]
        rw [hdrop hcut] at h
        rw [hwhole, if_neg hne, hor.none (Option.map_eq_none_iff.1 h), Option.map_none]
      · have hwhole : spanLength Char.isDigit cs = cs.length := by
          rw [hspan cs rest, Nat.min_eq_right (by omega)]
        rw [hwhole, List.drop_length]
        split <;> rfl

theorem decimalLength_eq (cs : List Char) :
    decimalLength cs = (unsignedLength (cs.drop (signLength cs))).map (signLength cs + ·) := by
  rw [decimalLength, unsignedLength]
  simp only [List.drop_drop]
  split
  · rfl
  · rw [Option.map_map]
    congr 1
    funext n
    exact Nat.add_assoc ..

theorem isLocal_decimalLength : IsLocal decimalLength := by
  rw [funext decimalLength_eq]
  exact isLocal_signed isLocal_unsignedLength

end Pattern

end ThriftSchema
