import ThriftSchema.Proofs.Text.Lexeme

set_option autoImplicit false

/-! # Numerals

The spellings of numbers as classes of texts: decimal and hexadecimal integers, each with the
integer that it denotes, and decimals. A numeral is a sign that may be missing and the digits of
a base, which denote a number by their places.
-/

namespace ThriftSchema

open Number (signed)

/-! ## The classes -/

/-- A sign and whether it is a minus; it may be missing. -/
inductive IsSign : List Char → Bool → Prop
  | absent : IsSign [] false
  | plus : IsSign ['+'] false
  | minus : IsSign ['-'] true

/-- The number that digits of a base denote, the highest first. -/
def numeral (base : Nat) (digits : List Char) : Nat :=
  Nat.ofDigits base (digits.reverse.map fun c => (Number.digitValue c).getD 0)

/-- A sign and decimal digits, and the integer they denote. -/
inductive IsInteger : List Char → Int → Prop
  | intro {sign digits : List Char} {negative : Bool} (hsign : IsSign sign negative)
      (hdigits : IsRun Char.isDigit digits) :
      IsInteger (sign ++ digits) (signed negative (numeral 10 digits))

/-- A sign, `0x` and hexadecimal digits, and the integer they denote. -/
inductive IsHexadecimal : List Char → Int → Prop
  | intro {sign digits : List Char} {negative : Bool} {mark : Char}
      (hsign : IsSign sign negative) (hmark : mark = 'x' ∨ mark = 'X')
      (hdigits : IsRun Pattern.isHexDigit digits) :
      IsHexadecimal (sign ++ '0' :: mark :: digits) (signed negative (numeral 16 digits))

/-- An `e` and an integer. -/
inductive IsExponent : List Char → Prop
  | intro {mark : Char} {cs : List Char} {value : Int} (hmark : mark = 'e' ∨ mark = 'E')
      (hcs : IsInteger cs value) : IsExponent (mark :: cs)

/-- A sign, and digits with an exponent, or a point with digits behind it and maybe before it,
and an exponent that may be missing. -/
inductive IsDecimal : List Char → Prop
  | exponent {sign whole e : List Char} {negative : Bool} (hsign : IsSign sign negative)
      (hwhole : IsRun Char.isDigit whole) (he : IsExponent e) : IsDecimal (sign ++ (whole ++ e))
  | fraction {sign whole digits e : List Char} {negative : Bool} (hsign : IsSign sign negative)
      (hwhole : ∀ c ∈ whole, c.isDigit = true) (hdigits : IsRun Char.isDigit digits)
      (he : e = [] ∨ IsExponent e) : IsDecimal (sign ++ (whole ++ '.' :: (digits ++ e)))

/-! ## What patterns measure -/

namespace Pattern

/-- Whether a character is a sign. -/
def isSignChar (c : Char) : Bool := c == '+' || c == '-'

theorem signLength_append {sign rest : List Char} {negative : Bool} (h : IsSign sign negative)
    (hr : NotAhead isSignChar rest) : signLength (sign ++ rest) = sign.length := by
  cases h with
  | absent =>
      cases rest with
      | nil => rfl
      | cons c cs =>
          have hc : (c == '+' || c == '-') = false := notAhead_cons.1 hr
          simp [signLength, hc]
  | plus => rfl
  | minus => rfl

/-- A text is a sign and what follows it; what follows a missing sign is none. -/
theorem exists_sign (cs : List Char) :
    ∃ sign rest negative, cs = sign ++ rest ∧ IsSign sign negative ∧
      signLength cs = sign.length := by
  cases cs with
  | nil => exact ⟨[], [], false, rfl, .absent, rfl⟩
  | cons c cs =>
      by_cases hplus : c = '+'
      · exact ⟨['+'], cs, false, by rw [hplus]; rfl, .plus, by rw [hplus]; rfl⟩
      by_cases hminus : c = '-'
      · exact ⟨['-'], cs, true, by rw [hminus]; rfl, .minus, by rw [hminus]; rfl⟩
      · exact ⟨[], c :: cs, false, rfl, .absent, by simp [signLength, hplus, hminus]⟩

theorem not_isSignChar_of_isDigit {c : Char} (h : c.isDigit = true) : isSignChar c = false := by
  cases hc : isSignChar c with
  | false => rfl
  | true =>
      simp only [isSignChar, Bool.or_eq_true, beq_iff_eq] at hc
      rcases hc with rfl | rfl <;> exact absurd h (by decide)

/-- A run of digits does not start with a sign, whatever follows it. -/
theorem notAhead_sign_of_digits {digits : List Char} (h : IsRun Char.isDigit digits)
    (rest : List Char) : NotAhead isSignChar (digits ++ rest) := by
  cases digits with
  | nil => exact absurd rfl h.1
  | cons d ds =>
      exact notAhead_cons.2 (not_isSignChar_of_isDigit (h.2 d (List.mem_cons_self ..)))

theorem integerLength_append {cs rest : List Char} {value : Int} (h : IsInteger cs value)
    (hr : NotAhead Char.isDigit rest) : integerLength (cs ++ rest) = some cs.length := by
  cases h with
  | @intro sign digits negative hsign hdigits =>
    rw [List.append_assoc, integerLength,
      signLength_append hsign (notAhead_sign_of_digits hdigits rest)]
    simp only [List.drop_left]
    rw [someLength_append hdigits hr, Option.map_some, List.length_append]

theorem integerLength_eq_some {cs : List Char} {n : Nat} (h : integerLength cs = some n) :
    ∃ lexeme rest value, cs = lexeme ++ rest ∧ lexeme.length = n ∧ IsInteger lexeme value ∧
      NotAhead Char.isDigit rest := by
  obtain ⟨sign, after, negative, rfl, hsign, hlen⟩ := exists_sign cs
  rw [integerLength, hlen] at h
  simp only [List.drop_left, Option.map_eq_some_iff] at h
  obtain ⟨count, hcount, rfl⟩ := h
  obtain ⟨digits, rest, rfl, rfl, hdigits, hrest⟩ := someLength_eq_some hcount
  exact ⟨sign ++ digits, rest, _, (List.append_assoc ..).symm, List.length_append,
    .intro hsign hdigits, hrest⟩

theorem hexadecimalLength_append {cs rest : List Char} {value : Int}
    (h : IsHexadecimal cs value) (hr : NotAhead isHexDigit rest) :
    hexadecimalLength (cs ++ rest) = some cs.length := by
  cases h with
  | @intro sign digits negative mark hsign hmark hdigits =>
    rw [List.append_assoc, hexadecimalLength, signLength_append hsign (by simp [isSignChar])]
    have hx : (mark == 'x' || mark == 'X') = true := by simpa using hmark
    simp only [List.drop_left, List.cons_append, hx, if_true]
    rw [someLength_append hdigits hr, Option.map_some, List.length_append, List.length_cons,
      List.length_cons]
    congr 1
    omega

theorem hexadecimalLength_eq_some {cs : List Char} {n : Nat}
    (h : hexadecimalLength cs = some n) :
    ∃ lexeme rest value, cs = lexeme ++ rest ∧ lexeme.length = n ∧
      IsHexadecimal lexeme value ∧ NotAhead isHexDigit rest := by
  obtain ⟨sign, after, negative, rfl, hsign, hlen⟩ := exists_sign cs
  rw [hexadecimalLength, hlen] at h
  simp only [List.drop_left] at h
  split at h
  · next x after' =>
    split at h
    · next hmark =>
      obtain ⟨count, hcount, rfl⟩ := Option.map_eq_some_iff.1 h
      obtain ⟨digits, rest, rfl, rfl, hdigits, hrest⟩ := someLength_eq_some hcount
      refine ⟨sign ++ '0' :: x :: digits, rest, _, by simp, ?_,
        .intro hsign (by simpa using hmark) hdigits, hrest⟩
      rw [List.length_append, List.length_cons, List.length_cons]
      omega
    · simp at h
  · simp at h

theorem exponentLength_append {cs rest : List Char} (h : IsExponent cs)
    (hr : NotAhead Char.isDigit rest) : exponentLength (cs ++ rest) = some cs.length := by
  cases h with
  | @intro mark cs value hmark hcs =>
    have hm : (mark == 'e' || mark == 'E') = true := by simpa using hmark
    rw [List.cons_append, exponentLength, if_pos hm, integerLength_append hcs hr,
      Option.map_some, List.length_cons, Nat.add_comm]

theorem exponentLength_eq_some {cs : List Char} {n : Nat} (h : exponentLength cs = some n) :
    ∃ lexeme rest, cs = lexeme ++ rest ∧ lexeme.length = n ∧ IsExponent lexeme ∧
      NotAhead Char.isDigit rest := by
  cases cs with
  | nil => simp [exponentLength] at h
  | cons mark cs =>
      rw [exponentLength] at h
      split at h
      · next hmark =>
        obtain ⟨count, hcount, rfl⟩ := Option.map_eq_some_iff.1 h
        obtain ⟨lexeme, rest, value, rfl, rfl, hlexeme, hrest⟩ := integerLength_eq_some hcount
        exact ⟨mark :: lexeme, rest, rfl, by rw [List.length_cons, Nat.add_comm],
          .intro (by simpa using hmark) hlexeme, hrest⟩
      · simp at h

/-- An exponent starts with a letter. -/
theorem exponentLength_of_notAhead {cs : List Char} (h : NotAhead isNameChar cs) :
    exponentLength cs = none := by
  cases cs with
  | nil => rfl
  | cons c cs =>
      rw [exponentLength, if_neg]
      intro hc
      simp only [Bool.or_eq_true, beq_iff_eq] at hc
      rcases hc with rfl | rfl <;> exact absurd (notAhead_cons.1 h) (by decide)

theorem isNameChar_of_isDigit {c : Char} (h : c.isDigit = true) : isNameChar c = true := by
  simp [isNameChar, Char.isAlphanum, h]

/-- An exponent that may be missing, in front of a text that is not part of a name. -/
theorem getD_exponentLength_append {e rest : List Char} (he : e = [] ∨ IsExponent e)
    (hr : NotAhead isNameChar rest) : (exponentLength (e ++ rest)).getD 0 = e.length := by
  rcases he with rfl | he
  · rw [List.nil_append, exponentLength_of_notAhead hr]
    rfl
  · rw [exponentLength_append he (hr.mono fun _ => isNameChar_of_isDigit), Option.getD_some]

theorem notAhead_digit_of_exponent {e rest : List Char} (he : e = [] ∨ IsExponent e)
    (hr : NotAhead isNameChar rest) : NotAhead Char.isDigit (e ++ rest) := by
  rcases he with rfl | ⟨hmark, _⟩
  · exact hr.mono fun _ => isNameChar_of_isDigit
  · rcases hmark with rfl | rfl <;> simp

theorem fractionLength_append {digits e rest : List Char} (hdigits : IsRun Char.isDigit digits)
    (he : e = [] ∨ IsExponent e) (hr : NotAhead isNameChar rest) :
    fractionLength ('.' :: (digits ++ e) ++ rest) = some (1 + digits.length + e.length) := by
  rw [List.cons_append, List.append_assoc, fractionLength, if_pos (by decide),
    someLength_append hdigits (notAhead_digit_of_exponent he hr), Option.map_some,
    List.drop_left, getD_exponentLength_append he hr]

theorem fractionLength_eq_some {cs : List Char} {n : Nat} (h : fractionLength cs = some n) :
    ∃ digits e rest, cs = '.' :: (digits ++ e) ++ rest ∧ n = 1 + digits.length + e.length ∧
      IsRun Char.isDigit digits ∧ (e = [] ∨ IsExponent e) ∧ NotAhead Char.isDigit rest := by
  cases cs with
  | nil => simp [fractionLength] at h
  | cons c cs =>
      rw [fractionLength] at h
      split at h
      · next hc =>
        obtain rfl : c = '.' := by simpa using hc
        obtain ⟨count, hcount, rfl⟩ := Option.map_eq_some_iff.1 h
        obtain ⟨digits, rest, rfl, rfl, hdigits, hrest⟩ := someLength_eq_some hcount
        rw [List.drop_left]
        cases he : exponentLength rest with
        | none => exact ⟨digits, [], rest, by simp, rfl, hdigits, .inl rfl, hrest⟩
        | some k =>
            obtain ⟨e, rest', rfl, rfl, hexp, hrest'⟩ := exponentLength_eq_some he
            exact ⟨digits, e, rest', by simp, rfl, hdigits, .inr hexp, hrest'⟩
      · simp at h

theorem decimalLength_append {cs rest : List Char} (h : IsDecimal cs)
    (hr : NotAhead isNameChar rest) : decimalLength (cs ++ rest) = some cs.length := by
  cases h with
  | @exponent sign whole e negative hsign hwhole he =>
    have hspan : spanLength Char.isDigit (whole ++ (e ++ rest)) = whole.length :=
      spanLength_append hwhole.2 (notAhead_digit_of_exponent (.inr he) hr)
    have hne : whole.length ≠ 0 := mt List.length_eq_zero_iff.1 hwhole.1
    rw [List.append_assoc, List.append_assoc, decimalLength,
      signLength_append hsign (notAhead_sign_of_digits hwhole _)]
    simp only [List.drop_left, hspan, if_neg hne]
    rw [← List.drop_drop, List.drop_left, List.drop_left,
      exponentLength_append he (hr.mono fun _ => isNameChar_of_isDigit)]
    simp only [Option.some_or, Option.map_some, List.length_append]
    congr 1
    omega
  | @fraction sign whole digits e negative hsign hwhole hdigits he =>
    have hspan : spanLength Char.isDigit (whole ++ ('.' :: (digits ++ e) ++ rest))
        = whole.length := spanLength_append hwhole (by simp)
    have hsigned : NotAhead isSignChar (whole ++ ('.' :: (digits ++ e) ++ rest)) := by
      cases whole with
      | nil => simp [isSignChar]
      | cons d ds => exact notAhead_sign_of_digits ⟨by simp, hwhole⟩ _
    have hpoint : exponentLength ('.' :: (digits ++ e) ++ rest) = none := by
      simp [exponentLength]
    rw [List.append_assoc, List.append_assoc, decimalLength, signLength_append hsign hsigned]
    simp only [List.drop_left, hspan]
    rw [← List.drop_drop, List.drop_left, List.drop_left, hpoint,
      fractionLength_append hdigits he hr]
    simp only [Option.none_or, Option.map_some, List.length_append, List.length_cons]
    split <;> (congr 1; omega)

theorem decimalLength_eq_some {cs : List Char} {n : Nat} (h : decimalLength cs = some n) :
    ∃ lexeme rest, cs = lexeme ++ rest ∧ lexeme.length = n ∧ IsDecimal lexeme ∧
      NotAhead Char.isDigit rest := by
  obtain ⟨sign, after, negative, rfl, hsign, hlen⟩ := exists_sign cs
  obtain ⟨whole, after, rfl, hwhole, hafter⟩ := exists_span Char.isDigit after
  rw [decimalLength, hlen] at h
  simp only [List.drop_left, spanLength_append hwhole hafter] at h
  rw [← List.drop_drop, List.drop_left, List.drop_left] at h
  -- a fraction may follow whether or not there are digits in front of it
  have hfraction : ∀ k, fractionLength after = some k → sign.length + whole.length + k = n →
      ∃ lexeme rest, sign ++ (whole ++ after) = lexeme ++ rest ∧ lexeme.length = n ∧
        IsDecimal lexeme ∧ NotAhead Char.isDigit rest := by
    intro k hk hn
    obtain ⟨digits, e, rest, rfl, rfl, hdigits, he, hrest⟩ := fractionLength_eq_some hk
    refine ⟨sign ++ (whole ++ '.' :: (digits ++ e)), rest, by simp, ?_,
      .fraction hsign hwhole hdigits he, hrest⟩
    simp only [List.length_append, List.length_cons]
    omega
  split at h
  · next hzero =>
    obtain ⟨k, hk, rfl⟩ := Option.map_eq_some_iff.1 h
    exact hfraction k hk (by omega)
  · next hne =>
    obtain ⟨k, hk, rfl⟩ := Option.map_eq_some_iff.1 h
    rcases Option.or_eq_some_iff.1 hk with he | ⟨_, hk⟩
    · obtain ⟨e, rest, rfl, rfl, hexp, hrest⟩ := exponentLength_eq_some he
      refine ⟨sign ++ (whole ++ e), rest, by simp, ?_, .exponent hsign ⟨?_, hwhole⟩ hexp, hrest⟩
      · simp only [List.length_append]
        omega
      · exact fun hnil => hne (by rw [hnil]; rfl)
    · exact hfraction k hk rfl

/-! ## Lexemes are parts of the text -/

/-- What the pattern measures is ahead. -/
def Fits (p : Pattern) : Prop := ∀ cs n, p.measure cs = some n → n ≤ cs.length

theorem fits_of_exists {p : Pattern}
    (h : ∀ {cs n}, p.measure cs = some n → ∃ lexeme rest, cs = lexeme ++ rest ∧
      lexeme.length = n) : p.Fits := by
  intro cs n hn
  obtain ⟨lexeme, rest, rfl, rfl⟩ := h hn
  simp

theorem fits_identifier : identifier.Fits :=
  fits_of_exists fun h =>
    have ⟨word, rest, hcs, hlen, _⟩ := wordLength_eq_some h
    ⟨word, rest, hcs, hlen⟩

theorem fits_dashedIdentifier : dashedIdentifier.Fits :=
  fits_of_exists fun h =>
    have ⟨word, rest, hcs, hlen, _⟩ := wordLength_eq_some h
    ⟨word, rest, hcs, hlen⟩

theorem fits_literal : literal.Fits :=
  fits_of_exists fun h =>
    have ⟨quoted, rest, _, hcs, hlen, _⟩ := quotedLength_eq_some h
    ⟨quoted, rest, hcs, hlen⟩

theorem fits_integer : integer.Fits :=
  fits_of_exists fun h =>
    have ⟨lexeme, rest, _, hcs, hlen, _⟩ := integerLength_eq_some h
    ⟨lexeme, rest, hcs, hlen⟩

theorem fits_hexadecimal : hexadecimal.Fits :=
  fits_of_exists fun h =>
    have ⟨lexeme, rest, _, hcs, hlen, _⟩ := hexadecimalLength_eq_some h
    ⟨lexeme, rest, hcs, hlen⟩

theorem fits_decimal : decimal.Fits :=
  fits_of_exists fun h =>
    have ⟨lexeme, rest, hcs, hlen, _⟩ := decimalLength_eq_some h
    ⟨lexeme, rest, hcs, hlen⟩

theorem fits_separator : separator.Fits := by
  intro cs n h
  cases cs with
  | nil => simp [separator, separatorLength] at h
  | cons c cs =>
      simp only [separator, separatorLength] at h
      split at h
      · obtain rfl : 1 = n := by simpa using h
        simp
      · simp at h

end Pattern

end ThriftSchema
