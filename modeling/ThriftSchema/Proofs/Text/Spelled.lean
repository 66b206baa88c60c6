import ThriftSchema.Proofs.Text.Numeral

set_option autoImplicit false

/-! # The characters of lexemes

Names and numerals are spelled with letters, digits, underscores, points, dashes and the plus
sign. Whatever holds of these characters holds of all of such a lexeme.
-/

namespace ThriftSchema

/-- A character that names and numerals are spelled with. -/
def isSpelled (c : Char) : Bool := Pattern.isDashedNameChar c || c == '+'

/-- A character that numerals are spelled with: a hexadecimal digit, the mark of hexadecimal
numerals, a point or a sign. -/
def isNumeralChar (c : Char) : Bool :=
  Pattern.isHexDigit c || c == 'x' || c == 'X' || c == '.' || Pattern.isSignChar c

/-! ## Classes of characters -/

theorem isSpelled_of_isDashedNameChar {c : Char} (h : Pattern.isDashedNameChar c = true) :
    isSpelled c = true := by
  simp [isSpelled, h]

theorem isSpelled_of_isNameChar {c : Char} (h : Pattern.isNameChar c = true) :
    isSpelled c = true := by
  simp [isSpelled, Pattern.isDashedNameChar, h]

theorem isNameChar_of_isNameStart {c : Char} (h : Pattern.isNameStart c = true) :
    Pattern.isNameChar c = true := by
  simp only [Pattern.isNameStart, Bool.or_eq_true] at h
  rcases h with h | h
  · simp [Pattern.isNameChar, Char.isAlphanum, h]
  · simp [Pattern.isNameChar, h]

theorem isNameChar_of_isHexDigit {c : Char} (h : Pattern.isHexDigit c = true) :
    Pattern.isNameChar c = true := by
  simp only [Pattern.isHexDigit, Bool.or_eq_true, Bool.and_eq_true, decide_eq_true_eq] at h
  simp only [Pattern.isNameChar, Char.isAlphanum, Bool.or_eq_true, isAlpha_iff_toNat]
  rcases h with (h | ⟨hlow, hhigh⟩) | ⟨hlow, hhigh⟩
  · exact .inl (.inl (.inr h))
  · exact .inl (.inl (.inl (.inr ⟨hlow, Nat.le_trans hhigh (by decide)⟩)))
  · exact .inl (.inl (.inl (.inl ⟨hlow, Nat.le_trans hhigh (by decide)⟩)))

theorem isSpelled_of_isNumeralChar {c : Char} (h : isNumeralChar c = true) :
    isSpelled c = true := by
  simp only [isNumeralChar, Pattern.isSignChar, Bool.or_eq_true, beq_iff_eq] at h
  rcases h with (((h | rfl) | rfl) | rfl) | rfl | rfl
  · exact isSpelled_of_isNameChar (isNameChar_of_isHexDigit h)
  all_goals decide

/-! ## Words -/

theorem isSpelled_of_isWord {q : Char → Bool} {cs : List Char}
    (hq : ∀ c, q c = true → isSpelled c = true) (h : IsWord Pattern.isNameStart q cs) :
    ∀ c ∈ cs, isSpelled c = true := by
  cases cs with
  | nil => exact h.elim
  | cons d ds =>
      intro c hc
      rcases List.mem_cons.1 hc with rfl | hc
      · exact isSpelled_of_isNameChar (isNameChar_of_isNameStart h.1)
      · exact hq c (h.2 c hc)

/-! ## Numerals -/

theorem isNumeralChar_of_isSign {cs : List Char} {negative : Bool} (h : IsSign cs negative) :
    ∀ c ∈ cs, isNumeralChar c = true := by
  cases h <;> decide

theorem isNumeralChar_of_isHexDigit {c : Char} (h : Pattern.isHexDigit c = true) :
    isNumeralChar c = true := by
  simp [isNumeralChar, h]

theorem isNumeralChar_of_isDigit {c : Char} (h : c.isDigit = true) : isNumeralChar c = true :=
  isNumeralChar_of_isHexDigit (by simp [Pattern.isHexDigit, h])

theorem isNumeralChar_of_isInteger {cs : List Char} {value : Int} (h : IsInteger cs value) :
    ∀ c ∈ cs, isNumeralChar c = true := by
  cases h with
  | intro hsign hdigits =>
      intro c hc
      rcases List.mem_append.1 hc with hc | hc
      · exact isNumeralChar_of_isSign hsign c hc
      · exact isNumeralChar_of_isDigit (hdigits.2 c hc)

theorem isNumeralChar_of_isHexadecimal {cs : List Char} {value : Int}
    (h : IsHexadecimal cs value) : ∀ c ∈ cs, isNumeralChar c = true := by
  cases h with
  | intro hsign hmark hdigits =>
      intro c hc
      simp only [List.mem_append, List.mem_cons] at hc
      rcases hc with hc | rfl | rfl | hc
      · exact isNumeralChar_of_isSign hsign c hc
      · decide
      · rcases hmark with rfl | rfl <;> decide
      · exact isNumeralChar_of_isHexDigit (hdigits.2 c hc)

theorem isNumeralChar_of_isExponent {cs : List Char} (h : IsExponent cs) :
    ∀ c ∈ cs, isNumeralChar c = true := by
  cases h with
  | intro hmark hcs =>
      intro c hc
      rcases List.mem_cons.1 hc with rfl | hc
      · rcases hmark with rfl | rfl <;> decide
      · exact isNumeralChar_of_isInteger hcs c hc

theorem isNumeralChar_of_isDecimal {cs : List Char} (h : IsDecimal cs) :
    ∀ c ∈ cs, isNumeralChar c = true := by
  intro c hc
  cases h with
  | exponent hsign hwhole he =>
      simp only [List.mem_append] at hc
      rcases hc with hc | hc | hc
      · exact isNumeralChar_of_isSign hsign c hc
      · exact isNumeralChar_of_isDigit (hwhole.2 c hc)
      · exact isNumeralChar_of_isExponent he c hc
  | fraction hsign hwhole hdigits he =>
      simp only [List.mem_append, List.mem_cons] at hc
      rcases hc with hc | hc | rfl | hc | hc
      · exact isNumeralChar_of_isSign hsign c hc
      · exact isNumeralChar_of_isDigit (hwhole c hc)
      · decide
      · exact isNumeralChar_of_isDigit (hdigits.2 c hc)
      · rcases he with rfl | he
        · cases hc
        · exact isNumeralChar_of_isExponent he c hc

theorem isSpelled_of_isInteger {cs : List Char} {value : Int} (h : IsInteger cs value) :
    ∀ c ∈ cs, isSpelled c = true :=
  fun c hc => isSpelled_of_isNumeralChar (isNumeralChar_of_isInteger h c hc)

theorem isSpelled_of_isHexadecimal {cs : List Char} {value : Int} (h : IsHexadecimal cs value) :
    ∀ c ∈ cs, isSpelled c = true :=
  fun c hc => isSpelled_of_isNumeralChar (isNumeralChar_of_isHexadecimal h c hc)

theorem isSpelled_of_isDecimal {cs : List Char} (h : IsDecimal cs) :
    ∀ c ∈ cs, isSpelled c = true :=
  fun c hc => isSpelled_of_isNumeralChar (isNumeralChar_of_isDecimal h c hc)

end ThriftSchema
