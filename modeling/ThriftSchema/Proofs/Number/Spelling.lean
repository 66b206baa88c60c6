import ThriftSchema.Proofs.Text.Numeral
import ThriftSchema.Proofs.Text.Split

set_option autoImplicit false

/-! # The numbers of numerals

Reading a numeral gives the number that it denotes: `readDecimal` up to the limit on the number
of digits, `readHexadecimal` always, and `Double.read` gives some double to every decimal. The
readers also take digits of other scripts and underscores between digits, which numerals of the
language do not have.
-/

namespace ThriftSchema.Number

open Text

/-! ## Characters of numerals -/

theorem asciiDigit_of_lt {c : Char} (h : c.toNat < 128) : asciiDigit c = c := by
  have hall : ∀ n : Fin 128, asciiDigit (Char.ofNat n) = Char.ofNat n := by decide +kernel
  simpa using hall ⟨c.toNat, h⟩

theorem map_asciiDigit {cs : List Char} (h : ∀ c ∈ cs, c.toNat < 128) :
    cs.map asciiDigit = cs := by
  induction cs with
  | nil => rfl
  | cons c cs ih =>
      rw [List.map_cons, asciiDigit_of_lt (h c (List.mem_cons_self ..)),
        ih fun d hd => h d (List.mem_cons_of_mem _ hd)]

theorem toNat_of_isDigit {c : Char} (h : c.isDigit = true) : 48 ≤ c.toNat ∧ c.toNat ≤ 57 := by
  simpa [Char.isDigit, Char.le_def, UInt32.le_iff_toNat_le] using h

theorem digitValue_of_isDigit {c : Char} (h : c.isDigit = true) :
    ∃ d, digitValue c = some d ∧ d < 10 := by
  have := toNat_of_isDigit h
  exact ⟨c.toNat - 48, by rw [digitValue, if_pos h], by omega⟩

theorem toNat_of_isHexDigit {c : Char} (h : Pattern.isHexDigit c = true) :
    48 ≤ c.toNat ∧ c.toNat ≤ 57 ∨ 97 ≤ c.toNat ∧ c.toNat ≤ 102 ∨
      65 ≤ c.toNat ∧ c.toNat ≤ 70 := by
  simp only [Pattern.isHexDigit, Bool.or_eq_true, Bool.and_eq_true, decide_eq_true_eq,
    Char.le_def, UInt32.le_iff_toNat_le] at h
  rcases h with (h | h) | h
  · exact .inl (toNat_of_isDigit h)
  · exact .inr (.inl h)
  · exact .inr (.inr h)

theorem digitValue_of_isHexDigit {c : Char} (h : Pattern.isHexDigit c = true) :
    ∃ d, digitValue c = some d ∧ d < 16 := by
  have hall : ∀ n : Fin 128, Pattern.isHexDigit (Char.ofNat n) = true →
      (digitValue (Char.ofNat n)).any (· < 16) = true := by decide +kernel
  have hlt : c.toNat < 128 := by
    have := toNat_of_isHexDigit h
    omega
  have hany : (digitValue c).any (· < 16) = true := by simpa [h] using hall ⟨c.toNat, hlt⟩
  cases hd : digitValue c with
  | none => simp [hd] at hany
  | some d => exact ⟨d, rfl, by simpa [hd] using hany⟩

theorem ne_underscore_of_isDigit {c : Char} (h : c.isDigit = true) : c ≠ '_' := by
  rintro rfl
  exact absurd h (by decide)

theorem ne_underscore_of_isHexDigit {c : Char} (h : Pattern.isHexDigit c = true) : c ≠ '_' := by
  rintro rfl
  exact absurd h (by decide)

/-! ## Signs and groups -/

theorem splitSign_append {sign rest : List Char} {negative : Bool} (h : IsSign sign negative)
    (hr : NotAhead Pattern.isSignChar rest) : splitSign (sign ++ rest) = (negative, rest) := by
  cases h with
  | absent =>
      rw [List.nil_append, splitSign]
      · rintro cs rfl
        exact absurd (notAhead_cons.1 hr) (by decide)
      · rintro cs rfl
        exact absurd (notAhead_cons.1 hr) (by decide)
  | plus => rfl
  | minus => rfl

theorem toNat_of_mem_sign {sign : List Char} {negative : Bool} (h : IsSign sign negative) :
    ∀ c ∈ sign, c.toNat < 128 := by
  cases h <;> decide

theorem ungroup_of_notMem {cs : List Char} (hne : cs ≠ []) (h : '_' ∉ cs) :
    ungroup cs = some cs := by
  rw [ungroup, splitChars_of_notMem h]
  simp [hne]

/-! ## Digits -/

theorem numeral_cons (base : Nat) (c : Char) (cs : List Char) :
    numeral base (c :: cs)
      = (digitValue c).getD 0 * base ^ cs.length + numeral base cs := by
  rw [numeral, List.reverse_cons, List.map_append, Nat.ofDigits_append, numeral]
  simp only [List.length_map, List.length_reverse, List.map_cons, List.map_nil,
    Nat.ofDigits_singleton]
  rw [Nat.mul_comm, Nat.add_comm]

/-- Digits read after others continue the number. -/
theorem readDigits_eq {base : Nat} {cs : List Char}
    (h : ∀ c ∈ cs, ∃ d, digitValue c = some d ∧ d < base) (value : Nat) :
    readDigits base cs value = some (value * base ^ cs.length + numeral base cs) := by
  induction cs generalizing value with
  | nil => simp [readDigits, numeral]
  | cons c cs ih =>
      obtain ⟨d, hd, hlt⟩ := h c (List.mem_cons_self ..)
      rw [readDigits, hd]
      simp only [if_pos hlt]
      rw [ih (fun x hx => h x (List.mem_cons_of_mem _ hx)), numeral_cons, hd, Option.getD_some,
        List.length_cons, Nat.pow_succ']
      congr 1
      ring

theorem readNumeral_eq {base : Nat} {cs : List Char} (hne : cs ≠ [])
    (h : ∀ c ∈ cs, ∃ d, digitValue c = some d ∧ d < base) :
    readNumeral base cs = some (numeral base cs) := by
  cases cs with
  | nil => exact absurd rfl hne
  | cons c cs =>
      rw [readNumeral, readDigits_eq h 0, Nat.zero_mul, Nat.zero_add]
      simp

/-! ## Integers -/

/-- A decimal integer is read as what it denotes, unless it has too many digits. -/
theorem readDecimal_append {sign digits : List Char} {negative : Bool}
    (hsign : IsSign sign negative) (hdigits : IsRun Char.isDigit digits) :
    readDecimal (sign ++ digits) =
      if digitLimit < digits.length then .error (.tooLong digits.length)
      else .ok (signed negative (numeral 10 digits)) := by
  have hascii : (sign ++ digits).map asciiDigit = sign ++ digits := by
    refine map_asciiDigit fun c hc => ?_
    rcases List.mem_append.1 hc with hc | hc
    · exact toNat_of_mem_sign hsign c hc
    · have := toNat_of_isDigit (hdigits.2 c hc)
      omega
  have hahead : NotAhead Pattern.isSignChar digits := by
    simpa using Pattern.notAhead_sign_of_digits hdigits []
  have hpart : ∀ c ∈ digits, isNumeralPart 10 c = true := by
    intro c hc
    obtain ⟨d, hd, hlt⟩ := digitValue_of_isDigit (hdigits.2 c hc)
    simp [isNumeralPart, hd, hlt]
  have htake : digits.takeWhile (isNumeralPart 10) = digits := by
    simpa using takeWhile_append_of_notAhead hpart (notAhead_nil _)
  have hdrop : digits.dropWhile (isNumeralPart 10) = [] := by
    simpa using dropWhile_append_of_notAhead hpart (notAhead_nil _)
  have hungroup : ungroup digits = some digits :=
    ungroup_of_notMem hdigits.1 fun h => ne_underscore_of_isDigit (hdigits.2 _ h) rfl
  rw [readDecimal, hascii, splitSign_append hsign hahead]
  simp only [htake, hdrop, hungroup, List.isEmpty_nil, Bool.not_true, Bool.false_eq_true,
    if_false, readNumeral_eq hdigits.1 fun c hc => digitValue_of_isDigit (hdigits.2 c hc)]

/-- A hexadecimal integer is read as what it denotes. -/
theorem readHexadecimal_of_isHexadecimal {cs : List Char} {value : Int}
    (h : IsHexadecimal cs value) : readHexadecimal cs = .ok value := by
  cases h with
  | @intro sign digits negative mark hsign hmark hdigits =>
    have hascii : (sign ++ '0' :: mark :: digits).map asciiDigit
        = sign ++ '0' :: mark :: digits := by
      refine map_asciiDigit fun c hc => ?_
      simp only [List.mem_append, List.mem_cons] at hc
      rcases hc with hc | rfl | rfl | hc
      · exact toNat_of_mem_sign hsign c hc
      · decide
      · rcases hmark with rfl | rfl <;> decide
      · have := toNat_of_isHexDigit (hdigits.2 c hc)
        omega
    have hdrop : dropHexMark ('0' :: mark :: digits) = digits := by
      obtain ⟨d, ds, rfl⟩ := List.exists_cons_of_ne_nil hdigits.1
      have hd : d ≠ '_' := ne_underscore_of_isHexDigit (hdigits.2 d (List.mem_cons_self ..))
      rcases hmark with rfl | rfl <;> simp [dropHexMark, hd]
    have hungroup : ungroup digits = some digits :=
      ungroup_of_notMem hdigits.1 fun h => ne_underscore_of_isHexDigit (hdigits.2 _ h) rfl
    rw [readHexadecimal, hascii, splitSign_append hsign (by simp [Pattern.isSignChar])]
    simp only [hdrop, hungroup, Option.bind_some,
      readNumeral_eq hdigits.1 fun c hc => digitValue_of_isHexDigit (hdigits.2 c hc)]

/-! ## The decimal text of an integer -/

theorem numeral_eq_ofDigitChars {cs : List Char} (h : ∀ c ∈ cs, c.isDigit = true) :
    numeral 10 cs = Nat.ofDigitChars 10 cs 0 := by
  induction cs with
  | nil => rfl
  | cons c cs ih =>
      have hc : digitValue c = some (c.toNat - '0'.toNat) := by
        rw [digitValue, if_pos (h c (List.mem_cons_self ..))]
        rfl
      rw [numeral_cons, hc, ih fun d hd => h d (List.mem_cons_of_mem _ hd),
        Nat.ofDigitChars_cons, Option.getD_some, Nat.mul_zero, Nat.zero_add]
      have hstart := @Nat.ofDigitChars_eq_ofDigitChars_zero cs (c.toNat - '0'.toNat)
      rw [hstart, Nat.mul_comm]

theorem numeral_toDigits (n : Nat) : numeral 10 (Nat.toDigits 10 n) = n := by
  rw [numeral_eq_ofDigitChars fun c hc =>
    Nat.isDigit_of_mem_toDigits (by decide) (by decide) hc, Nat.ofDigitChars_ten_toDigits]

/-- The decimal text of an integer is a sign and digits that denote it. -/
theorem exists_sign_toString (n : Int) :
    ∃ sign negative, (toString n).toList = sign ++ Nat.toDigits 10 n.natAbs ∧
      IsSign sign negative ∧ signed negative (numeral 10 (Nat.toDigits 10 n.natAbs)) = n := by
  cases n with
  | ofNat m =>
      refine ⟨[], false, ?_, .absent, ?_⟩
      · show (Nat.repr m).toList = _
        rw [Nat.repr_eq_ofList_toDigits]
        simp
      · rw [numeral_toDigits]
        rfl
  | negSucc m =>
      refine ⟨['-'], true, ?_, .minus, ?_⟩
      · show ("-" ++ Nat.repr (m + 1)).toList = _
        rw [Nat.repr_eq_ofList_toDigits]
        simp
      · rw [numeral_toDigits]
        rfl

theorem isRun_toDigits (m : Nat) : IsRun Char.isDigit (Nat.toDigits 10 m) :=
  ⟨Nat.toDigits_ne_nil, fun _ hc => Nat.isDigit_of_mem_toDigits (by decide) (by decide) hc⟩

theorem isInteger_toString (n : Int) : IsInteger (toString n).toList n := by
  obtain ⟨sign, negative, htext, hsign, hvalue⟩ := exists_sign_toString n
  have h : IsInteger (sign ++ Nat.toDigits 10 n.natAbs) _ := .intro hsign (isRun_toDigits _)
  rwa [hvalue, ← htext] at h

/-- An integer can be told from its decimal text. -/
theorem eq_of_toString {n m : Int} (h : toString n = toString m) : n = m := by
  obtain ⟨sign, negative, htext, hsign, hvalue⟩ := exists_sign_toString n
  obtain ⟨sign', negative', htext', hsign', hvalue'⟩ := exists_sign_toString m
  have hahead : ∀ k, NotAhead Pattern.isSignChar (Nat.toDigits 10 k) := fun k => by
    simpa using Pattern.notAhead_sign_of_digits (isRun_toDigits k) []
  have hsplit := splitSign_append hsign (hahead n.natAbs)
  rw [← htext, h, htext', splitSign_append hsign' (hahead m.natAbs)] at hsplit
  obtain ⟨rfl, hdigits⟩ := Prod.mk.inj hsplit
  rw [← hvalue, ← hvalue', hdigits]

theorem isWritable_iff {n : Int} :
    isWritable n = true ↔ (Nat.toDigits 10 n.natAbs).length ≤ digitLimit := by
  rw [Nat.length_toDigits_le_iff (by decide) (by decide), isWritable, decide_eq_true_iff]
  unfold writeBound
  rw [Nat.pow_eq]

/-- The decimal text of an integer is read as it, if it keeps to the limit. -/
theorem readDecimal_toString {n : Int} (h : isWritable n = true) :
    readDecimal (toString n).toList = .ok n := by
  obtain ⟨sign, negative, htext, hsign, hvalue⟩ := exists_sign_toString n
  have hlength : (Nat.toDigits 10 n.natAbs).length ≤ digitLimit := isWritable_iff.1 h
  rw [htext, readDecimal_append hsign (isRun_toDigits _), if_neg (by omega), hvalue]

/-- The decimal text of an integer is not read if it does not keep to the limit. -/
theorem readDecimal_toString_of_not_isWritable {n : Int} (h : isWritable n = false) :
    readDecimal (toString n).toList = .error (.tooLong (Nat.toDigits 10 n.natAbs).length) := by
  obtain ⟨sign, negative, htext, hsign, -⟩ := exists_sign_toString n
  have hlength : ¬(Nat.toDigits 10 n.natAbs).length ≤ digitLimit := by
    rw [← isWritable_iff, h]
    exact Bool.false_ne_true
  rw [htext, readDecimal_append hsign (isRun_toDigits _), if_pos (by omega)]

/-! ## Doubles -/

/-- A text of ASCII characters, none of which is an underscore: it is read as it stands. -/
def IsUngrouped (cs : List Char) : Prop := ∀ c ∈ cs, c.toNat < 128 ∧ c ≠ '_'

namespace IsUngrouped

variable {cs ds : List Char}

theorem append (hcs : IsUngrouped cs) (hds : IsUngrouped ds) : IsUngrouped (cs ++ ds) :=
  List.forall_mem_append.2 ⟨hcs, hds⟩

theorem of_digits (h : ∀ c ∈ cs, c.isDigit = true) : IsUngrouped cs := by
  intro c hc
  have := toNat_of_isDigit (h c hc)
  exact ⟨by omega, ne_underscore_of_isDigit (h c hc)⟩

theorem of_isSign {negative : Bool} (h : IsSign cs negative) : IsUngrouped cs := by
  unfold IsUngrouped
  cases h <;> decide

theorem of_isExponent (h : cs = [] ∨ IsExponent cs) : IsUngrouped cs := by
  rcases h with rfl | ⟨hmark, ⟨hsign, hdigits⟩⟩
  · simp [IsUngrouped]
  · refine List.forall_mem_cons.2 ⟨?_, (of_isSign hsign).append (of_digits hdigits.2)⟩
    rcases hmark with rfl | rfl <;> decide

end IsUngrouped

theorem dropUnderscores_of_notMem {cs : List Char} (h : ∀ c ∈ cs, c ≠ '_')
    (before : Option Char) : Double.dropUnderscores before cs = some cs := by
  induction cs generalizing before with
  | nil => rfl
  | cons c cs ih =>
      rw [Double.dropUnderscores, if_neg (h c (List.mem_cons_self ..)),
        ih (fun d hd => h d (List.mem_cons_of_mem _ hd)), Option.map_some]

/-- A text that starts with a digit or a point is no word for a magnitude. -/
theorem codeOfWord?_cons {c : Char} {cs : List Char} (h : c.isDigit = true ∨ c = '.') :
    Double.codeOfWord? (c :: cs) = none := by
  have hlower : c.toLower = c := by
    rcases h with h | rfl
    · have := toNat_of_isDigit h
      have hall : ∀ n : Fin 64, (Char.ofNat n).toLower = Char.ofNat n := by decide +kernel
      simpa using hall ⟨c.toNat, by omega⟩
    · rfl
  have hne : c ≠ 'i' ∧ c ≠ 'n' := by
    constructor
    · rintro rfl
      exact absurd h (by decide)
    · rintro rfl
      exact absurd h (by decide)
  have hword : ∀ word : String, word.toList.head? ≠ some c →
      String.ofList ((c :: cs).map Char.toLower) ≠ word := by
    rintro word hword rfl
    simp [hlower] at hword
  rw [Double.codeOfWord?]
  split
  · next heq => exact absurd heq (hword _ (by simpa using Ne.symm hne.1))
  · next heq => exact absurd heq (hword _ (by simpa using Ne.symm hne.1))
  · next heq => exact absurd heq (hword _ (by simpa using Ne.symm hne.2))
  · rfl

theorem readExponent_cons {mark : Char} {cs : List Char} {value : Int}
    (hmark : mark = 'e' ∨ mark = 'E') (hcs : IsInteger cs value) :
    Double.readExponent (mark :: cs) = some value := by
  have hm : (mark == 'e' || mark == 'E') = true := by simpa using hmark
  cases hcs with
  | @intro sign digits negative hsign hdigits =>
    have hahead : NotAhead Pattern.isSignChar digits := by
      simpa using Pattern.notAhead_sign_of_digits hdigits []
    rw [Double.readExponent, if_pos hm, splitSign_append hsign hahead]
    simp only [readNumeral_eq hdigits.1 fun c hc => digitValue_of_isDigit (hdigits.2 c hc),
      Option.map_some]

theorem exists_readExponent {cs : List Char} (h : cs = [] ∨ IsExponent cs) :
    ∃ exponent, Double.readExponent cs = some exponent := by
  rcases h with rfl | ⟨hmark, hcs⟩
  · exact ⟨0, rfl⟩
  · exact ⟨_, readExponent_cons hmark hcs⟩

theorem notAhead_digit_of_isExponent {cs : List Char} (h : cs = [] ∨ IsExponent cs) :
    NotAhead Char.isDigit cs := by
  simpa using Pattern.notAhead_digit_of_exponent h (notAhead_nil _)

/-- A magnitude of digits and an exponent. -/
theorem readMagnitude_of_exponent {whole e : List Char} {exponent : Int}
    (hwhole : IsRun Char.isDigit whole) (he : IsExponent e)
    (hexponent : Double.readExponent e = some exponent) (negative : Bool) :
    Double.readMagnitude negative (whole ++ e) =
      some (.ofDecimal negative (numeral 10 whole) exponent) := by
  have hahead := notAhead_digit_of_isExponent (.inr he)
  rw [Double.readMagnitude, takeWhile_append_of_notAhead hwhole.2 hahead,
    dropWhile_append_of_notAhead hwhole.2 hahead]
  cases he with
  | @intro mark cs value hmark hcs =>
    have hpoint : mark ≠ '.' := by rcases hmark with rfl | rfl <;> decide
    simp [hpoint, hexponent,
      readNumeral_eq hwhole.1 fun c hc => digitValue_of_isDigit (hwhole.2 c hc)]

/-- A magnitude with digits behind a point, and an exponent or none. -/
theorem readMagnitude_of_fraction {whole digits e : List Char} {exponent : Int}
    (hwhole : ∀ c ∈ whole, c.isDigit = true) (hdigits : IsRun Char.isDigit digits)
    (he : e = [] ∨ IsExponent e) (hexponent : Double.readExponent e = some exponent)
    (negative : Bool) :
    Double.readMagnitude negative (whole ++ '.' :: (digits ++ e)) =
      some (.ofDecimal negative (numeral 10 (whole ++ digits)) (exponent - digits.length)) := by
  have hahead := notAhead_digit_of_isExponent he
  have hall : ∀ c ∈ whole ++ digits, c.isDigit = true :=
    List.forall_mem_append.2 ⟨hwhole, hdigits.2⟩
  have hne : whole ++ digits ≠ [] := by simp [hdigits.1]
  rw [Double.readMagnitude, takeWhile_append_of_notAhead hwhole (by simp),
    dropWhile_append_of_notAhead hwhole (by simp)]
  simp [takeWhile_append_of_notAhead hdigits.2 hahead,
    dropWhile_append_of_notAhead hdigits.2 hahead, hexponent,
    readNumeral_eq hne fun c hc => digitValue_of_isDigit (hall c hc)]

/-- A sign in front of a magnitude that starts with a digit or a point. -/
theorem read_of_readMagnitude {sign body : List Char} {negative : Bool} {value : Double}
    (hsign : IsSign sign negative) (hbody : IsUngrouped body)
    (hstart : ∃ c rest, body = c :: rest ∧ (c.isDigit = true ∨ c = '.'))
    (h : Double.readMagnitude negative body = some value) :
    Double.read (sign ++ body) = some value := by
  obtain ⟨c, rest, rfl, hc⟩ := hstart
  have hchars : IsUngrouped (sign ++ c :: rest) := (IsUngrouped.of_isSign hsign).append hbody
  have hahead : NotAhead Pattern.isSignChar (c :: rest) := by
    rcases hc with hc | rfl
    · exact notAhead_cons.2 (Pattern.not_isSignChar_of_isDigit hc)
    · exact notAhead_cons.2 (by decide)
  rw [Double.read, map_asciiDigit fun d hd => (hchars d hd).1,
    dropUnderscores_of_notMem fun d hd => (hchars d hd).2]
  simp only [Option.bind_eq_bind, Option.bind_some, splitSign_append hsign hahead,
    codeOfWord?_cons hc, h]

/-- A decimal is read as the double nearest to some number. -/
theorem exists_read_eq_ofDecimal {cs : List Char} (h : IsDecimal cs) :
    ∃ negative digits exponent, Double.read cs = some (.ofDecimal negative digits exponent) := by
  cases h with
  | @exponent sign whole e negative hsign hwhole he =>
    obtain ⟨d, ds, rfl⟩ := List.exists_cons_of_ne_nil hwhole.1
    obtain ⟨exponent, hexponent⟩ := exists_readExponent (.inr he)
    have hbody : IsUngrouped (d :: ds ++ e) :=
      (IsUngrouped.of_digits hwhole.2).append (.of_isExponent (.inr he))
    exact ⟨_, _, _, read_of_readMagnitude hsign hbody
      ⟨d, ds ++ e, rfl, .inl (hwhole.2 d (List.mem_cons_self ..))⟩
      (readMagnitude_of_exponent hwhole he hexponent negative)⟩
  | @fraction sign whole digits e negative hsign hwhole hdigits he =>
    obtain ⟨exponent, hexponent⟩ := exists_readExponent he
    have hbehind : IsUngrouped ('.' :: (digits ++ e)) :=
      List.forall_mem_cons.2 ⟨by decide,
        (IsUngrouped.of_digits hdigits.2).append (.of_isExponent he)⟩
    refine ⟨_, _, _, read_of_readMagnitude hsign
      ((IsUngrouped.of_digits hwhole).append hbehind) ?_
      (readMagnitude_of_fraction hwhole hdigits he hexponent negative)⟩
    -- there may be no digit in front of the point
    cases whole with
    | nil => exact ⟨'.', digits ++ e, rfl, .inr rfl⟩
    | cons d ds => exact ⟨d, _, rfl, .inl (hwhole d (List.mem_cons_self ..))⟩

/-- Every decimal is read as some double. -/
theorem exists_read_of_isDecimal {cs : List Char} (h : IsDecimal cs) :
    ∃ value, Double.read cs = some value := by
  obtain ⟨_, _, _, hread⟩ := exists_read_eq_ofDecimal h
  exact ⟨_, hread⟩

end ThriftSchema.Number
