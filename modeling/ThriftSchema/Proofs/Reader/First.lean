import ThriftSchema.Proofs.Reader.Token

set_option autoImplicit false

/-! # What readers can start with

Most choices of the language are made by the first character. A reader that starts in a class of
characters fails on every other text, and on the empty one; this is known from its first part.
-/

namespace ThriftSchema

variable {α β : Type}

/-- The reader fails on a text that does not start with a character of the class. -/
def StartsIn (p : PartReader α) (C : Char → Bool) : Prop :=
  ∀ ⦃input : List Char⦄, NotAhead C input → p input = .failed

namespace StartsIn

variable {p q : PartReader α} {C D : Char → Bool}

theorem mono (h : StartsIn p C) (hCD : ∀ c, C c = true → D c = true) : StartsIn p D :=
  fun _ hinput => h (hinput.mono hCD)

theorem bind (h : StartsIn p C) (f : α → PartReader β) : StartsIn (p >>= f) C :=
  fun _ hinput => Reader.bind_of_failed (h hinput)

theorem fail : StartsIn (Reader.fail : PartReader α) C := fun _ _ => rfl

theorem orElse (hp : StartsIn p C) (hq : StartsIn q C) : StartsIn (p <|> q) C := by
  intro input hinput
  rw [Reader.orElse_of_failed (hp hinput), hq hinput]

/-- Something optional in front may be missing. -/
theorem optional_bind {f : Option α → PartReader β} (hp : StartsIn p C)
    (hf : StartsIn (f none) C) : StartsIn (Reader.optional p >>= f) C := by
  intro input hinput
  rw [Reader.bind_of_read (Reader.optional_of_failed (hp hinput)), hf hinput]

/-! ## Tokens -/

theorem spaced (h : StartsIn p C) : StartsIn (Reader.spaced p) C := h.bind _

/-- The first character of a word. -/
def headOf (text : String) (c : Char) : Bool := text.toList.head? == some c

theorem keyword {text : String} (hne : text.toList ≠ []) :
    StartsIn (Reader.keyword text) (headOf text) := by
  intro input hinput
  rw [Reader.keyword, if_neg]
  intro hword
  obtain ⟨rest, rfl, -⟩ := Reader.startsWithWord_iff.1 hword
  obtain ⟨c, cs, hcs⟩ := List.exists_cons_of_ne_nil hne
  have hc := hinput c (by simp [hcs])
  simp [headOf, hcs] at hc

theorem word {text : String} (hne : text.toList ≠ []) :
    StartsIn (Reader.word text) (headOf text) := spaced (keyword hne)

theorem symbol {text : String} (hne : text.toList ≠ []) :
    StartsIn (Reader.symbol text) (headOf text) := by
  refine spaced fun input hinput => ?_
  rw [Reader.characters, if_neg]
  intro hprefix
  obtain ⟨rest, rfl⟩ := List.isPrefixOf_iff_prefix.1 hprefix
  obtain ⟨c, cs, hcs⟩ := List.exists_cons_of_ne_nil hne
  have hc := hinput c (by simp [hcs])
  simp [headOf, hcs] at hc

theorem firstKeyword {texts : List String}
    (h : ∀ text ∈ texts, text.toList ≠ [] ∧ ∀ c, headOf text c = true → C c = true) :
    StartsIn (Reader.firstKeyword texts) C := by
  induction texts with
  | nil => exact fail
  | cons text texts ih =>
      have hfirst := h text (List.mem_cons_self ..)
      exact orElse (((keyword hfirst.1).mono hfirst.2).bind _)
        (ih fun t ht => h t (List.mem_cons_of_mem _ ht))

theorem measured {pattern : Pattern}
    (h : ∀ {cs : List Char}, NotAhead C cs → pattern.measure cs = none) :
    StartsIn (Reader.measured pattern) C := by
  intro input hinput
  rw [Reader.measured, h hinput]

theorem lexeme {pattern : Pattern}
    (h : ∀ {cs : List Char}, NotAhead C cs → pattern.measure cs = none) :
    StartsIn (Reader.lexeme pattern) C := spaced (measured h)

theorem wordLength_of_notAhead {p q : Char → Bool} {cs : List Char} (h : NotAhead p cs) :
    Pattern.wordLength p q cs = none := by
  cases cs with
  | nil => rfl
  | cons c cs => rw [Pattern.wordLength, if_neg (by simp [notAhead_cons.1 h])]

theorem identifier : StartsIn Reader.identifier Pattern.isNameStart :=
  (lexeme wordLength_of_notAhead).bind _

theorem dashedIdentifier : StartsIn Reader.dashedIdentifier Pattern.isNameStart :=
  (lexeme wordLength_of_notAhead).bind _

/-- Whether a character is one of the two quotes. -/
def isQuoteChar (c : Char) : Bool := c == '\x22' || c == '\x27'

theorem measure_literal {cs : List Char} (h : NotAhead isQuoteChar cs) :
    Pattern.literal.measure cs = none := by
  cases cs with
  | nil => rfl
  | cons c cs =>
      have hc : (c == '\x22' || c == '\x27') = false := notAhead_cons.1 h
      simp [Pattern.literal, Pattern.quotedLength, hc]

theorem literal : StartsIn Reader.literal isQuoteChar := (lexeme measure_literal).bind _

/-- Whether a number may start with a character. -/
def isNumberStart (c : Char) : Bool := Pattern.isSignChar c || c.isDigit || c == '.'

theorem signLength_of_notAhead {cs : List Char} (h : NotAhead isNumberStart cs) :
    Pattern.signLength cs = 0 := by
  have hsign : NotAhead Pattern.isSignChar cs := h.mono fun c hc => by simp [isNumberStart, hc]
  exact Pattern.signLength_append .absent hsign

theorem someLength_of_notAhead {p : Char → Bool} {cs : List Char} (h : NotAhead p cs) :
    Pattern.someLength p cs = none := by
  rw [Pattern.someLength, Pattern.spanLength_of_notAhead h]

theorem measure_integer {cs : List Char} (h : NotAhead isNumberStart cs) :
    Pattern.integer.measure cs = none := by
  have hdigit : NotAhead Char.isDigit cs := h.mono fun c hc => by simp [isNumberStart, hc]
  simp [Pattern.integer, Pattern.integerLength, signLength_of_notAhead h,
    someLength_of_notAhead hdigit]

theorem measure_hexadecimal {cs : List Char} (h : NotAhead isNumberStart cs) :
    Pattern.hexadecimal.measure cs = none := by
  simp only [Pattern.hexadecimal, Pattern.hexadecimalLength, signLength_of_notAhead h,
    List.drop_zero]
  split
  · exact absurd (notAhead_cons.1 h) (by decide)
  · rfl

theorem measure_decimal {cs : List Char} (h : NotAhead isNumberStart cs) :
    Pattern.decimal.measure cs = none := by
  have hdigit : NotAhead Char.isDigit cs := h.mono fun c hc => by simp [isNumberStart, hc]
  have hspan : Pattern.spanLength Char.isDigit cs = 0 := Pattern.spanLength_of_notAhead hdigit
  cases cs with
  | nil => rfl
  | cons c cs =>
      have hc : (c == '.') = false := by
        have := notAhead_cons.1 h
        simp only [isNumberStart, Bool.or_eq_false_iff] at this
        exact this.2
      simp [Pattern.decimal, Pattern.decimalLength, signLength_of_notAhead h, hspan,
        Pattern.fractionLength, hc]

theorem integer : StartsIn Reader.integer isNumberStart := (lexeme measure_integer).bind _

theorem hexadecimal : StartsIn Reader.hexadecimal isNumberStart :=
  (lexeme measure_hexadecimal).bind _

theorem double : StartsIn Reader.double isNumberStart := (lexeme measure_decimal).bind _

/-! ## Classes that have nothing in common -/

theorem toNat_of_isNameStart {c : Char} (h : Pattern.isNameStart c = true) :
    65 ≤ c.toNat ∧ c.toNat ≤ 90 ∨ 97 ≤ c.toNat ∧ c.toNat ≤ 122 ∨ c.toNat = 95 := by
  simp only [Pattern.isNameStart, Bool.or_eq_true, beq_iff_eq, isAlpha_iff_toNat] at h
  rcases h with (h | h) | rfl
  · exact .inl h
  · exact .inr (.inl h)
  · exact .inr (.inr rfl)

theorem not_isNumberStart_of_isQuoteChar {c : Char} (h : isQuoteChar c = true) :
    isNumberStart c = false := by
  simp only [isQuoteChar, Bool.or_eq_true, beq_iff_eq] at h
  rcases h with rfl | rfl <;> decide

theorem not_isNumberStart_of_isNameStart {c : Char} (h : Pattern.isNameStart c = true) :
    isNumberStart c = false := by
  have hname := toNat_of_isNameStart h
  rw [Bool.eq_false_iff]
  intro hnumber
  simp only [isNumberStart, Pattern.isSignChar, Bool.or_eq_true, beq_iff_eq] at hnumber
  rcases hnumber with ((rfl | rfl) | hdigit) | rfl
  · exact absurd h (by decide)
  · exact absurd h (by decide)
  · have := Number.toNat_of_isDigit hdigit
    omega
  · exact absurd h (by decide)

theorem not_isQuoteChar_of_isNameStart {c : Char} (h : Pattern.isNameStart c = true) :
    isQuoteChar c = false := by
  rw [Bool.eq_false_iff]
  intro hquote
  simp only [isQuoteChar, Bool.or_eq_true, beq_iff_eq] at hquote
  rcases hquote with rfl | rfl <;> exact absurd h (by decide)

/-! ## Types -/

/-- A word whose first character is of a class. -/
theorem word_of_head {text : String} (h : text.toList.head?.any C = true) :
    StartsIn (Reader.word text) C := by
  cases htext : text.toList with
  | nil => simp [htext] at h
  | cons c cs =>
      have hc : C c = true := by simpa [htext] using h
      refine (word (by simp [htext])).mono fun d hd => ?_
      obtain rfl : c = d := by simpa [headOf, htext] using hd
      exact hc

theorem hint : StartsIn (do Reader.word "cpp_type"; Reader.literal) Pattern.isNameStart :=
  (word_of_head (by decide)).bind _

theorem containerType (type : PartReader FieldType) :
    StartsIn (Reader.containerType type) Pattern.isNameStart :=
  orElse ((word_of_head (by decide)).bind _) <| orElse ((word_of_head (by decide)).bind _) <|
    orElse ((word_of_head (by decide)).bind _) fail

theorem oneOf_of_heads {texts : List String}
    (h : ∀ text ∈ texts, text.toList.head?.any C = true) : StartsIn (Reader.oneOf texts) C := by
  refine spaced (firstKeyword fun text ht => ?_)
  have hhead := h text ht
  cases htext : text.toList with
  | nil => simp [htext] at hhead
  | cons c cs =>
      have hc : C c = true := by simpa [htext] using hhead
      refine ⟨by simp, fun d hd => ?_⟩
      obtain rfl : c = d := by simpa [headOf, htext] using hd
      exact hc

theorem baseType : StartsIn Reader.baseType Pattern.isNameStart :=
  (oneOf_of_heads (by decide)).bind _

theorem fieldType (depth : Nat) :
    StartsIn (Reader.fieldType (depth + 1)) Pattern.isNameStart :=
  orElse (containerType _) (orElse baseType (orElse (identifier.bind _) fail))

theorem returnType {type : PartReader FieldType} (h : StartsIn type Pattern.isNameStart) :
    StartsIn (Reader.returnType type) Pattern.isNameStart :=
  orElse ((word_of_head (by decide)).bind _) (orElse (h.bind _) fail)

/-! ## Constants -/

/-- Whether a constant may start with a character. -/
def isConstantStart (c : Char) : Bool :=
  isNumberStart c || isQuoteChar c || Pattern.isNameStart c || c == '[' || c == '\x7b'

theorem symbol_of_head {text : String} (h : text.toList.head?.any C = true) :
    StartsIn (Reader.symbol text) C := by
  cases htext : text.toList with
  | nil => simp [htext] at h
  | cons c cs =>
      have hc : C c = true := by simpa [htext] using h
      refine (symbol (by simp [htext])).mono fun d hd => ?_
      obtain rfl : c = d := by simpa [headOf, htext] using hd
      exact hc

theorem constant (depth : Nat) : StartsIn (Reader.constant (depth + 1)) isConstantStart := by
  have hnumber : ∀ c, isNumberStart c = true → isConstantStart c = true := by
    intro c hc
    simp [isConstantStart, hc]
  have hquote : ∀ c, isQuoteChar c = true → isConstantStart c = true := by
    intro c hc
    simp [isConstantStart, hc]
  have hname : ∀ c, Pattern.isNameStart c = true → isConstantStart c = true := by
    intro c hc
    simp [isConstantStart, hc]
  exact orElse ((hexadecimal.mono hnumber).bind _) <| orElse ((double.mono hnumber).bind _) <|
    orElse ((integer.mono hnumber).bind _) <| orElse ((literal.mono hquote).bind _) <|
    orElse ((identifier.mono hname).bind _) <| orElse ((symbol_of_head (by decide)).bind _) <|
    orElse ((symbol_of_head (by decide)).bind _) fail

/-! ## Fields and functions -/

theorem requiredness : StartsIn Reader.requiredness Pattern.isNameStart :=
  (oneOf_of_heads (by decide)).bind _

theorem block {text opener closer : String} {field : PartReader Field}
    (h : text.toList.head?.any C = true) : StartsIn (Reader.block text opener closer field) C :=
  (word_of_head h).bind _

theorem assigned (value : PartReader α) : StartsIn (Reader.assigned value) (· == '=') :=
  (symbol_of_head (by decide)).bind _

/-- Whether a field may start with a character. -/
def isFieldStart (c : Char) : Bool := isNumberStart c || Pattern.isNameStart c

theorem field (options : BuildOptions) (depth : Nat) :
    StartsIn (Reader.field options (depth + 2)) isFieldStart := by
  have hnumber : ∀ c, isNumberStart c = true → isFieldStart c = true := by
    intro c hc
    simp [isFieldStart, hc]
  have hname : ∀ c, Pattern.isNameStart c = true → isFieldStart c = true := by
    intro c hc
    simp [isFieldStart, hc]
  refine optional_bind ((integer.mono hnumber).bind _) ?_
  refine optional_bind (requiredness.mono hname) ?_
  exact ((fieldType depth).mono hname).bind _

theorem flag_of_failed {text : String} {input : List Char}
    (h : Reader.word text input = .failed) : Reader.flag text input = .read false input := by
  rw [Reader.flag, Reader.bind_of_read (Reader.optional_of_failed h)]
  rfl

theorem flag_bind {text : String} {f : Bool → PartReader β} (h : text.toList.head?.any C = true)
    (hf : StartsIn (f false) C) : StartsIn (Reader.flag text >>= f) C := by
  intro input hinput
  rw [Reader.bind_of_read (flag_of_failed (word_of_head h hinput)), hf hinput]

theorem function {type : PartReader FieldType} (field : PartReader Field)
    (h : StartsIn type Pattern.isNameStart) :
    StartsIn (Reader.function type field) Pattern.isNameStart :=
  flag_bind (by decide) ((returnType h).bind _)

/-! ## Definitions and headers -/

theorem definition (options : BuildOptions) (depth : Nat) :
    StartsIn (Reader.definition options depth) Pattern.isNameStart :=
  orElse ((word_of_head (by decide)).bind _) <| orElse ((word_of_head (by decide)).bind _) <|
    orElse ((word_of_head (by decide)).bind _) <| orElse ((word_of_head (by decide)).bind _) <|
    orElse ((word_of_head (by decide)).bind _) <| orElse ((word_of_head (by decide)).bind _) <|
    orElse ((word_of_head (by decide)).bind _) <| orElse ((word_of_head (by decide)).bind _) fail

theorem header : StartsIn Reader.header Pattern.isNameStart :=
  orElse ((word_of_head (by decide)).bind _) <| orElse ((word_of_head (by decide)).bind _) <|
    orElse ((word_of_head (by decide)).bind _) <| orElse ((word_of_head (by decide)).bind _) <|
    orElse ((word_of_head (by decide)).bind _) fail

end StartsIn

end ThriftSchema
