import ThriftSchema.Proofs.Number.Spelling
import ThriftSchema.Proofs.Reader.Production

set_option autoImplicit false

/-! # What tokens read

A token reads a lexeme of its class and the layout behind it. The laws here say for each kind of
token which lexemes it takes, without the functions that measure them.
-/

namespace ThriftSchema.Reader

variable {input rest lexeme : List Char}

/-! ## Words and marks -/

theorem startsWithWord_iff {word : List Char} :
    startsWithWord word input = true ↔
      ∃ rest, input = word ++ rest ∧ NotAhead Pattern.isNameChar rest := by
  rw [startsWithWord, Bool.and_eq_true, List.isPrefixOf_iff_prefix]
  constructor
  · rintro ⟨⟨rest, rfl⟩, hrest⟩
    refine ⟨rest, rfl, ?_⟩
    rw [List.drop_left] at hrest
    cases rest with
    | nil => exact notAhead_nil _
    | cons c cs => exact notAhead_cons.2 (by simpa using hrest)
  · rintro ⟨rest, rfl, hrest⟩
    refine ⟨List.prefix_append .., ?_⟩
    rw [List.drop_left]
    cases rest with
    | nil => rfl
    | cons c cs => simp [notAhead_cons.1 hrest]

theorem keyword_eq_read {text : String} {u : Unit} :
    keyword text input = .read u rest ↔
      input = text.toList ++ rest ∧ NotAhead Pattern.isNameChar rest := by
  rw [keyword]
  constructor
  · intro h
    split at h
    · next hword =>
      obtain ⟨rest', rfl, hrest⟩ := startsWithWord_iff.1 hword
      rw [← String.length_toList, List.drop_left] at h
      obtain ⟨-, rfl⟩ : u = () ∧ rest' = rest := by simpa using h
      exact ⟨rfl, hrest⟩
    · cases h
  · rintro ⟨rfl, hrest⟩
    rw [if_pos (startsWithWord_iff.2 ⟨rest, rfl, hrest⟩), ← String.length_toList, List.drop_left]

theorem characters_eq_read {text : String} {u : Unit} :
    characters text input = .read u rest ↔ input = text.toList ++ rest := by
  rw [characters]
  constructor
  · intro h
    split at h
    · next hprefix =>
      obtain ⟨rest', rfl⟩ := List.isPrefixOf_iff_prefix.1 hprefix
      rw [← String.length_toList, List.drop_left] at h
      obtain ⟨-, rfl⟩ : u = () ∧ rest' = rest := by simpa using h
      rfl
    · cases h
  · rintro rfl
    rw [if_pos (List.isPrefixOf_iff_prefix.2 (List.prefix_append ..)), ← String.length_toList,
      List.drop_left]

/-- Behind its first character the text goes on as a name does. -/
abbrev RunsOn (cs : List Char) : Prop := (cs.drop 1).all Pattern.isNameChar = true

/-- A text that a keyword can be. -/
abbrev IsKeyword (cs : List Char) : Prop := cs ≠ [] ∧ RunsOn cs

theorem isKeyword_of_isName {cs : List Char} (h : IsName cs) : IsKeyword cs := by
  cases cs with
  | nil => exact h.elim
  | cons c cs => exact ⟨by simp, by simpa [RunsOn] using h.2⟩

theorem mem_drop_one_of_append {front more : List Char} {c : Char} (h : front ≠ []) :
    c ∈ (front ++ c :: more).drop 1 := by
  obtain ⟨d, ds, rfl⟩ := List.exists_cons_of_ne_nil h
  simp

/-- A keyword fails at another token, which may start with it but then runs on. -/
theorem keyword_failed {text : String} {token : List Char} (htext : IsKeyword text.toList)
    (htoken : IsKeyword token) (hne : text.toList ≠ token)
    (hrest : NotAhead Pattern.isNameChar rest) : keyword text (token ++ rest) = .failed := by
  rw [keyword, if_neg]
  intro hword
  obtain ⟨after, heq, hafter⟩ := startsWithWord_iff.1 hword
  rcases List.append_eq_append_iff.1 heq with ⟨more, hmore, hsplit⟩ | ⟨more, hmore, hsplit⟩
  · -- the keyword is longer: the token would run on
    cases more with
    | nil => exact hne (by simpa using hmore)
    | cons c more =>
        have hc := List.all_eq_true.1 htext.2 c (hmore ▸ mem_drop_one_of_append htoken.1)
        rw [hsplit, List.cons_append, notAhead_cons, hc] at hrest
        exact Bool.false_ne_true hrest.symm
  · -- the token is longer: its next character may follow no keyword
    cases more with
    | nil => exact hne (by simpa using hmore.symm)
    | cons c more =>
        have hc := List.all_eq_true.1 htoken.2 c (hmore ▸ mem_drop_one_of_append htext.1)
        rw [hsplit, List.cons_append, notAhead_cons, hc] at hafter
        exact Bool.false_ne_true hafter.symm

theorem firstKeyword_eq_read {texts : List String} {text : String}
    (h : firstKeyword texts input = .read text rest) :
    text ∈ texts ∧ input = text.toList ++ rest ∧ NotAhead Pattern.isNameChar rest := by
  induction texts with
  | nil => cases h
  | cons first texts ih =>
      rcases orElse_eq_read.1 h with h | ⟨-, h⟩
      · obtain ⟨_, middle, hword, hrest⟩ := bind_eq_read.1 h
        obtain ⟨rfl, rfl⟩ : first = text ∧ middle = rest := by simpa using hrest
        exact ⟨List.mem_cons_self .., keyword_eq_read.1 hword⟩
      · have := ih h
        exact ⟨List.mem_cons_of_mem _ this.1, this.2⟩

/-! ## Patterns -/

theorem measured_eq_read {pattern : Pattern} :
    measured pattern input = .read lexeme rest ↔
      ∃ count, pattern.measure input = some count ∧ input.take count = lexeme ∧
        input.drop count = rest := by
  rw [measured]
  cases pattern.measure input <;> simp

/-- What a pattern measures, where its measure is told by lexemes. -/
theorem append_of_measured {pattern : Pattern} (hfits : pattern.Fits)
    (h : measured pattern input = .read lexeme rest) :
    input = lexeme ++ rest ∧ pattern.measure input = some lexeme.length := by
  obtain ⟨count, hcount, rfl, rfl⟩ := measured_eq_read.1 h
  rw [List.length_take_of_le (hfits _ _ hcount)]
  exact ⟨(List.take_append_drop ..).symm, hcount⟩

theorem measured_append {pattern : Pattern}
    (h : pattern.measure (lexeme ++ rest) = some lexeme.length) :
    measured pattern (lexeme ++ rest) = .read lexeme rest :=
  measured_eq_read.2 ⟨lexeme.length, h, List.take_left .., List.drop_left ..⟩

theorem identifier_measured :
    measured Pattern.identifier input = .read lexeme rest ↔
      input = lexeme ++ rest ∧ IsName lexeme ∧ NotAhead Pattern.isNameChar rest := by
  constructor
  · intro h
    obtain ⟨rfl, hlen⟩ := append_of_measured Pattern.fits_identifier h
    obtain ⟨word, rest', hsplit, hword, hname, hrest⟩ := Pattern.wordLength_eq_some hlen
    obtain ⟨rfl, rfl⟩ := List.append_inj hsplit hword.symm
    exact ⟨rfl, hname, hrest⟩
  · rintro ⟨rfl, hname, hrest⟩
    exact measured_append (Pattern.wordLength_append hname hrest)

theorem dashedIdentifier_measured :
    measured Pattern.dashedIdentifier input = .read lexeme rest ↔
      input = lexeme ++ rest ∧ IsDashedName lexeme ∧ NotAhead Pattern.isDashedNameChar rest := by
  constructor
  · intro h
    obtain ⟨rfl, hlen⟩ := append_of_measured Pattern.fits_dashedIdentifier h
    obtain ⟨word, rest', hsplit, hword, hname, hrest⟩ := Pattern.wordLength_eq_some hlen
    obtain ⟨rfl, rfl⟩ := List.append_inj hsplit hword.symm
    exact ⟨rfl, hname, hrest⟩
  · rintro ⟨rfl, hname, hrest⟩
    exact measured_append (Pattern.wordLength_append hname hrest)

theorem literal_measured :
    measured Pattern.literal input = .read lexeme rest ↔
      input = lexeme ++ rest ∧ ∃ content, IsQuoted lexeme content := by
  constructor
  · intro h
    obtain ⟨rfl, hlen⟩ := append_of_measured Pattern.fits_literal h
    obtain ⟨quoted, rest', content, hsplit, hquoted, hcontent⟩ := Pattern.quotedLength_eq_some hlen
    obtain ⟨rfl, rfl⟩ := List.append_inj hsplit hquoted.symm
    exact ⟨rfl, content, hcontent⟩
  · rintro ⟨rfl, content, hquoted⟩
    exact measured_append (Pattern.quotedLength_append hquoted)

theorem integer_measured :
    measured Pattern.integer input = .read lexeme rest ↔
      input = lexeme ++ rest ∧ (∃ value, IsInteger lexeme value) ∧ NotAhead Char.isDigit rest := by
  constructor
  · intro h
    obtain ⟨rfl, hlen⟩ := append_of_measured Pattern.fits_integer h
    obtain ⟨found, rest', value, hsplit, hfound, hvalue, hrest⟩ :=
      Pattern.integerLength_eq_some hlen
    obtain ⟨rfl, rfl⟩ := List.append_inj hsplit hfound.symm
    exact ⟨rfl, ⟨value, hvalue⟩, hrest⟩
  · rintro ⟨rfl, ⟨value, hvalue⟩, hrest⟩
    exact measured_append (Pattern.integerLength_append hvalue hrest)

theorem hexadecimal_measured :
    measured Pattern.hexadecimal input = .read lexeme rest ↔
      input = lexeme ++ rest ∧ (∃ value, IsHexadecimal lexeme value) ∧
        NotAhead Pattern.isHexDigit rest := by
  constructor
  · intro h
    obtain ⟨rfl, hlen⟩ := append_of_measured Pattern.fits_hexadecimal h
    obtain ⟨found, rest', value, hsplit, hfound, hvalue, hrest⟩ :=
      Pattern.hexadecimalLength_eq_some hlen
    obtain ⟨rfl, rfl⟩ := List.append_inj hsplit hfound.symm
    exact ⟨rfl, ⟨value, hvalue⟩, hrest⟩
  · rintro ⟨rfl, ⟨value, hvalue⟩, hrest⟩
    exact measured_append (Pattern.hexadecimalLength_append hvalue hrest)

theorem decimal_measured (h : measured Pattern.decimal input = .read lexeme rest) :
    input = lexeme ++ rest ∧ IsDecimal lexeme ∧ NotAhead Char.isDigit rest := by
  obtain ⟨rfl, hlen⟩ := append_of_measured Pattern.fits_decimal h
  obtain ⟨found, rest', hsplit, hfound, hdecimal, hrest⟩ := Pattern.decimalLength_eq_some hlen
  obtain ⟨rfl, rfl⟩ := List.append_inj hsplit hfound.symm
  exact ⟨rfl, hdecimal, hrest⟩

theorem measured_decimal (h : IsDecimal lexeme) (hrest : NotAhead Pattern.isNameChar rest) :
    measured Pattern.decimal (lexeme ++ rest) = .read lexeme rest :=
  measured_append (Pattern.decimalLength_append h hrest)

theorem separator_measured :
    measured Pattern.separator input = .read lexeme rest ↔
      input = lexeme ++ rest ∧ (lexeme = [','] ∨ lexeme = [';']) := by
  constructor
  · intro h
    obtain ⟨rfl, hlen⟩ := append_of_measured Pattern.fits_separator h
    refine ⟨rfl, ?_⟩
    simp only [Pattern.separator] at hlen
    cases hinput : lexeme ++ rest with
    | nil => simp [hinput, Pattern.separatorLength] at hlen
    | cons c cs =>
        rw [hinput, Pattern.separatorLength] at hlen
        split at hlen
        · next hc =>
          obtain ⟨d, rfl⟩ := List.length_eq_one_iff.1 (Option.some.inj hlen).symm
          obtain ⟨rfl, -⟩ : d = c ∧ rest = cs := by simpa using hinput
          simpa using hc
        · cases hlen
  · rintro ⟨rfl, rfl | rfl⟩
    · exact measured_append rfl
    · exact measured_append rfl

end ThriftSchema.Reader
