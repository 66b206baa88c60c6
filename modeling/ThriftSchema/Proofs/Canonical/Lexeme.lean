import ThriftSchema.Proofs.Canonical.Token

set_option autoImplicit false

/-! # Reading words, names and numbers that stand apart

Every token of a canonical text is read by the reader of its class, and a reader of another class
fails at it. A name is told from a word by its whole text, since a word must not run on.
-/

namespace ThriftSchema.Canonical

open Reader (spaced measured keyword firstKeyword lexeme)
open Number (Double)

variable {α : Type} {p : PartReader α} {a : α} {token : String} {left : List String}

/-! ## Words and marks -/

/-- A token is read whole; the space behind it is layout. -/
theorem Reads.spaced (h : Visible token)
    (hp : p (token.toList ++ behind left) = .read a (behind left)) :
    Reads (Reader.spaced p) (token :: left) a left := by
  refine Reader.spaced_eq_read.2 ⟨behind left, ?_, rfl⟩
  rw [ahead_cons h, hp]

theorem reads_word {text : String} (h : Visible text) :
    Reads (Reader.word text) (text :: left) () left :=
  .spaced h (Reader.keyword_eq_read.2 ⟨rfl, notAhead_behind (by decide) _⟩)

theorem reads_symbol {text : String} (h : Visible text) :
    Reads (Reader.symbol text) (text :: left) () left :=
  .spaced h (Reader.characters_eq_read.2 rfl)

/-- A text that a keyword can be. -/
abbrev IsKeyword (text : String) : Prop := Reader.IsKeyword text.toList

/-- Behind its first character the token goes on as a name does. -/
abbrev RunsOn (token : String) : Prop := Reader.RunsOn token.toList

theorem isKeyword_of_visible (hvisible : Visible token) (hruns : RunsOn token) :
    IsKeyword token := by
  obtain ⟨c, cs, htoken, -⟩ := exists_cons_of_begins hvisible
  exact ⟨by simp [htoken], hruns⟩

theorem runsOn_of_isName (h : IsName token.toList) : RunsOn token :=
  (Reader.isKeyword_of_isName h).2

theorem keyword_failed {text : String} (htext : IsKeyword text) (hne : text ≠ token)
    (hvisible : Visible token) (hruns : RunsOn token) :
    keyword text (token.toList ++ behind left) = .failed :=
  Reader.keyword_failed htext (isKeyword_of_visible hvisible hruns)
    (fun h => hne (String.toList_injective h)) (notAhead_behind (by decide) _)

theorem Fails.spaced (h : Visible token) (hp : p (token.toList ++ behind left) = .failed) :
    Fails (Reader.spaced p) (token :: left) := by
  refine Reader.bind_of_failed ?_
  rw [ahead_cons h, hp]

theorem fails_word {text : String} (htext : IsKeyword text) (hne : text ≠ token)
    (hvisible : Visible token) (hruns : RunsOn token) :
    Fails (Reader.word text) (token :: left) :=
  .spaced hvisible (keyword_failed htext hne hvisible hruns)

/-- One of some words is found behind those that stand in front of it in the list. -/
theorem reads_oneOf {texts : List String} {text : String} (h : text ∈ texts)
    (htexts : ∀ t ∈ texts, IsKeyword t) (hvisible : Visible text) (hruns : RunsOn text) :
    Reads (Reader.oneOf texts) (text :: left) text left := by
  refine .spaced hvisible ?_
  induction texts with
  | nil => cases h
  | cons first texts ih =>
      by_cases hfirst : first = text
      · subst hfirst
        have hread : keyword first (first.toList ++ behind left) = .read () (behind left) :=
          Reader.keyword_eq_read.2 ⟨rfl, notAhead_behind (by decide) _⟩
        refine Reader.orElse_of_read ?_
        rw [Reader.bind_of_read hread, Reader.pure_apply]
      · have hfailed : keyword first (text.toList ++ behind left) = .failed :=
          keyword_failed (htexts first (List.mem_cons_self ..)) hfirst hvisible hruns
        rw [firstKeyword, Reader.orElse_of_failed (Reader.bind_of_failed hfailed)]
        exact ih ((List.mem_cons.1 h).resolve_left (Ne.symm hfirst))
          fun t ht => htexts t (List.mem_cons_of_mem _ ht)

theorem fails_oneOf {texts : List String} (h : token ∉ texts)
    (htexts : ∀ t ∈ texts, IsKeyword t) (hvisible : Visible token) (hruns : RunsOn token) :
    Fails (Reader.oneOf texts) (token :: left) := by
  refine .spaced hvisible ?_
  induction texts with
  | nil => rfl
  | cons first texts ih =>
      have hfailed : keyword first (token.toList ++ behind left) = .failed :=
        keyword_failed (htexts first (List.mem_cons_self ..))
          (fun heq => h (heq ▸ List.mem_cons_self ..)) hvisible hruns
      rw [firstKeyword, Reader.orElse_of_failed (Reader.bind_of_failed hfailed)]
      exact ih (fun hmem => h (List.mem_cons_of_mem _ hmem))
        fun t ht => htexts t (List.mem_cons_of_mem _ ht)

/-! ## Names and literals -/

theorem not_isLayout_of_isNameStart {c : Char} (h : Pattern.isNameStart c = true) :
    (!Pattern.isLayout c) = true := by
  rw [Bool.not_eq_true', Bool.eq_false_iff]
  intro hlayout
  simp only [Pattern.isLayout, Bool.or_eq_true, beq_iff_eq] at hlayout
  rcases hlayout with (((rfl | rfl) | rfl) | rfl) | rfl <;> exact absurd h (by decide)

theorem begins_of_isWord {C D : Char → Bool} (h : IsWord C D token.toList) : Begins C token := by
  cases htoken : token.toList with
  | nil => simp [htoken, IsWord] at h
  | cons c cs =>
      rw [htoken] at h
      simpa [Begins, htoken] using h.1

theorem visible_of_begins_isNameStart (h : Begins Pattern.isNameStart token) : Visible token :=
  h.mono fun _ => not_isLayout_of_isNameStart

theorem Reads.lexeme {pattern : Pattern} (h : Visible token)
    (hp : measured pattern (token.toList ++ behind left) = .read token.toList (behind left)) :
    Reads (Reader.lexeme pattern) (token :: left) token.toList left := .spaced h hp

theorem reads_identifier (h : IsName token.toList) :
    Reads Reader.identifier (token :: left) token left := by
  have hvisible := visible_of_begins_isNameStart (begins_of_isWord h)
  have hread : measured Pattern.identifier (token.toList ++ behind left)
      = .read token.toList (behind left) :=
    Reader.identifier_measured.2 ⟨rfl, h, notAhead_behind (by decide) _⟩
  have hmap : Reads Reader.identifier (token :: left) (String.ofList token.toList) left :=
    (Reads.lexeme hvisible hread).map
  rwa [String.ofList_toList] at hmap

theorem reads_dashedIdentifier (h : IsDashedName token.toList) :
    Reads Reader.dashedIdentifier (token :: left) token left := by
  have hvisible := visible_of_begins_isNameStart (begins_of_isWord h)
  have hread : measured Pattern.dashedIdentifier (token.toList ++ behind left)
      = .read token.toList (behind left) :=
    Reader.dashedIdentifier_measured.2 ⟨rfl, h, notAhead_behind (by decide) _⟩
  have hmap : Reads Reader.dashedIdentifier (token :: left) (String.ofList token.toList) left :=
    (Reads.lexeme hvisible hread).map
  rwa [String.ofList_toList] at hmap

variable {s : Spelling} {text : String}

theorem toList_literal (s : Spelling) (text : String) :
    (s.literal text).toList = s.mark text :: (text.toList ++ [s.mark text]) :=
  String.toList_ofList

theorem begins_literal (h : s.LiteralFits text) :
    Begins StartsIn.isQuoteChar (s.literal text) := by
  have hmark := h.1
  rw [Begins, toList_literal, List.head?_cons, Option.any_some]
  rcases hmark with hmark | hmark <;> rw [hmark] <;> decide

theorem not_isLayout_of_isQuoteChar {c : Char} (h : StartsIn.isQuoteChar c = true) :
    (!Pattern.isLayout c) = true := by
  simp only [StartsIn.isQuoteChar, Bool.or_eq_true, beq_iff_eq] at h
  rcases h with rfl | rfl <;> decide

theorem visible_literal (h : s.LiteralFits text) : Visible (s.literal text) :=
  (begins_literal h).mono fun _ => not_isLayout_of_isQuoteChar

theorem reads_literal (h : s.LiteralFits text) :
    Reads Reader.literal (s.literal text :: left) text left := by
  have hread : measured Pattern.literal ((s.literal text).toList ++ behind left)
      = .read (s.literal text).toList (behind left) := by
    refine Reader.literal_measured.2 ⟨rfl, text.toList, ?_⟩
    rw [toList_literal]
    exact .intro h.1 h.2
  have hmap : Reads Reader.literal (s.literal text :: left)
      (String.ofList ((s.literal text).toList.drop 1).dropLast) left :=
    (Reads.lexeme (visible_literal h) hread).map
  rw [toList_literal, List.drop_succ_cons, List.drop_zero, List.dropLast_concat,
    String.ofList_toList] at hmap
  exact hmap

/-! ## Numbers -/

/-- A number starts as one, whether or not it has a sign. -/
theorem begins_of_isSign {sign rest : List Char} {negative : Bool} (h : IsSign sign negative)
    (htoken : token.toList = sign ++ rest)
    (hrest : rest.head?.any StartsIn.isNumberStart = true) :
    Begins StartsIn.isNumberStart token := by
  rw [Begins, htoken]
  cases h with
  | absent => exact hrest
  | plus => rfl
  | minus => rfl

theorem head_any_of_isRun {digits : List Char} (h : IsRun Char.isDigit digits)
    (rest : List Char) : (digits ++ rest).head?.any StartsIn.isNumberStart = true := by
  obtain ⟨c, cs, rfl⟩ := List.exists_cons_of_ne_nil h.1
  simp [StartsIn.isNumberStart, h.2 c (List.mem_cons_self ..)]

theorem not_isLayout_of_isNumberStart {c : Char} (h : StartsIn.isNumberStart c = true) :
    (!Pattern.isLayout c) = true := by
  rw [Bool.not_eq_true', Bool.eq_false_iff]
  intro hlayout
  simp only [Pattern.isLayout, Bool.or_eq_true, beq_iff_eq] at hlayout
  rcases hlayout with (((rfl | rfl) | rfl) | rfl) | rfl <;> exact absurd h (by decide)

theorem visible_of_begins_isNumberStart (h : Begins StartsIn.isNumberStart token) :
    Visible token := h.mono fun _ => not_isLayout_of_isNumberStart

/-- Digits behind which stands neither a digit nor the mark of hexadecimal numerals. -/
theorem hexadecimalLength_eq_none {sign whole rest : List Char} {negative : Bool}
    (hsign : IsSign sign negative) (hwhole : ∀ c ∈ whole, c.isDigit = true)
    (hhead : NotAhead Pattern.isSignChar (whole ++ rest))
    (hrest : NotAhead (fun c => c.isDigit || c == 'x' || c == 'X') rest) :
    Pattern.hexadecimalLength (sign ++ (whole ++ rest)) = none := by
  rw [Pattern.hexadecimalLength, Pattern.signLength_append hsign hhead]
  simp only [List.drop_left]
  split
  · next x more heq =>
    have hx : (x == 'x' || x == 'X') = false := by
      rcases whole with _ | ⟨c, _ | ⟨d, ds⟩⟩
      · rw [List.nil_append] at heq
        rw [heq] at hrest
        exact absurd (notAhead_cons.1 hrest) (by decide)
      · obtain ⟨-, rfl⟩ : c = '0' ∧ rest = x :: more := by simpa using heq
        have := notAhead_cons.1 hrest
        simp only [Bool.or_eq_false_iff] at this ⊢
        exact ⟨this.1.2, this.2⟩
      · have hd : d.isDigit = true := hwhole d (by simp)
        obtain rfl : d = x := by
          simp only [List.cons_append, List.cons.injEq] at heq
          exact heq.2.1
        rw [Bool.or_eq_false_iff, beq_eq_false_iff_ne, beq_eq_false_iff_ne]
        constructor <;> rintro rfl <;> exact absurd hd (by decide)
    rw [hx]
    rfl
  · rfl

theorem begins_toString (n : Int) : Begins StartsIn.isNumberStart (toString n) := by
  obtain ⟨sign, negative, htext, hsign, -⟩ := Number.exists_sign_toString n
  refine begins_of_isSign hsign htext ?_
  simpa using head_any_of_isRun (Number.isRun_toDigits n.natAbs) []

theorem visible_toString (n : Int) : Visible (toString n) :=
  visible_of_begins_isNumberStart (begins_toString n)

theorem reads_integer {n : Int} (h : Number.isWritable n = true) :
    Reads Reader.integer (toString n :: left) n left := by
  have hread : measured Pattern.integer ((toString n).toList ++ behind left)
      = .read (toString n).toList (behind left) :=
    Reader.integer_measured.2
      ⟨rfl, ⟨n, Number.isInteger_toString n⟩, notAhead_behind (by decide) _⟩
  refine (Reads.lexeme (visible_toString n) hread).bind ?_
  rw [Reads, Reader.decimalValue, Number.readDecimal_toString h]
  rfl

theorem Fails.measured {pattern : Pattern} {f : List Char → PartReader α} (h : Visible token)
    (hp : pattern.measure (token.toList ++ behind left) = none) :
    Fails (Reader.lexeme pattern >>= f) (token :: left) := by
  refine Fails.bind (.spaced h ?_)
  rw [Reader.measured, hp]

theorem fails_hexadecimal_of_integer (n : Int) :
    Fails Reader.hexadecimal (toString n :: left) := by
  refine .measured (visible_toString n) ?_
  obtain ⟨sign, negative, htext, hsign, -⟩ := Number.exists_sign_toString n
  have hdigits := Number.isRun_toDigits n.natAbs
  rw [htext, List.append_assoc]
  exact hexadecimalLength_eq_none hsign hdigits.2 (Pattern.notAhead_sign_of_digits hdigits _)
    (notAhead_behind (by decide) _)

theorem fails_double_of_integer (n : Int) : Fails Reader.double (toString n :: left) := by
  refine .measured (visible_toString n) ?_
  obtain ⟨sign, negative, htext, hsign, -⟩ := Number.exists_sign_toString n
  have hdigits := Number.isRun_toDigits n.natAbs
  have hspan := Pattern.spanLength_append hdigits.2
    (notAhead_behind (C := Char.isDigit) (by decide) left)
  have hexponent := Pattern.exponentLength_of_notAhead
    (notAhead_behind (C := Pattern.isNameChar) (by decide) left)
  have hfraction : Pattern.fractionLength (behind left) = none := by
    cases left with
    | nil => rfl
    | cons next left => rfl
  rw [htext, List.append_assoc]
  simp only [Pattern.decimal, Pattern.decimalLength,
    Pattern.signLength_append hsign (Pattern.notAhead_sign_of_digits hdigits _), List.drop_left,
    hspan]
  rw [← List.drop_drop, List.drop_left, List.drop_left, hexponent, hfraction]
  split <;> rfl

/-- A decimal is a sign, digits or none, and something else behind them. -/
theorem exists_split_of_isDecimal {cs : List Char} (h : IsDecimal cs) :
    ∃ sign negative whole rest, cs = sign ++ (whole ++ rest) ∧ IsSign sign negative ∧
      (∀ c ∈ whole, c.isDigit = true) ∧ rest ≠ [] ∧
      NotAhead (fun c => c.isDigit || c == 'x' || c == 'X') rest ∧
      (whole ++ rest).head?.any (fun c => c.isDigit || c == '.') = true := by
  cases h with
  | @exponent sign whole e negative hsign hwhole he =>
      obtain ⟨c, cs, rfl⟩ := List.exists_cons_of_ne_nil hwhole.1
      refine ⟨sign, negative, _, e, rfl, hsign, hwhole.2, ?_, ?_, ?_⟩
      · rcases he with ⟨_, _⟩
        simp
      · rcases he with ⟨rfl | rfl, _⟩ <;> exact notAhead_cons.2 (by decide)
      · simp [hwhole.2 c (List.mem_cons_self ..)]
  | @fraction sign whole digits e negative hsign hwhole hdigits he =>
      refine ⟨sign, negative, whole, _, rfl, hsign, hwhole, by simp,
        notAhead_cons.2 (by decide), ?_⟩
      cases whole with
      | nil => rfl
      | cons c cs => simp [hwhole c (List.mem_cons_self ..)]

variable {x : Double}

theorem begins_double (h : s.DoubleFits x) : Begins StartsIn.isNumberStart (s.double x) := by
  obtain ⟨sign, negative, whole, rest, htext, hsign, -, -, -, hhead⟩ :=
    exists_split_of_isDecimal h.1
  refine begins_of_isSign hsign htext ?_
  cases hcs : whole ++ rest with
  | nil => simp [hcs] at hhead
  | cons c cs =>
      rw [hcs, List.head?_cons, Option.any_some] at hhead
      simp only [List.head?_cons, Option.any_some, StartsIn.isNumberStart, Bool.or_assoc, hhead,
        Bool.or_true]

theorem visible_double (h : s.DoubleFits x) : Visible (s.double x) :=
  visible_of_begins_isNumberStart (begins_double h)

theorem reads_double (h : s.DoubleFits x) : Reads Reader.double (s.double x :: left) x left := by
  have hread : measured Pattern.decimal ((s.double x).toList ++ behind left)
      = .read (s.double x).toList (behind left) :=
    Reader.measured_decimal h.1 (notAhead_behind (by decide) _)
  refine (Reads.lexeme (visible_double h) hread).bind ?_
  rw [Reads, Reader.doubleValue, h.2]
  rfl

theorem fails_hexadecimal_of_double (h : s.DoubleFits x) :
    Fails Reader.hexadecimal (s.double x :: left) := by
  refine .measured (visible_double h) ?_
  obtain ⟨sign, negative, whole, rest, htext, hsign, hwhole, hne, hrest, hhead⟩ :=
    exists_split_of_isDecimal h.1
  obtain ⟨c, cs, rfl⟩ := List.exists_cons_of_ne_nil hne
  rw [htext, List.append_assoc, List.append_assoc]
  refine hexadecimalLength_eq_none hsign hwhole ?_ (notAhead_cons.2 (notAhead_cons.1 hrest))
  cases whole with
  | nil =>
      refine notAhead_cons.2 ?_
      have hc : (c.isDigit || c == '.') = true := by simpa using hhead
      rcases Bool.or_eq_true_iff.1 hc with hc | hc
      · exact Pattern.not_isSignChar_of_isDigit hc
      · rw [beq_iff_eq] at hc
        rw [hc]
        decide
  | cons d ds => exact Pattern.notAhead_sign_of_digits ⟨by simp, hwhole⟩ _

end ThriftSchema.Canonical
