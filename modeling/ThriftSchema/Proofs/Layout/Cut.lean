import ThriftSchema.Proofs.Expectation.Shape

set_option autoImplicit false

/-! # Tokens in front of a cut

Words, names and numerals are spelled without blanks and marks, and a mark is one character. So a
token that begins in front of a cut ends there as well, if there is a blank or a mark on either
side of the cut; only quoted texts go on over such characters, up to their quote. What such a token
is, the text in front of the cut alone tells.

* `isBreak`: the characters that names, words and numerals are spelled without.
* `Apart`: there is such a character on one side of a cut.
* `Terminal.measure_apart`: a token is measured as it is without the text behind the cut.
-/

namespace ThriftSchema

open Pattern (isLayout isNameChar)

/-! ## Breaks -/

/-- A character that words, names and numerals are spelled without. -/
def isBreak (c : Char) : Bool := !isSpelled c && c != '*'

theorem isBreak_of_isLayout {c : Char} (h : isLayout c = true) : isBreak c = true := by
  simp only [isLayout, Bool.or_eq_true, beq_iff_eq] at h
  rcases h with (((rfl | rfl) | rfl) | rfl) | rfl <;> decide

theorem not_isNameChar_of_isBreak {c : Char} (h : isBreak c = true) : isNameChar c = false := by
  rw [Bool.eq_false_iff]
  intro hname
  simp [isBreak, isSpelled_of_isNameChar hname] at h

theorem not_isBreak_of_isSpelled {c : Char} (h : isSpelled c = true) : isBreak c = false := by
  simp [isBreak, h]

theorem not_isBreak_of_isWordChar {c : Char} (h : isWordChar c = true) : isBreak c = false := by
  simp only [isWordChar, Bool.or_eq_true, beq_iff_eq] at h
  rcases h with h | rfl
  · exact not_isBreak_of_isSpelled (isSpelled_of_isNameChar h)
  · rfl

/-- A token in which there is a break is a mark or a quoted text. -/
theorem TokenShape.eq_or_isQuoted {lexeme rest : List Char} (h : TokenShape lexeme rest) {c : Char}
    (hc : c ∈ lexeme) (hbreak : isBreak c = true) :
    lexeme = [c] ∨ ∃ content, IsQuoted lexeme content := by
  have hnone : ∀ {C : Char → Bool}, (∀ d, C d = true → isBreak d = false) →
      (∀ d ∈ lexeme, C d = true) → lexeme = [c] ∨ ∃ content, IsQuoted lexeme content := by
    intro C hC hall
    rw [hC c (hall c hc)] at hbreak
    cases hbreak
  cases h with
  | word h _ => exact hnone (fun _ => not_isBreak_of_isWordChar) (isPlainWord_iff.1 h).1
  | mark _ => exact .inl (by rw [List.mem_singleton.1 hc])
  | lexeme h =>
      cases h with
      | name h _ =>
          exact hnone (fun _ => not_isBreak_of_isSpelled)
            (isSpelled_of_isWord (fun _ => isSpelled_of_isDashedNameChar) h)
      | quoted h => exact .inr ⟨_, h⟩
      | numeral _ h =>
          exact hnone (fun _ => not_isBreak_of_isSpelled)
            fun d hd => isSpelled_of_isNumeralChar (h d hd)

/-! ## Cuts -/

/-- One of two texts is empty, or on one side of the cut between them there is a break. -/
def Apart (front rest : List Char) : Prop :=
  (∀ c ∈ front.getLast?, isBreak c = true) ∨ ∀ c ∈ rest.head?, isBreak c = true

theorem Apart.of_append {taken front rest : List Char} (h : Apart (taken ++ front) rest) :
    Apart front rest := by
  refine h.imp_left fun hlast c hc => hlast c ?_
  rw [List.getLast?_append, Option.mem_def.1 hc]
  rfl

/-- If a text begins with a quote, then it is closed in the text, or not behind it either. -/
def QuoteSettled (front rest : List Char) : Prop :=
  ∀ mark more, front = mark :: more → IsQuote mark → mark ∈ more ∨ mark ∉ rest

/-- A quoted text ends in front of the cut. -/
theorem QuoteSettled.length_le {front rest quoted content behind : List Char}
    (h : QuoteSettled front rest) (hne : front ≠ []) (hquoted : IsQuoted quoted content)
    (heq : front ++ rest = quoted ++ behind) : quoted.length ≤ front.length := by
  obtain ⟨mark, more, rfl⟩ := List.exists_cons_of_ne_nil hne
  cases hquoted with
  | @intro quote content hquote habsent =>
      simp only [List.cons_append, List.cons.injEq, List.append_assoc] at heq
      obtain ⟨rfl, heq⟩ := heq
      by_contra hlong
      simp only [List.length_cons, List.length_append, List.length_nil] at hlong
      -- the quote that closes lies behind the cut
      obtain ⟨others, rfl⟩ : more <+: content :=
        List.prefix_of_prefix_length_le (List.prefix_append more rest) ⟨_, heq.symm⟩ (by omega)
      rw [List.append_assoc] at heq
      have hrest : mark ∈ rest := by
        rw [List.append_cancel_left heq]
        simp
      rcases h mark more rfl hquote with hmore | hnone
      · exact habsent (List.mem_append_left _ hmore)
      · exact hnone hrest

/-! ## Tokens -/

namespace Terminal

variable {t : Terminal} {front rest : List Char} {n : Nat} (hne : front ≠ [])
  (hapart : Apart front rest) (hquote : QuoteSettled front rest)

include hne hapart hquote

/-- A token ends in front of the cut. -/
theorem exists_front (ht : t.fits = true) (h : t.measure (front ++ rest) = some n) :
    ∃ lexeme more, front = lexeme ++ more ∧ lexeme.length = n ∧
      TokenShape lexeme (more ++ rest) := by
  obtain ⟨lexeme, behind, heq, rfl, hshape⟩ := exists_shape ht h
  rcases List.append_eq_append_iff.1 heq with ⟨others, rfl, rfl⟩ | ⟨more, rfl, rfl⟩
  · -- a break would lie inside the token
    cases others with
    | nil => exact ⟨front, [], by simp, by simp, by simpa using hshape⟩
    | cons d others =>
        obtain ⟨c, hc, hbreak⟩ : ∃ c ∈ front ++ d :: others, isBreak c = true := by
          rcases hapart with hlast | hhead
          · exact ⟨front.getLast hne, List.mem_append_left _ (List.getLast_mem hne),
              hlast _ (List.getLast?_eq_some_getLast hne)⟩
          · exact ⟨d, by simp, hhead d rfl⟩
        rcases hshape.eq_or_isQuoted hc hbreak with hsingle | ⟨content, hquoted⟩
        · have hlength := congrArg List.length hsingle
          have hpos : 0 < front.length := List.length_pos_iff.2 hne
          simp only [List.length_append, List.length_cons, List.length_nil] at hlength
          omega
        · have hle := hquote.length_le hne hquoted heq
          simp only [List.length_append, List.length_cons] at hle
          omega
  · exact ⟨lexeme, more, rfl, rfl, hshape⟩

theorem le_front (ht : t.fits = true) (h : t.measure (front ++ rest) = some n) :
    n ≤ front.length := by
  obtain ⟨lexeme, more, rfl, rfl, -⟩ := exists_front hne hapart hquote ht h
  exact (List.prefix_append ..).length_le

theorem wordMeasure_apart {text : String} (htext : isPlainWord text.toList = true) :
    wordMeasure text (front ++ rest) = wordMeasure text front := by
  have hword : (word text).fits = true := htext
  refine Option.ext fun n => ⟨fun h => ?_, fun h => ?_⟩
  · obtain ⟨after, heq, hafter, rfl⟩ := wordMeasure_eq_some.1 h
    obtain ⟨lexeme, more, rfl, hlength, -⟩ := exists_front hne hapart hquote hword h
    rw [List.append_assoc] at heq
    obtain ⟨rfl, rfl⟩ := List.append_inj heq hlength
    refine wordMeasure_eq_some.2 ⟨more, rfl, ?_, rfl⟩
    cases more with
    | nil => exact notAhead_nil _
    | cons c more => exact notAhead_cons.2 (notAhead_cons.1 hafter)
  · obtain ⟨more, rfl, hmore, rfl⟩ := wordMeasure_eq_some.1 h
    refine wordMeasure_eq_some.2 ⟨more ++ rest, List.append_assoc .., ?_, rfl⟩
    cases more with
    | cons c more => exact notAhead_cons.2 (notAhead_cons.1 hmore)
    | nil =>
        -- the word ends at the cut, and its last character is no break
        rw [List.append_nil] at hapart hne
        rcases hapart with hlast | hhead
        · have hbreak := hlast _ (List.getLast?_eq_some_getLast hne)
          have hchar := (isPlainWord_iff.1 htext).1 _ (List.getLast_mem hne)
          rw [not_isBreak_of_isWordChar hchar] at hbreak
          cases hbreak
        · exact fun c hc => not_isNameChar_of_isBreak (hhead c hc)

/-- A token in front of the cut is measured as it is without the text behind the cut. -/
theorem measure_apart (ht : t.fits = true) : t.measure (front ++ rest) = t.measure front := by
  have hlocal : ∀ {measure : List Char → Option Nat}, IsLocal measure →
      (∀ n, measure (front ++ rest) = some n → n ≤ front.length) →
      measure (front ++ rest) = measure front := by
    intro measure h hle
    cases hmeasure : measure (front ++ rest) with
    | none => exact (h.none hmeasure).symm
    | some n => exact (h.some hmeasure (hle n hmeasure)).symm
  have hle : ∀ n, t.measure (front ++ rest) = some n → n ≤ front.length :=
    fun _ => le_front hne hapart hquote ht
  cases t with
  | word text => exact wordMeasure_apart hne hapart hquote ht
  | mark text =>
      -- the first character decides
      obtain ⟨c, cs, rfl⟩ := List.exists_cons_of_ne_nil hne
      simp only [fits, Bool.and_eq_true, beq_iff_eq, ← String.length_toList] at ht
      obtain ⟨d, hd⟩ := List.length_eq_one_iff.1 ht.1
      simp [measure, hd]
  | lexeme label kind => exact hlocal kind.isLocal_measure hle
  | oneOf label words =>
      simp only [measure]
      induction words with
      | nil => rfl
      | cons text words ih =>
          have htexts := List.all_eq_true.1 ht
          have hmore : (oneOf label words).fits = true :=
            List.all_eq_true.2 fun t h => htexts t (List.mem_cons_of_mem _ h)
          rw [List.findSome?_cons, List.findSome?_cons,
            wordMeasure_apart hne hapart hquote (htexts text (List.mem_cons_self ..)),
            ih hmore fun _ => le_front hne hapart hquote hmore]
  | separator label => exact hlocal Pattern.isLocal_separatorLength hle

end Terminal

end ThriftSchema
