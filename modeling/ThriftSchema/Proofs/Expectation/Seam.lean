import ThriftSchema.Proofs.Expectation.Shape

set_option autoImplicit false

/-! # Where tokens meet

A token is tried where another one has ended and the layout behind it is skipped. Such a place is
a seam: what lies in front of it is without comments, and a word that it ends with does not run
on behind the seam, unless that word is part of a numeral.

At a seam a text can be cut. In front of the cut the tokens are read as before, whatever follows
it, if that is set off by a blank.

* `Seam`: the places, which `Seam.read` passes on from one token to the next.
* `SetOff`: texts that begin with a blank, or are empty.
* `Swap`: a text, and the same text with something else behind a seam.
-/

namespace ThriftSchema

open Comment (isOpener)
open Pattern (isLayout isNameChar)
open Reader (skipLayout)

/-! ## Seams -/

/-- The words at the end of a text are parts of numerals. -/
def EndsInNumeral (front : List Char) : Prop :=
  ∀ word, word <:+ front → (∀ c ∈ word, isWordChar c = true) → ∀ c ∈ word, isNumeralChar c = true

namespace EndsInNumeral

theorem nil : EndsInNumeral [] := by
  intro word hword _ c hc
  rw [List.suffix_nil.1 hword] at hc
  exact absurd hc List.not_mem_nil

theorem of_last {front : List Char} {c : Char} (hc : isWordChar c = false) :
    EndsInNumeral (front ++ [c]) := by
  intro word hsuffix hword
  rcases List.eq_nil_or_concat word with rfl | ⟨init, last, rfl⟩
  · exact fun d hd => absurd hd List.not_mem_nil
  · obtain ⟨before, hbefore⟩ := hsuffix
    rw [List.concat_eq_append, ← List.append_assoc] at hbefore
    obtain ⟨-, hlast⟩ := List.append_inj' hbefore rfl
    obtain rfl : last = c := by simpa using hlast
    rw [hword last (by simp)] at hc
    cases hc

theorem of_suffix {front back : List Char} (h : EndsInNumeral (front ++ back)) :
    EndsInNumeral back := fun word hsuffix => h word (hsuffix.trans (List.suffix_append ..))

/-- A numeral behind a seam: a word that it goes on with is a part of a numeral. -/
theorem append {front lexeme rest : List Char} (hne : lexeme ≠ [])
    (hlexeme : ∀ c ∈ lexeme, isNumeralChar c = true)
    (h : NotAhead isNameChar (lexeme ++ rest) ∨ EndsInNumeral front) :
    EndsInNumeral (front ++ lexeme) := by
  rintro word ⟨before, hbefore⟩ hword
  rcases List.append_eq_append_iff.1 hbefore with ⟨more, hmore, rfl⟩ | ⟨more, rfl, hmore⟩
  · -- the word begins in front of the seam, or at it
    have hmem : ∀ c ∈ lexeme, c ∈ more ++ lexeme := fun c hc => List.mem_append_right _ hc
    have hends : ∀ c ∈ more, isNumeralChar c = true := by
      rcases h with h | h
      · -- the numeral begins with a word character that may continue no name
        exfalso
        obtain ⟨c, cs, rfl⟩ := List.exists_cons_of_ne_nil hne
        have hhead : isNameChar c = false := notAhead_cons.1 h
        have hc := hword c (hmem c (List.mem_cons_self ..))
        simp only [isWordChar, hhead, Bool.false_or, beq_iff_eq] at hc
        have hnumeral := hlexeme c (List.mem_cons_self ..)
        rw [hc] at hnumeral
        exact absurd hnumeral (by decide)
      · exact h more ⟨before, hmore.symm⟩ fun c hc => hword c (List.mem_append_left _ hc)
    intro c hc
    rcases List.mem_append.1 hc with hc | hc
    · exact hends c hc
    · exact hlexeme c hc
  · exact fun c hc => hlexeme c (hmore ▸ List.mem_append_right _ hc)

end EndsInNumeral

theorem not_isWordChar_of_isLayout {c : Char} (h : isLayout c = true) : isWordChar c = false := by
  simp only [isLayout, Bool.or_eq_true, beq_iff_eq] at h
  rcases h with (((rfl | rfl) | rfl) | rfl) | rfl <;> decide

/-- A place between tokens: comments and quoted texts in front of it are closed, layout is
skipped, and a word in front of it that is no part of a numeral ends there. -/
structure Seam (front rest : List Char) : Prop where
  plain : Plain front
  start : NotAhead isLayout rest
  apart : NotAhead isNameChar rest ∨ EndsInNumeral front

namespace Seam

variable {front rest : List Char}

/-- The place is a seam of an end of the text in front of it. -/
theorem of_append {before : List Char} (h : Seam (before ++ front) rest) (hbefore : Plain before) :
    Seam front rest where
  plain := hbefore.of_append h.plain
  start := h.start
  apart := h.apart.imp_right EndsInNumeral.of_suffix

/-- The layout behind a place is skipped. -/
theorem skip (hplain : Plain front) (hapart : NotAhead isNameChar rest ∨ EndsInNumeral front) :
    ∃ blanks, rest = blanks ++ skipLayout rest ∧ (∀ c ∈ blanks, isLayout c = true) ∧
      Seam (front ++ blanks) (skipLayout rest) := by
  obtain ⟨blanks, hrest, hblanks⟩ := Reader.exists_layout rest
  have hclass : Plain blanks :=
    .of_forall fun c hc => not_isOpener_of (hblanks c hc) (by decide)
  refine ⟨blanks, hrest, hblanks, hplain.append hclass, notAhead_dropWhile _ _, ?_⟩
  rcases List.eq_nil_or_concat blanks with rfl | ⟨init, last, rfl⟩
  · rw [List.nil_append] at hrest
    rwa [List.append_nil, ← hrest]
  · right
    rw [List.concat_eq_append, ← List.append_assoc]
    exact .of_last (not_isWordChar_of_isLayout (hblanks last (by simp)))

/-- Behind what a token reads there is a seam, but for the layout. -/
theorem behind {lexeme : List Char} (h : Seam front (lexeme ++ rest))
    (hshape : TokenShape lexeme rest) :
    NotAhead isNameChar rest ∨ EndsInNumeral (front ++ lexeme) := by
  cases hshape with
  | word _ hrest => exact .inl hrest
  | mark hmark => exact .inr (.of_last (isMarkChar_iff.1 hmark).1)
  | lexeme hshape =>
      cases hshape with
      | name _ hrest => exact .inl hrest
      | quoted hquoted =>
          cases hquoted with
          | @intro quote content hquote _ =>
              have hclosing : isWordChar quote = false := by
                rcases hquote with rfl | rfl <;> decide
              right
              rw [← List.cons_append, ← List.append_assoc]
              exact .of_last hclosing
      | numeral hne hlexeme => exact .inr (.append hne hlexeme h.apart)

/-- A token reads from seam to seam. -/
theorem read {t : Terminal} (ht : t.fits = true) {input : List Char} (h : Seam front input)
    (hread : t.read input = some rest) :
    ∃ taken, input = taken ++ rest ∧ Plain taken ∧ Seam (front ++ taken) rest := by
  obtain ⟨lexeme, middle, rfl, hshape, -, rfl⟩ := Terminal.read_eq_some ht hread
  obtain ⟨blanks, hmiddle, hblanks, hseam⟩ :=
    skip (h.plain.append hshape.plain) (h.behind hshape)
  rw [List.append_assoc] at hseam
  refine ⟨lexeme ++ blanks, ?_, hshape.plain.append ?_, hseam⟩
  · rw [List.append_assoc, ← hmiddle]
  · exact .of_forall fun c hc => not_isOpener_of (hblanks c hc) (by decide)

end Seam

/-! ## Another text behind a seam -/

/-- A text that begins with a blank, or is empty. -/
def SetOff (cs : List Char) : Prop := ∀ c ∈ cs.head?, c = ' '

theorem SetOff.notAhead {cs : List Char} (h : SetOff cs) {p : Char → Bool} (hp : p ' ' = false) :
    NotAhead p cs := by
  intro c hc
  rwa [h c hc]

/-- A quoted text in front of a seam is closed there, since others are. -/
theorem IsQuoted.length_le {quoted content rest front other : List Char}
    (h : IsQuoted quoted content) (heq : front ++ other = quoted ++ rest) (hfront : Plain front)
    (hother : SetOff other) : quoted.length ≤ front.length := by
  have hlength : Pattern.quotedLength (front ++ other) = some quoted.length := by
    rw [heq, Pattern.quotedLength_append h]
  obtain ⟨hquote, -⟩ := h
  cases hfront with
  | nil =>
      rw [List.nil_append] at heq
      obtain rfl : _ = ' ' := hother _ (by rw [heq]; rfl)
      exact absurd hquote (by decide)
  | cons hc _ =>
      obtain ⟨rfl, -⟩ := List.cons.inj heq
      rw [Plain.isOpener_of_isQuote hquote] at hc
      cases hc
  | quoted hquoted _ =>
      rw [List.append_assoc, Pattern.quotedLength_append hquoted] at hlength
      rw [List.length_append, ← Option.some.inj hlength]
      exact Nat.le_add_right ..

/-- A token does not reach over the blank that sets off the text behind it. -/
theorem TokenShape.length_le {lexeme rest front other : List Char} (h : TokenShape lexeme rest)
    (heq : front ++ other = lexeme ++ rest) (hfront : Plain front) (hother : SetOff other) :
    lexeme.length ≤ front.length := by
  -- where no blank is in the token, it ends in front of the blank
  have hblank : ' ' ∉ lexeme → lexeme.length ≤ front.length := by
    intro habsent
    by_contra hlong
    rcases List.append_eq_append_iff.1 heq with ⟨more, rfl, rfl⟩ | ⟨more, rfl, -⟩
    · obtain ⟨c, cs, rfl⟩ : ∃ c cs, more = c :: cs := by
        refine List.exists_cons_of_ne_nil fun hnil => hlong ?_
        rw [hnil, List.append_nil]
      obtain rfl : c = ' ' := hother c (by simp)
      exact habsent (by simp)
    · exact hlong (by simp)
  have hclass : ∀ {p : Char → Bool}, p ' ' = false → (∀ c ∈ lexeme, p c = true) →
      lexeme.length ≤ front.length := by
    intro p hp hall
    refine hblank fun hmem => ?_
    rw [hall ' ' hmem] at hp
    cases hp
  cases h with
  | word h _ => exact hclass rfl (isPlainWord_iff.1 h).1
  | @mark c _ h => exact hclass (p := isMarkChar) rfl (by simpa using h)
  | lexeme h =>
      cases h with
      | name h _ =>
          exact hclass rfl (isSpelled_of_isWord (fun _ => isSpelled_of_isDashedNameChar) h)
      | numeral _ h => exact hclass rfl h
      | quoted h => exact h.length_le heq hfront hother

theorem Terminal.le_of_setOff {t : Terminal} (ht : t.fits = true) {front other : List Char}
    {n : Nat} (hfront : Plain front) (hother : SetOff other)
    (h : t.measure (front ++ other) = some n) : n ≤ front.length := by
  obtain ⟨lexeme, rest, heq, rfl, hshape⟩ := exists_shape ht h
  exact hshape.length_le heq hfront hother

section Behind

variable {front rest other : List Char} {n : Nat}
  (hseam : Seam front rest) (hfront : front ≠ []) (hother : SetOff other)

include hseam hother

/-- A word in front of a seam is measured whatever follows it. -/
theorem Terminal.wordMeasure_setOff {text : String} (htext : isPlainWord text.toList = true)
    (hle : ∀ n, wordMeasure text (front ++ rest) = some n → n ≤ front.length) :
    wordMeasure text (front ++ other) = wordMeasure text (front ++ rest) := by
  have hsame : ∀ more, front = text.toList ++ more →
      (NotAhead isNameChar (more ++ other) ↔ NotAhead isNameChar (more ++ rest)) := by
    rintro (_ | ⟨c, more⟩) hsplit
    · -- the word ends at the seam, and is no part of a numeral
      rw [List.append_nil] at hsplit
      obtain ⟨hword, c, hc, hnumeral⟩ := isPlainWord_iff.1 htext
      have hrest : NotAhead isNameChar rest := by
        rcases hseam.apart with hrest | hends
        · exact hrest
        · rw [hsplit] at hends
          rw [hends _ (List.suffix_refl _) hword c hc] at hnumeral
          cases hnumeral
      exact ⟨fun _ => hrest, fun _ => hother.notAhead rfl⟩
    · exact Iff.rfl
  have hmeets : ∀ {x y n}, (∀ more, front = text.toList ++ more →
        NotAhead isNameChar (more ++ x) → NotAhead isNameChar (more ++ y)) →
      wordMeasure text (front ++ x) = some n → n ≤ front.length →
      wordMeasure text (front ++ y) = some n := by
    intro x y n hxy hmeasure hn
    obtain ⟨after, heq, hafter, rfl⟩ := wordMeasure_eq_some.1 hmeasure
    obtain ⟨more, rfl⟩ : text.toList <+: front :=
      List.prefix_of_prefix_length_le ⟨after, heq.symm⟩ (List.prefix_append ..) hn
    rw [List.append_assoc] at heq ⊢
    obtain rfl : more ++ x = after := List.append_cancel_left heq
    exact wordMeasure_eq_some.2 ⟨more ++ y, rfl, hxy more rfl hafter, rfl⟩
  refine Option.ext fun n => ⟨fun h => ?_, fun h => ?_⟩
  · have hword : (Terminal.word text).fits = true := htext
    exact hmeets (fun more hmore => (hsame more hmore).1) h
      (le_of_setOff hword hseam.plain hother h)
  · exact hmeets (fun more hmore => (hsame more hmore).2) h (hle n h)

include hfront

/-- A token in front of a seam is measured whatever follows it. -/
theorem Terminal.measure_setOff {t : Terminal} (ht : t.fits = true)
    (hle : ∀ n, t.measure (front ++ rest) = some n → n ≤ front.length) :
    t.measure (front ++ other) = t.measure (front ++ rest) := by
  obtain ⟨c, cs, hcons⟩ := List.exists_cons_of_ne_nil hfront
  cases t with
  | word text => exact wordMeasure_setOff hseam hother ht hle
  | mark text =>
      -- the first character decides
      simp only [fits, Bool.and_eq_true, beq_iff_eq, ← String.length_toList] at ht
      obtain ⟨d, hd⟩ := List.length_eq_one_iff.1 ht.1
      simp [measure, hcons, hd]
  | lexeme label kind =>
      have hlocal := kind.isLocal_measure
      have hcut : ∀ {more},
          (∀ n, kind.pattern.measure (front ++ more) = some n → n ≤ front.length) →
            kind.pattern.measure (front ++ more) = kind.pattern.measure front := by
        intro more hle
        cases h : kind.pattern.measure (front ++ more) with
        | none => exact (hlocal.none h).symm
        | some n => exact (hlocal.some h (hle n h)).symm
      have hkind : (Terminal.lexeme label kind).fits = true := rfl
      exact (hcut fun n h => le_of_setOff hkind hseam.plain hother h).trans (hcut hle).symm
  | oneOf label words =>
      simp only [measure] at hle ⊢
      induction words with
      | nil => rfl
      | cons text words ih =>
          have htexts := List.all_eq_true.1 ht
          rw [List.findSome?_cons] at hle
          rw [List.findSome?_cons, List.findSome?_cons,
            wordMeasure_setOff hseam hother (htexts text (List.mem_cons_self ..)) ?_]
          · cases h : wordMeasure text (front ++ rest) with
            | some n => rfl
            | none =>
                rw [h] at hle
                exact ih (List.all_eq_true.2 fun t h => htexts t (List.mem_cons_of_mem _ h)) hle
          · intro n h
            rw [h] at hle
            exact hle n rfl
  | separator label => rw [hcons]; rfl

end Behind

/-! ## Texts that differ behind a seam -/

/-- Two texts, from a token on, that are the same up to a seam; there the first one goes on with
`rest`, and the second one with `other`. -/
inductive Swap (rest other : List Char) : List Char → List Char → Prop
  | intro {front : List Char} (hseam : Seam front rest) (hstart : NotAhead isLayout front) :
      Swap rest other (front ++ rest) (skipLayout (front ++ other))

namespace Swap

variable {rest other input input' : List Char} {t : Terminal}

theorem of_seam {front : List Char} (hseam : Seam front rest) :
    Swap rest other (skipLayout (front ++ rest)) (skipLayout (front ++ other)) := by
  obtain ⟨blanks, hfront, hblanks⟩ := Reader.exists_layout front
  have hstart : NotAhead isLayout (skipLayout front) := notAhead_dropWhile _ _
  have hplain : Plain blanks :=
    .of_forall fun c hc => not_isOpener_of (hblanks c hc) (by decide)
  have hboth : NotAhead isLayout (skipLayout front ++ rest) := by
    cases hskip : skipLayout front with
    | nil => exact hseam.start
    | cons c cs => rwa [hskip] at hstart
  have hleft : skipLayout (front ++ rest) = skipLayout front ++ rest := by
    conv => lhs; rw [hfront, List.append_assoc]
    exact dropWhile_append_of_notAhead hblanks hboth
  have hright : skipLayout (front ++ other) = skipLayout (skipLayout front ++ other) := by
    conv => lhs; rw [hfront, List.append_assoc]
    exact List.dropWhile_append_of_pos hblanks
  rw [hfront] at hseam
  rw [hleft, hright]
  exact .intro (hseam.of_append hplain) hstart

/-- Both texts are at the seam, or the second one begins as the first one does. -/
theorem cases_front (h : Swap rest other input input') :
    input = rest ∧ input' = skipLayout other ∨
      ∃ front, front ≠ [] ∧ Seam front rest ∧ input = front ++ rest ∧ input' = front ++ other := by
  cases h with
  | @intro front hseam hstart =>
      cases front with
      | nil => exact .inl ⟨rfl, rfl⟩
      | cons c cs =>
          have hsame : skipLayout (c :: cs ++ other) = c :: cs ++ other :=
            List.dropWhile_cons_of_neg (by simp [notAhead_cons.1 hstart])
          exact .inr ⟨c :: cs, by simp, hseam, rfl, hsame⟩

theorem eq_of_length (h : Swap rest other input input') (hlength : input.length = rest.length) :
    input' = skipLayout other := by
  rcases h.cases_front with ⟨-, heq⟩ | ⟨front, hfront, -, rfl, -⟩
  · exact heq
  · have hpos : 0 < front.length := List.length_pos_iff.2 hfront
    rw [List.length_append] at hlength
    omega

variable (ht : t.fits = true) (hother : SetOff other) (h : Swap rest other input input')

include ht hother h

/-- A token in front of the seam is read in the second text as in the first one. -/
theorem read {last : List Char} (hread : t.read input = some last)
    (hlong : rest.length ≤ last.length) :
    ∃ last', t.read input' = some last' ∧ Swap rest other last last' := by
  obtain ⟨lexeme, middle, hinput, hshape, hmeasure, rfl⟩ := Terminal.read_eq_some ht hread
  have hmiddle : rest.length ≤ middle.length :=
    Nat.le_trans hlong (List.dropWhile_suffix _).length_le
  have hpos : 0 < lexeme.length := List.length_pos_iff.2 hshape.ne_nil
  rcases h.cases_front with ⟨rfl, -⟩ | ⟨front, hfront, hseam, rfl, rfl⟩
  · have hlength := congrArg List.length hinput
    rw [List.length_append] at hlength
    omega
  · obtain ⟨more, rfl⟩ : lexeme <+: front := by
      have hlength := congrArg List.length hinput
      simp only [List.length_append] at hlength
      exact List.prefix_of_prefix_length_le ⟨middle, hinput.symm⟩ (List.prefix_append ..)
        (by omega)
    rw [List.append_assoc] at hinput
    obtain rfl : more ++ rest = middle := List.append_cancel_left hinput
    have hle : ∀ n, t.measure (lexeme ++ more ++ rest) = some n →
        n ≤ (lexeme ++ more).length := by
      intro n hn
      rw [hmeasure] at hn
      rw [← Option.some.inj hn, List.length_append]
      exact Nat.le_add_right ..
    have hsame : t.measure (lexeme ++ more ++ other) = some lexeme.length :=
      (Terminal.measure_setOff hseam hfront hother ht hle).trans hmeasure
    refine ⟨skipLayout (more ++ other), ?_, of_seam (hseam.of_append hshape.plain)⟩
    rw [Terminal.read, hsame, Option.map_some, List.append_assoc, List.drop_left]

/-- A token that is not there in front of the seam is not there in the second text. -/
theorem read_none (hread : t.read input = none) (hfar : input.length ≠ rest.length) :
    t.read input' = none := by
  rw [Terminal.read_eq_none] at hread ⊢
  rcases h.cases_front with ⟨rfl, -⟩ | ⟨front, hfront, hseam, rfl, rfl⟩
  · exact absurd rfl hfar
  · have hle : ∀ n, t.measure (front ++ rest) = some n → n ≤ front.length := by
      intro n hn
      rw [hread] at hn
      cases hn
    rw [Terminal.measure_setOff hseam hfront hother ht hle, hread]

end Swap

end ThriftSchema
