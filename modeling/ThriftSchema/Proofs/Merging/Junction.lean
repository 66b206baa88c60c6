import ThriftSchema.Proofs.Layout.Cut
import ThriftSchema.Proofs.Reader.Balance
import ThriftSchema.Proofs.Reader.First

set_option autoImplicit false

/-! # A text and what is appended to it

Another text is appended to a text, with a break between them. As long as there is more to come of
the first text, the next token is the one that it was. At the end of the first text the two differ:
nothing is left of the one, and of the other there is what was appended. But if that begins as a
header or a definition does, then only the tokens that these begin with can tell, and the end is
reached only where no bracket is open.

* `Joined`: what is ahead in the first text, and what is ahead with the other one appended.
* `steps_joined`, `steps_inside`: tokens that cannot tell the two.
* `tokenStep_ahead`: all tokens in front of the end.
-/

namespace ThriftSchema

open Pattern (isLayout isNameChar)
open Reader (skipLayout)

/-! ## What a header or a definition begins with -/

theorem wordAhead_append {cs rest : List Char} (h : NotAhead isNameChar rest) :
    wordAhead (cs ++ rest) = wordAhead cs := by
  rw [wordAhead, wordAhead, List.takeWhile_append]
  split
  · next hall =>
    have hnone : rest.takeWhile isNameChar = [] := by
      cases rest with
      | nil => rfl
      | cons c rest => rw [List.takeWhile_cons_of_neg (by simp [notAhead_cons.1 h])]
    rw [hnone, List.append_nil]
    exact (List.Sublist.eq_of_length (List.takeWhile_sublist _) hall).symm
  · rfl

theorem isLead_append {cs rest : List Char} (h : NotAhead isNameChar rest) :
    isLead (cs ++ rest) = isLead cs := by
  rw [isLead, isLead, wordAhead_append h]

/-- A text that begins with such a word begins as a name does. -/
theorem exists_cons_of_isLead {cs : List Char} (h : isLead cs = true) :
    ∃ c rest, cs = c :: rest ∧ Pattern.isNameStart c = true := by
  have hwords : ∀ text ∈ headerWords ++ definitionWords,
      text.toList.head?.any Pattern.isNameStart = true := by decide
  obtain ⟨text, htext, heq⟩ := List.any_eq_true.1 h
  have hhead := hwords text htext
  rw [beq_iff_eq.1 heq, wordAhead] at hhead
  cases cs with
  | nil => cases hhead
  | cons c rest =>
      refine ⟨c, rest, rfl, ?_⟩
      rw [List.takeWhile_cons] at hhead
      split at hhead
      · exact hhead
      · cases hhead

/-- Where a header or a definition begins, only names and their words are read. -/
theorem measure_of_isLead {t : Terminal} (ht : t.fits = true) (hleads : t.leads = false)
    {cs : List Char} (h : isLead cs = true) : t.measure cs = none := by
  obtain ⟨c, rest, rfl, hc⟩ := exists_cons_of_isLead h
  have hmark : ∀ {d : Char} {more : List Char}, c :: rest = d :: more → isMarkChar d = false := by
    intro d more heq
    obtain ⟨rfl, -⟩ := List.cons.inj heq
    simp [isMarkChar, isWordChar, isNameChar_of_isNameStart hc]
  have hword : ∀ {text : String} {count : Nat}, isLead text.toList = false →
      Terminal.wordMeasure text (c :: rest) ≠ some count := by
    intro text count htext hmeasure
    obtain ⟨more, heq, hmore, -⟩ := Terminal.wordMeasure_eq_some.1 hmeasure
    rw [heq, isLead_append hmore, htext] at h
    cases h
  refine Option.eq_none_iff_forall_ne_some.2 fun count hmeasure => ?_
  cases t with
  | word text => exact hword hleads hmeasure
  | oneOf label words =>
      obtain ⟨text, htext, hmeasure⟩ := List.exists_of_findSome?_eq_some hmeasure
      exact hword (by simpa using List.any_eq_false.1 hleads text htext) hmeasure
  | mark text =>
      obtain ⟨d, more, -, hd, heq, -⟩ := Terminal.mark_eq_some ht hmeasure
      rw [hmark heq] at hd
      cases hd
  | separator label =>
      obtain ⟨d, more, heq, hd, -⟩ := Terminal.separator_eq_some hmeasure
      have hnone := hmark heq
      rcases hd with rfl | rfl <;> exact absurd hnone (by decide)
  | lexeme label kind =>
      have hquote : NotAhead StartsIn.isQuoteChar (c :: rest) :=
        notAhead_cons.2 (StartsIn.not_isQuoteChar_of_isNameStart hc)
      have hnumber : NotAhead StartsIn.isNumberStart (c :: rest) :=
        notAhead_cons.2 (StartsIn.not_isNumberStart_of_isNameStart hc)
      have hnone : kind.pattern.measure (c :: rest) = none := by
        cases kind with
        | identifier | dashedIdentifier => cases hleads
        | literal => exact StartsIn.measure_literal hquote
        | integer => exact StartsIn.measure_integer hnumber
        | hexadecimal => exact StartsIn.measure_hexadecimal hnumber
        | decimal => exact StartsIn.measure_decimal hnumber
      rw [Terminal.measure, hnone] at hmeasure
      cases hmeasure

theorem Terminal.measure_nil {t : Terminal} (ht : t.fits = true) : t.measure [] = none := by
  refine Option.eq_none_iff_forall_ne_some.2 fun count hmeasure => ?_
  obtain ⟨lexeme, rest, heq, -, hshape⟩ := exists_shape ht hmeasure
  exact hshape.ne_nil (List.append_eq_nil_iff.1 heq.symm).1

/-! ## Texts that are joined -/

/-- What is ahead, alone and with `r` appended: a text that closes the brackets that are open, or
nothing in front of what `r` holds behind layout. -/
inductive Joined (r : List Char) : Levels
  | front {n : Nat} {x : List Char} (hne : x ≠ []) (hclimbs : Climbs n x 0) : Joined r n x (x ++ r)
  | behind : Joined r 0 [] (skipLayout r)

/-- In front of the end of the first text. -/
def JoinedAhead (r : List Char) (x y : List Char) : Prop := Joined r 0 x y ∧ x ≠ []

namespace Joined

variable {r : List Char} {n : Nat} {x y : List Char}

theorem skip (h : Climbs n x 0) : Joined r n (skipLayout x) (skipLayout (x ++ r)) := by
  obtain ⟨blanks, hx, hblanks⟩ := Reader.exists_layout x
  have hrest : Climbs n (skipLayout x) 0 := by
    rw [hx] at h
    exact (climbs_of_layout hblanks n).of_append h
  have happend : skipLayout (x ++ r) =
      if (skipLayout x).isEmpty then skipLayout r else skipLayout x ++ r := List.dropWhile_append
  rw [happend]
  generalize skipLayout x = z at hrest
  cases z with
  | nil =>
      obtain rfl := Climbs.nil_iff.1 hrest
      exact .behind
  | cons c z => exact .front (List.cons_ne_nil c z) hrest

theorem eq_of_nil (h : Joined r n [] y) : y = skipLayout r := by
  cases h with
  | front hne => exact absurd rfl hne
  | behind => rfl

theorem eq_of_ne_nil (h : Joined r n x y) (hne : x ≠ []) : y = x ++ r ∧ Climbs n x 0 := by
  cases h with
  | front _ hclimbs => exact ⟨rfl, hclimbs⟩
  | behind => exact absurd rfl hne

/-- Where a bracket is open the first text goes on. -/
theorem ne_nil (h : Joined r (n + 1) x y) : x ≠ [] := by
  cases h with
  | front hne => exact hne

end Joined

section Tokens

variable {r : List Char} (hbreak : ∀ c ∈ r.head?, isBreak c = true) {t : Terminal}
  (ht : t.fits = true)

include hbreak ht

/-- In front of the end all tokens are what they were. -/
theorem Joined.step {n : Nat} (hcloses : t.closes = true → 0 < n) {x y : List Char}
    (h : Joined r n x y) (hne : x ≠ []) :
    t.measure x = t.measure y ∧ ∀ count, t.measure x = some count →
      x.take count = y.take count ∧
        Joined r (t.level n) (skipLayout (x.drop count)) (skipLayout (y.drop count)) := by
  obtain ⟨rfl, hclimbs⟩ := h.eq_of_ne_nil hne
  have hquote : QuoteSettled x r := by
    rintro mark more rfl hmark
    exact .inl (hclimbs.mem_of_quote hmark)
  refine ⟨(Terminal.measure_apart hne (.inr hbreak) hquote ht).symm, fun count hcount => ?_⟩
  have htoken := Terminal.climbs ht hcount hcloses
  obtain ⟨lexeme, rest, rfl, rfl, -⟩ := Terminal.exists_shape ht hcount
  simp only [List.append_assoc, List.take_left, List.drop_left] at htoken ⊢
  exact ⟨trivial, .skip (htoken.of_append hclimbs)⟩

theorem tokenStep_ahead (hcloses : t.closes = false) :
    TokenStep (JoinedAhead r) t (Joined r (t.level 0)) :=
  fun _ _ h => h.1.step hbreak ht (by simp [hcloses]) h.2

/-- Inside of brackets all tokens are what they were. -/
theorem steps_inside : Steps (fun n => Joined r (n + 1)) t := by
  intro n hcloses x y h
  have hlevel : t.level (n + 1) = t.level n + 1 := by
    unfold Terminal.level
    split
    · rfl
    · split
      · next hclosing =>
        have hpos := hcloses hclosing
        omega
      · rfl
  have hstep := h.step hbreak ht (fun _ => Nat.succ_pos n) h.ne_nil
  rwa [hlevel] at hstep

theorem steps_joined (hnext : skipLayout r = [] ∨ isLead (skipLayout r) = true)
    (hleads : t.leads = false) : Steps (Joined r) t := by
  intro n hcloses x y h
  by_cases hne : x = []
  · -- neither the end nor what is behind it has such a token
    subst hne
    obtain rfl := h.eq_of_nil
    have hnone : t.measure (skipLayout r) = none := by
      rcases hnext with hnil | hlead
      · rw [hnil, Terminal.measure_nil ht]
      · exact measure_of_isLead ht hleads hlead
    rw [Terminal.measure_nil ht, hnone]
    exact ⟨rfl, nofun⟩
  · exact h.step hbreak ht hcloses hne

end Tokens

end ThriftSchema
