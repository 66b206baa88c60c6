import ThriftSchema.Proofs.Layout.Cut
import ThriftSchema.Proofs.Layout.Scan
import ThriftSchema.Proofs.Reader.Lockstep

set_option autoImplicit false

/-! # Layout that is put into a text

A text and the same text with layout put in are read in lockstep, if the layout is put in beside a
blank or a mark and outside of strings: up to there they are the same, tokens in front of the place
end in front of it, and behind it, where layout is skipped, the texts are the same again.

* `Parted`: what is ahead in both texts.
* `steps_parted`: tokens are read off both.
* `document_insert`: and so are documents.
-/

namespace ThriftSchema

open Comment (Token)
open Pattern (isLayout)
open Reader (skipLayout)

/-! ## Quotes in front of a cut -/

/-- Every quote in front of the cut at which a token can begin is closed there, or nowhere. -/
def QuotesSettled (front rest : List Char) : Prop :=
  ∀ taken more, front = taken ++ more → Plain taken → QuoteSettled more rest

namespace QuotesSettled

variable {front rest : List Char}

theorem here (h : QuotesSettled front rest) : QuoteSettled front rest := h [] front rfl .nil

theorem of_append {taken : List Char} (h : QuotesSettled (taken ++ front) rest)
    (htaken : Plain taken) : QuotesSettled front rest := by
  rintro more others rfl hplain
  exact h (taken ++ more) others (List.append_assoc ..).symm (htaken.append hplain)

/-- At a place outside of strings quotes are settled. -/
theorem of_outsideStrings (h : OutsideStrings (front ++ rest) front.length) :
    QuotesSettled front rest := by
  rintro taken more rfl hplain mark others rfl hquote
  by_contra hcrosses
  obtain ⟨hothers, hrest⟩ : mark ∉ others ∧ mark ∈ rest := by
    simpa only [not_or, not_not] using hcrosses
  -- the string that begins with the quote goes on over the place
  obtain ⟨init, last, rfl, hinit⟩ := List.eq_append_cons_of_mem hrest
  have hcontent : mark ∉ others ++ init := by
    simp only [List.mem_append, not_or]
    exact ⟨hothers, hinit⟩
  obtain ⟨before, rfl, hscan⟩ : ∃ before, before.flatMap Token.chars = taken ∧
      Token.scan (taken ++ mark :: (others ++ init ++ mark :: last)) =
        before ++ Token.scan (mark :: (others ++ init ++ mark :: last)) :=
    scan_append_of_opener hplain (Plain.isOpener_of_isQuote hquote)
  rw [(Comment.NextToken.string hquote hcontent).scan_eq] at hscan
  have hplace := h before _ (Token.scan last) (by rw [← hscan]; simp) rfl
  simp only [List.length_append, List.length_cons, List.flatMap_append, List.flatMap_cons,
    List.flatMap_nil, List.append_nil, List.length_nil] at hplace
  omega

end QuotesSettled

theorem QuoteSettled.insert {front b w : List Char} (h : QuoteSettled front b)
    (hw : ∀ c ∈ w, isLayout c = true) : QuoteSettled front (w ++ b) := by
  intro mark more hfront hquote
  exact (h mark more hfront hquote).imp_right fun hnone =>
    Comment.not_mem_insert (a := []) hw hquote hnone

/-! ## Texts that part at a place -/

variable {w b : List Char}

/-- The texts ahead, with `w` put in in front of `b`: the same text, behind the place, or texts that
are the same up to the place. -/
inductive Parted (w b : List Char) : List Char → List Char → Prop
  | behind {cs : List Char} (h : cs.length ≤ b.length) : Parted w b cs cs
  | front {front : List Char} (hne : front ≠ []) (hapart : Apart front b)
      (hquotes : QuotesSettled front b) : Parted w b (front ++ b) (front ++ (w ++ b))

namespace Parted

/-- Layout is skipped, in front of the place or up to what is behind it. -/
theorem skip (hw : ∀ c ∈ w, isLayout c = true) {front : List Char} (hapart : Apart front b)
    (hquotes : QuotesSettled front b) :
    Parted w b (skipLayout (front ++ b)) (skipLayout (front ++ (w ++ b))) := by
  obtain ⟨blanks, hfront, hblanks⟩ := Reader.exists_layout front
  have hplain : Plain blanks := .of_forall fun c hc => not_isOpener_of_isLayout (hblanks c hc)
  rw [hfront] at hapart hquotes
  have happend : ∀ rest, skipLayout (front ++ rest) =
      if (skipLayout front).isEmpty then skipLayout rest else skipLayout front ++ rest :=
    fun _ => List.dropWhile_append
  rw [happend, happend]
  generalize skipLayout front = more at hapart hquotes ⊢
  cases more with
  | nil =>
      have hsame : skipLayout (w ++ b) = skipLayout b := List.dropWhile_append_of_pos hw
      show Parted w b (skipLayout b) (skipLayout (w ++ b))
      rw [hsame]
      exact .behind (List.dropWhile_suffix _).length_le
  | cons c more =>
      exact .front (List.cons_ne_nil c more) hapart.of_append (hquotes.of_append hplain)

theorem eq_nil_iff {x y : List Char} (h : Parted w b x y) : x = [] ↔ y = [] := by
  cases h with
  | behind => exact Iff.rfl
  | front hne => simp [hne]

/-- The second text is longer by the layout, in front of the place. -/
theorem length_eq {x y : List Char} (h : Parted w b x y) :
    y.length = if x.length ≤ b.length then x.length else x.length + w.length := by
  cases h with
  | behind h => rw [if_pos h]
  | @front front hne =>
      have hpos : 0 < front.length := List.length_pos_iff.2 hne
      simp only [List.length_append]
      rw [if_neg (by omega)]
      omega

end Parted

theorem steps_parted (hw : ∀ c ∈ w, isLayout c = true) {t : Terminal} (ht : t.fits = true) :
    Steps (fun _ => Parted w b) t := by
  intro n _ x y h
  cases h with
  | behind h =>
      refine ⟨rfl, fun count _ => ⟨rfl, .behind ?_⟩⟩
      exact Nat.le_trans ((List.dropWhile_suffix _).trans (List.drop_suffix _ _)).length_le h
  | @front front hne hapart hquotes =>
      have hother : Apart front (w ++ b) := by
        refine hapart.imp_right fun hhead c hc => ?_
        cases w with
        | nil => exact hhead c hc
        | cons d w =>
            obtain rfl : d = c := by simpa using hc
            exact isBreak_of_isLayout (hw d (List.mem_cons_self ..))
      have hsettled := hquotes.here
      have hsame := (Terminal.measure_apart hne hapart hsettled ht).trans
        (Terminal.measure_apart hne hother (hsettled.insert hw) ht).symm
      refine ⟨hsame, fun count hcount => ?_⟩
      obtain ⟨lexeme, more, rfl, rfl, hshape⟩ :=
        Terminal.exists_front hne hapart hsettled ht hcount
      simp only [List.append_assoc, List.take_left, List.drop_left]
      exact ⟨trivial, .skip hw hapart.of_append (hquotes.of_append hshape.plain)⟩

/-! ## Documents -/

/-- Documents are read in the same way if layout is put in outside of strings and beside layout. -/
theorem document_insert {a : List Char} (hw : ∀ c ∈ w, isLayout c = true) (hapart : Apart a b)
    (houtside : OutsideStrings (a ++ b) a.length) (options : BuildOptions) (depth : Nat) :
    Attempt.Alike (Parted w b) (skipLayout (a ++ b)) (skipLayout (a ++ (w ++ b)))
      (Reader.document options depth (a ++ b)) (Reader.document options depth (a ++ (w ++ b))) :=
  Alongside.document (R := fun _ => Parted w b) (fun _ ht _ => steps_parted hw ht)
    (fun _ ht _ => steps_parted hw ht) Parted.eq_nil_iff options depth
    (.skip hw hapart (.of_outsideStrings houtside))

end ThriftSchema
