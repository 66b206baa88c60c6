import ThriftSchema.Proofs.Text.Lexeme
import ThriftSchema.Text.Blank

set_option autoImplicit false

/-! # Trimming

Characters that show are not blank, so a text made of them is what is left of it when the layout
behind it is trimmed off.

* `IsGraphic`: the characters of ASCII that show.
* `trimBlanks_append`: trimming layout off a text that has no blanks at its ends.
-/

namespace ThriftSchema.Text

/-! ## Blanks -/

theorem isBlank_of_isLayout {c : Char} (h : Pattern.isLayout c = true) : isBlank c = true := by
  simp only [Pattern.isLayout, Bool.or_eq_true, beq_iff_eq] at h
  rcases h with (((rfl | rfl) | rfl) | rfl) | rfl <;> decide

/-- The characters of ASCII that show. -/
def IsGraphic (c : Char) : Prop := 33 ≤ c.toNat ∧ c.toNat < 127

instance (c : Char) : Decidable (IsGraphic c) :=
  inferInstanceAs (Decidable (33 ≤ c.toNat ∧ c.toNat < 127))

theorem IsGraphic.not_isBlank {c : Char} (h : IsGraphic c) : isBlank c = false := by
  obtain ⟨hlow, hhigh⟩ := h
  simp only [isBlank, Bool.or_eq_false_iff, Bool.and_eq_false_iff, decide_eq_false_iff_not,
    beq_eq_false_iff_ne]
  omega

/-! ## Trimming -/

/-- Blanks behind a text without blanks at its ends are trimmed off. -/
theorem trimBlanks_append {cs blanks : List Char} (hfirst : NotAhead isBlank cs)
    (hlast : NotAhead isBlank cs.reverse) (hblanks : ∀ c ∈ blanks, Pattern.isLayout c = true) :
    trimBlanks (cs ++ blanks) = cs := by
  have hall : ∀ c ∈ blanks, isBlank c = true := fun c hc => isBlank_of_isLayout (hblanks c hc)
  cases cs with
  | nil =>
      have hdrop := dropWhile_append_of_notAhead hall (notAhead_nil isBlank)
      rw [List.append_nil] at hdrop
      rw [trimBlanks, List.nil_append, hdrop]
      rfl
  | cons c cs =>
      have hc : isBlank c = false := notAhead_cons.1 hfirst
      have hreverse : ∀ c ∈ blanks.reverse, isBlank c = true := by
        intro c hc
        exact hall c (List.mem_reverse.1 hc)
      rw [trimBlanks, List.cons_append, List.dropWhile_cons_of_neg (by simp [hc]),
        dropBlanksRight, ← List.cons_append, List.reverse_append,
        dropWhile_append_of_notAhead hreverse hlast, List.reverse_reverse]

theorem trimBlanks_of_graphic {cs blanks : List Char} (h : ∀ c ∈ cs, IsGraphic c)
    (hblanks : ∀ c ∈ blanks, Pattern.isLayout c = true) : trimBlanks (cs ++ blanks) = cs := by
  have hahead : ∀ {ds : List Char}, (∀ c ∈ ds, c ∈ cs) → NotAhead isBlank ds := by
    intro ds hds c hc
    exact (h c (hds c (List.mem_of_mem_head? hc))).not_isBlank
  exact trimBlanks_append (hahead fun _ hc => hc) (hahead fun _ hc => List.mem_reverse.1 hc)
    hblanks

end ThriftSchema.Text
