import ThriftSchema.Text.Split

set_option autoImplicit false

/-! # Parts between marks

A text is its parts with marks between them, and there is always a first part. Two texts with a
mark between them have the parts of both.

* `splitChars_append_mark`: a cut at a mark.
* `exists_splitChars_append`: a run without marks stands at the head of the first part.
-/

namespace ThriftSchema.Text

theorem splitChars_ne_nil (mark : Char) (cs : List Char) : splitChars mark cs ≠ [] := by
  cases cs with
  | nil => exact List.cons_ne_nil _ _
  | cons c cs =>
      rw [splitChars]
      split
      · exact List.cons_ne_nil _ _
      · split <;> exact List.cons_ne_nil _ _

theorem splitChars_append_mark (mark : Char) (cs ds : List Char) :
    splitChars mark (cs ++ mark :: ds) = splitChars mark cs ++ splitChars mark ds := by
  induction cs with
  | nil => simp [splitChars]
  | cons c cs ih =>
      rw [List.cons_append, splitChars, splitChars, ih]
      split
      · rfl
      · cases hparts : splitChars mark cs with
        | nil => exact absurd hparts (splitChars_ne_nil mark cs)
        | cons part parts => rfl

theorem exists_splitChars_append {mark : Char} {run : List Char} (h : mark ∉ run)
    (cs : List Char) : ∃ part parts, splitChars mark (run ++ cs) = (run ++ part) :: parts := by
  induction run with
  | nil => exact ⟨_, _, (List.cons_head_tail (splitChars_ne_nil mark cs)).symm⟩
  | cons c run ih =>
      rw [List.mem_cons, not_or] at h
      obtain ⟨part, parts, hsplit⟩ := ih h.2
      rw [List.cons_append, splitChars, if_neg (Ne.symm h.1), hsplit]
      exact ⟨part, parts, rfl⟩

/-- The characters of the parts are those of the text. -/
theorem mem_of_mem_splitChars {mark c : Char} {cs part : List Char}
    (h : part ∈ splitChars mark cs) (hc : c ∈ part) : c ∈ cs := by
  induction cs generalizing part with
  | nil =>
      obtain rfl := List.mem_singleton.1 h
      cases hc
  | cons d cs ih =>
      rw [splitChars] at h
      split at h
      · rcases List.mem_cons.1 h with rfl | h
        · cases hc
        · exact List.mem_cons_of_mem _ (ih h hc)
      · cases hparts : splitChars mark cs with
        | nil => exact absurd hparts (splitChars_ne_nil mark cs)
        | cons first parts =>
            rw [hparts] at h ih
            rcases List.mem_cons.1 h with rfl | h
            · rcases List.mem_cons.1 hc with rfl | hc
              · exact List.mem_cons_self
              · exact List.mem_cons_of_mem _ (ih List.mem_cons_self hc)
            · exact List.mem_cons_of_mem _ (ih (List.mem_cons_of_mem _ h) hc)

/-- A text without marks is one part. -/
theorem splitChars_of_notMem {mark : Char} {cs : List Char} (h : mark ∉ cs) :
    splitChars mark cs = [cs] := by
  induction cs with
  | nil => rfl
  | cons c cs ih =>
      rw [List.mem_cons, not_or] at h
      rw [splitChars, if_neg (Ne.symm h.1), ih h.2]

end ThriftSchema.Text
