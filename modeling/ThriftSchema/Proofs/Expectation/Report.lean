import ThriftSchema.Proofs.Expectation.Matcher

set_option autoImplicit false

/-! # What is reported

A state keeps the place of the furthest failure and the labels that were missed there. So what is
reported of a walk are the notes that were made furthest.

* `mem_sortLabels`: the labels of a rejection are those of the state.
* `Reports`: what a state says of the failures that were noted.
-/

namespace ThriftSchema

/-! ## Sorted labels -/

theorem mem_insertLabel {label other : String} {labels : List String} :
    other ∈ insertLabel label labels ↔ other = label ∨ other ∈ labels := by
  induction labels with
  | nil => simp [insertLabel]
  | cons head rest ih =>
      rw [insertLabel]
      split
      · exact List.mem_cons
      · split
        · next heq => simp [heq]
        · rw [List.mem_cons, ih, List.mem_cons]
          exact or_left_comm

theorem mem_sortLabels {label : String} {labels : List String} :
    label ∈ sortLabels labels ↔ label ∈ labels := by
  induction labels with
  | nil => rfl
  | cons head rest ih =>
      show label ∈ insertLabel head (sortLabels rest) ↔ _
      rw [mem_insertLabel, ih, List.mem_cons]

/-! ## Furthest failures -/

/-- A state reports which failures were noted: how far the furthest one is, and what was missed
there. -/
structure Reports (s : State Entry) (noted : String → Nat → Prop) : Prop where
  loud : s.quiet = 0
  le : ∀ {label pos}, noted label pos → pos ≤ s.furthest
  mem : ∀ {label}, label ∈ s.expected ↔ noted label s.furthest
  attained : 0 < s.furthest → ∃ label, noted label s.furthest

namespace Reports

variable {s : State Entry} {noted : String → Nat → Prop}

theorem initial (text : List Char) : Reports (State.initial text) fun _ _ => False where
  loud := rfl
  le h := h.elim
  mem := by simp [State.initial]
  attained h := absurd h (Nat.lt_irrefl 0)

/-- What is reported is not empty if a failure was noted. -/
theorem ne_nil (h : Reports s noted) {label : String} {pos : Nat} (hnoted : noted label pos) :
    s.expected ≠ [] := by
  obtain ⟨furthest, hfurthest⟩ : ∃ label, noted label s.furthest := by
    rcases Nat.eq_zero_or_pos s.furthest with hzero | hpos
    · -- all failures are at the start
      have hle := h.le hnoted
      obtain rfl : pos = s.furthest := by omega
      exact ⟨label, hnoted⟩
    · exact h.attained hpos
  exact List.ne_nil_of_mem (h.mem.2 hfurthest)

theorem failAt (h : Reports s noted) (label : String) (pos : Nat) :
    Reports (s.failAt label pos) fun other place =>
      noted other place ∨ other = label ∧ place = pos := by
  have hloud : ¬ s.quiet ≠ 0 := fun hne => hne h.loud
  rw [State.failAt, if_neg hloud]
  by_cases hfurther : s.furthest < pos
  · rw [if_pos hfurther]
    refine ⟨h.loud, fun {other place} hnoted => ?_, fun {other} => ?_, fun _ => ?_⟩
    · rcases hnoted with hnoted | ⟨-, rfl⟩
      · exact Nat.le_trans (h.le hnoted) (Nat.le_of_lt hfurther)
      · exact Nat.le_refl _
    · -- what was noted before was noted nearer
      show other ∈ [label] ↔ noted other pos ∨ other = label ∧ pos = pos
      have hnearer : ¬ noted other pos := fun hnoted =>
        absurd (h.le hnoted) (Nat.not_le_of_lt hfurther)
      simp [hnearer]
    · exact ⟨label, .inr ⟨rfl, rfl⟩⟩
  · rw [if_neg hfurther]
    by_cases hsame : pos = s.furthest
    · rw [if_pos hsame]
      refine ⟨h.loud, fun {other place} hnoted => ?_, fun {other} => ?_, fun _ => ?_⟩
      · rcases hnoted with hnoted | ⟨-, rfl⟩
        · exact h.le hnoted
        · exact Nat.le_of_eq hsame
      · show other ∈ s.expected.insert label ↔ noted other s.furthest ∨
          other = label ∧ s.furthest = pos
        rw [List.mem_insert_iff, h.mem, hsame, or_comm]
        simp
      · exact ⟨label, .inr ⟨rfl, hsame.symm⟩⟩
    · rw [if_neg hsame]
      refine ⟨h.loud, fun {other place} hnoted => ?_, fun {other} => ?_, fun hpos => ?_⟩
      · rcases hnoted with hnoted | ⟨-, rfl⟩
        · exact h.le hnoted
        · exact Nat.le_of_not_lt hfurther
      · rw [h.mem]
        simp [Ne.symm hsame]
      · obtain ⟨other, hnoted⟩ := h.attained hpos
        exact ⟨other, .inl hnoted⟩

theorem noting (h : Reports s noted) (total : Nat) (notes : List Note) :
    Reports (s.noting total notes) fun label pos => noted label pos ∨
      ∃ note ∈ notes, label = note.terminal.label ∧ pos = total - note.ahead := by
  rw [State.noting]
  induction notes generalizing s noted with
  | nil => simpa using h
  | cons note notes ih =>
      have hmore := ih (h.failAt note.terminal.label (total - note.ahead))
      simpa only [List.foldl_cons, List.mem_cons, exists_eq_or_imp, or_assoc] using hmore

end Reports

end ThriftSchema
