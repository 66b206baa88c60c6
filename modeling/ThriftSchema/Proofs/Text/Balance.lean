import ThriftSchema.Proofs.Text.Nesting

set_option autoImplicit false

/-! # What is open

Along a text quotes and brackets open and close. Where no bracket closes that is not open, and all
quotes are closed, the number of the open brackets behind the text is told by the number in front
of it.

* `Climbs`: how many brackets are open in front of a text and behind it.
* `Climbs.append`, `Climbs.of_append`: one text behind another.
* `Climbs.nesting_add_le`: how deep the text nests, at least.
-/

namespace ThriftSchema

/-- One character on: the quote that is open, if one is, and the number of brackets that are. -/
def openStep : Option Char × Nat → Char → Option (Option Char × Nat)
  | (some quote, n), c => some (if c = quote then none else some quote, n)
  | (none, n), c =>
    if c ∈ quotes then some (some c, n)
    else if c ∈ openings then some (none, n + 1)
    else if c ∈ closings then if n = 0 then none else some (none, n - 1)
    else some (none, n)

/-- With `n` brackets open in front of the text there are `m` behind it; on the way no bracket
closes where none is open, and every quote is closed. -/
def Climbs (n : Nat) (cs : List Char) (m : Nat) : Prop :=
  cs.foldlM openStep (none, n) = some (none, m)

namespace Climbs

variable {n m k : Nat} {cs ds : List Char} {c : Char}

theorem nil_iff : Climbs n [] m ↔ n = m := by simp [Climbs]

theorem append (h : Climbs n cs m) (h' : Climbs m ds k) : Climbs n (cs ++ ds) k := by
  rw [Climbs, List.foldlM_append, h]
  exact h'

theorem of_append (h : Climbs n cs m) (h' : Climbs n (cs ++ ds) k) : Climbs m ds k := by
  rw [Climbs, List.foldlM_append, h] at h'
  exact h'

theorem openStep_add {quote next : Option Char} {j : Nat}
    (h : openStep (quote, n) c = some (next, j)) (k : Nat) :
    openStep (quote, n + k) c = some (next, j + k) := by
  cases quote with
  | some quote =>
      obtain ⟨rfl, rfl⟩ := Prod.mk.inj (Option.some.inj h)
      rfl
  | none => grind [openStep]

theorem foldlM_openStep_add {quote next : Option Char}
    (h : cs.foldlM openStep (quote, n) = some (next, m)) (k : Nat) :
    cs.foldlM openStep (quote, n + k) = some (next, m + k) := by
  induction cs generalizing quote n with
  | nil =>
      obtain ⟨rfl, rfl⟩ := Prod.mk.inj (Option.some.inj h)
      rfl
  | cons c cs ih =>
      rw [List.foldlM_cons] at h ⊢
      obtain ⟨⟨middle, j⟩, hstep, hmore⟩ := Option.bind_eq_some_iff.1 h
      rw [openStep_add hstep]
      exact ih hmore

/-- More brackets that are open in front of a text are open behind it too. -/
theorem shift (h : Climbs n cs m) (k : Nat) : Climbs (n + k) cs (m + k) :=
  foldlM_openStep_add h k

theorem unmarked (h : ∀ c ∈ cs, IsUnmarked c) : Climbs n cs n := by
  induction cs with
  | nil => exact nil_iff.2 rfl
  | cons c cs ih =>
      have hc := h c (List.mem_cons_self ..)
      simp only [IsUnmarked, List.mem_append, not_or] at hc
      rw [Climbs, List.foldlM_cons, openStep, if_neg hc.1.1, if_neg hc.1.2, if_neg hc.2]
      exact ih fun d hd => h d (List.mem_cons_of_mem _ hd)

theorem opening (h : c ∈ openings) : Climbs n [c] (n + 1) := by
  have hquote : ∀ c ∈ openings, c ∉ quotes := by decide
  rw [Climbs, List.foldlM_cons, openStep, if_neg (hquote c h), if_pos h]
  rfl

theorem closing (h : c ∈ closings) : Climbs (n + 1) [c] n := by
  have hother : ∀ c ∈ closings, c ∉ quotes ∧ c ∉ openings := by decide
  rw [Climbs, List.foldlM_cons, openStep, if_neg (hother c h).1, if_neg (hother c h).2, if_pos h,
    if_neg (Nat.succ_ne_zero n)]
  rfl

/-- Behind a quote nothing counts up to the next one. -/
theorem foldlM_content {quote : Char} (absent : quote ∉ cs) :
    cs.foldlM openStep (some quote, n) = some (some quote, n) := by
  induction cs with
  | nil => rfl
  | cons c cs ih =>
      simp only [List.mem_cons, not_or] at absent
      rw [List.foldlM_cons, openStep, if_neg (Ne.symm absent.1)]
      exact ih absent.2

theorem quoted {content : List Char} (h : IsQuoted cs content) : Climbs n cs n := by
  cases h with
  | @intro quote content hquote absent =>
      have hmem : quote ∈ quotes := by simpa [quotes, IsQuote] using hquote
      rw [Climbs, List.foldlM_cons, openStep, if_pos hmem]
      show (content ++ [quote]).foldlM openStep (some quote, n) = _
      rw [List.foldlM_append, foldlM_content absent]
      show [quote].foldlM openStep (some quote, n) = _
      rw [List.foldlM_cons, openStep, if_pos rfl]
      rfl

/-- A quote at the start is closed. -/
theorem mem_of_quote (quote : IsQuote c) (h : Climbs n (c :: cs) m) : c ∈ cs := by
  by_contra habsent
  have hmem : c ∈ quotes := by simpa [quotes, IsQuote] using quote
  rw [Climbs, List.foldlM_cons, openStep, if_pos hmem] at h
  have hopen : cs.foldlM openStep (some c, n) = some (none, m) := h
  rw [foldlM_content habsent] at hopen
  cases hopen

/-- What nests behind a text, together with what is open there, is no more than in front of it. -/
theorem nestingFrom_add_le {quote quote' : Option Char}
    (h : cs.foldlM openStep (quote, n) = some (quote', m)) (rest : List Char) :
    nestingFrom quote' rest + m ≤ nestingFrom quote (cs ++ rest) + n := by
  induction cs generalizing quote n with
  | nil =>
      obtain ⟨rfl, rfl⟩ := Prod.mk.inj (Option.some.inj h)
      exact Nat.le_refl _
  | cons c cs ih =>
      rw [List.foldlM_cons] at h
      obtain ⟨⟨next, k⟩, hstep, hmore⟩ := Option.bind_eq_some_iff.1 h
      have hrest := ih hmore
      rw [List.cons_append]
      cases quote with
      | some quote =>
          obtain ⟨rfl, rfl⟩ := Prod.mk.inj (Option.some.inj hstep)
          rwa [nestingFrom]
      | none =>
          rw [openStep] at hstep
          rw [nestingFrom]
          split_ifs at hstep ⊢ with hquote hopens hcloses hzero
          all_goals
            obtain ⟨rfl, rfl⟩ := Prod.mk.inj (Option.some.inj hstep)
            omega

theorem nesting_add_le (h : Climbs n cs m) (rest : List Char) :
    nesting rest + m ≤ nesting (cs ++ rest) + n := nestingFrom_add_le h rest

/-- Where no bracket opens, no more brackets get open. -/
theorem foldlM_le_of_notMem {quote next : Option Char} (hnone : ∀ c ∈ cs, c ∉ openings)
    (h : cs.foldlM openStep (quote, n) = some (next, m)) : m ≤ n := by
  induction cs generalizing quote n with
  | nil =>
      obtain ⟨rfl, rfl⟩ := Prod.mk.inj (Option.some.inj h)
      exact Nat.le_refl _
  | cons c cs ih =>
      obtain ⟨hc, hmore⟩ := List.forall_mem_cons.1 hnone
      rw [List.foldlM_cons] at h
      obtain ⟨⟨middle, j⟩, hstep, hrest⟩ := Option.bind_eq_some_iff.1 h
      have hle : j ≤ n := by
        cases quote with
        | some quote =>
            obtain ⟨rfl, rfl⟩ := Prod.mk.inj (Option.some.inj hstep)
            exact Nat.le_refl _
        | none => grind [openStep]
      exact Nat.le_trans (ih hmore hrest) hle

/-- Where more brackets get open, one opens. -/
theorem exists_opening (h : Climbs n cs m) (hmore : n < m) : ∃ c ∈ cs, c ∈ openings := by
  by_contra hnone
  exact Nat.not_lt.2 (foldlM_le_of_notMem (fun c hc hopens => hnone ⟨c, hc, hopens⟩) h) hmore

end Climbs

end ThriftSchema
