import ThriftSchema.Proofs.Canonical.Text
import ThriftSchema.Proofs.Reader.First

set_option autoImplicit false

/-! # Reading tokens that stand apart

Between the tokens of a canonical text stands one space, so that no token runs on into the next.
A reader that starts at a token therefore leaves the text at a later token, and what it does can
be told from the tokens alone.

* `ahead`: the text of tokens, as a reader sees it.
* `Reads`, `Fails`: what a reader does where tokens are ahead.
-/

namespace ThriftSchema.Canonical

open Reader (skipLayout)

variable {α β : Type}

/-! ## Texts of tokens -/

/-- The token starts with a character of the class. -/
abbrev Begins (C : Char → Bool) (token : String) : Prop := token.toList.head?.any C = true

/-- The token starts with a character that is not layout. -/
abbrev Visible (token : String) : Prop := Begins (fun c => !Pattern.isLayout c) token

/-- The text behind a token: the other tokens, each with a space in front of it. -/
def behind (tokens : List String) : List Char :=
  tokens.flatMap fun token => ' ' :: token.toList

/-- The text of tokens without layout at its front. -/
def ahead (tokens : List String) : List Char := skipLayout (behind tokens)

theorem skipLayout_behind (tokens : List String) : skipLayout (behind tokens) = ahead tokens := rfl

theorem exists_cons_of_begins {C : Char → Bool} {token : String} (h : Begins C token) :
    ∃ c cs, token.toList = c :: cs ∧ C c = true := by
  cases htoken : token.toList with
  | nil => simp [Begins, htoken] at h
  | cons c cs => exact ⟨c, cs, rfl, by simpa [Begins, htoken] using h⟩

theorem Begins.mono {C D : Char → Bool} {token : String} (h : Begins C token)
    (hCD : ∀ c, C c = true → D c = true) : Begins D token := by
  obtain ⟨c, cs, htoken, hc⟩ := exists_cons_of_begins h
  simpa [Begins, htoken] using hCD c hc

theorem ahead_cons {token : String} (h : Visible token) (tokens : List String) :
    ahead (token :: tokens) = token.toList ++ behind tokens := by
  obtain ⟨c, cs, htoken, hc⟩ := exists_cons_of_begins h
  have hc : Pattern.isLayout c = false := by simpa using hc
  rw [ahead, behind, List.flatMap_cons, htoken, skipLayout]
  simp only [List.cons_append, List.dropWhile_cons, hc]
  rfl

/-- Behind a token is nothing or a space. -/
theorem notAhead_behind {C : Char → Bool} (h : C ' ' = false) (tokens : List String) :
    NotAhead C (behind tokens) := by
  cases tokens with
  | nil => exact notAhead_nil _
  | cons token tokens => exact notAhead_cons.2 h

theorem notAhead_ahead {C D : Char → Bool} {token : String} (h : Begins D token)
    (hvisible : Visible token) (hCD : ∀ c, D c = true → C c = false) (tokens : List String) :
    NotAhead C (ahead (token :: tokens)) := by
  obtain ⟨c, cs, htoken, hc⟩ := exists_cons_of_begins h
  rw [ahead_cons hvisible, htoken, List.cons_append]
  exact notAhead_cons.2 (hCD c hc)

/-- The text of tokens without the space in front of the first one. -/
theorem toList_intercalate_eq_ahead {tokens : List String}
    (h : ∀ token ∈ tokens, Visible token) : (" ".intercalate tokens).toList = ahead tokens := by
  have hbehind : ∀ (first : String) (tokens : List String),
      (" ".intercalate (first :: tokens)).toList = first.toList ++ behind tokens := by
    intro first tokens
    induction tokens generalizing first with
    | nil => simp [behind]
    | cons next tokens ih =>
        rw [String.intercalate_cons_cons, String.toList_append, String.toList_append, ih]
        simp [behind]
  cases tokens with
  | nil => rfl
  | cons first tokens => rw [hbehind, ahead_cons (h first (List.mem_cons_self ..))]

theorem length_skipLayout_le (cs : List Char) : (skipLayout cs).length ≤ cs.length :=
  (List.dropWhile_sublist _).length_le

/-- More tokens make a longer text. -/
theorem length_ahead_append_le (before tokens : List String) :
    (ahead tokens).length ≤ (ahead (before ++ tokens)).length := by
  have hdrop : ∀ front back : List Char,
      (skipLayout back).length ≤ (skipLayout (front ++ back)).length := by
    intro front back
    induction front with
    | nil => exact Nat.le_refl _
    | cons c front ih =>
        have hcons : skipLayout (c :: (front ++ back))
            = if Pattern.isLayout c then skipLayout (front ++ back) else c :: (front ++ back) :=
          List.dropWhile_cons
        rw [List.cons_append, hcons]
        split
        · exact ih
        · have := length_skipLayout_le back
          simp only [List.length_cons, List.length_append]
          omega
  have happend : behind (before ++ tokens) = behind before ++ behind tokens :=
    List.flatMap_append
  rw [ahead, ahead, happend]
  exact hdrop _ _

theorem length_ahead_lt {token : String} (h : Visible token) (before tokens : List String) :
    (ahead tokens).length < (ahead (token :: (before ++ tokens))).length := by
  obtain ⟨c, cs, htoken, -⟩ := exists_cons_of_begins h
  have hmore := length_ahead_append_le before tokens
  have hskip := length_skipLayout_le (behind (before ++ tokens))
  rw [skipLayout_behind] at hskip
  rw [ahead_cons h, htoken, List.length_append, List.length_cons]
  omega

/-! ## What readers do at tokens -/

/-- The reader takes a value at tokens and leaves other tokens. -/
def Reads (p : PartReader α) (tokens : List String) (a : α) (left : List String) : Prop :=
  p (ahead tokens) = .read a (ahead left)

/-- The reader fails at tokens. -/
def Fails (p : PartReader α) (tokens : List String) : Prop := p (ahead tokens) = .failed

variable {p q : PartReader α} {f : α → PartReader β} {a : α} {b : β}
  {tokens middle left : List String}

theorem Reads.bind (h : Reads p tokens a middle) (hf : Reads (f a) middle b left) :
    Reads (p >>= f) tokens b left := by
  rw [Reads, Reader.bind_of_read h]
  exact hf

theorem Reads.pure : Reads (pure a) tokens a tokens := rfl

theorem Reads.map {g : α → β} (h : Reads p tokens a left) :
    Reads (do return g (← p)) tokens (g a) left := h.bind .pure

theorem Reads.orElse (h : Reads p tokens a left) : Reads (p <|> q) tokens a left :=
  Reader.orElse_of_read h

theorem Reads.optional (h : Reads p tokens a left) :
    Reads (Reader.optional p) tokens (some a) left := Reader.optional_of_read h

theorem Fails.bind (h : Fails p tokens) : Fails (p >>= f) tokens := Reader.bind_of_failed h

theorem Fails.bind_of_reads (h : Reads p tokens a middle) (hf : Fails (f a) middle) :
    Fails (p >>= f) tokens := by
  rw [Fails, Reader.bind_of_read h]
  exact hf

theorem Reads.orElse_of_fails (h : Fails p tokens) (hq : Reads q tokens a left) :
    Reads (p <|> q) tokens a left := by
  rw [Reads, Reader.orElse_of_failed h]
  exact hq

theorem Fails.orElse (h : Fails p tokens) (hq : Fails q tokens) : Fails (p <|> q) tokens := by
  rw [Fails, Reader.orElse_of_failed h]
  exact hq

theorem Fails.optional (h : Fails p tokens) :
    Reads (Reader.optional p) tokens none tokens := Reader.optional_of_failed h

/-- A reader fails at a token that it cannot start with. -/
theorem Fails.of_begins {C D : Char → Bool} {token : String} (h : StartsIn p C)
    (hbegins : Begins D token) (hvisible : Visible token)
    (hCD : ∀ c, D c = true → C c = false) : Fails p (token :: tokens) :=
  h (notAhead_ahead hbegins hvisible hCD tokens)

/-- A reader fails at a given token that it cannot start with. -/
theorem Fails.of_not {C : Char → Bool} {token : String} (h : StartsIn p C)
    (hC : Begins (fun c => !C c) token) (hvisible : Visible token) :
    Fails p (token :: tokens) :=
  Fails.of_begins h hC hvisible (by simp)

/-- Items that are read one after the other are read as a list, up to where there is no item. -/
theorem Reads.many {print : α → List String} {items : List α}
    (hitem : ∀ a ∈ items, ∃ token others, print a = token :: others ∧ Visible token ∧
      ∀ left, Reads p (print a ++ left) a left)
    (hend : Fails p left) : Reads (Reader.many p) (items.flatMap print ++ left) items left := by
  have hwithin : ∀ bound : List Char, (ahead (items.flatMap print ++ left)).length < bound.length →
      Reader.manyWithin p bound (ahead (items.flatMap print ++ left))
        = .read items (ahead left) := by
    -- every item leaves less text, so that the bound lasts as long as the items do
    induction items with
    | nil =>
        intro bound hbound
        cases bound with
        | nil => simp at hbound
        | cons c bound =>
            rw [List.flatMap_nil, List.nil_append, Reader.manyWithin, hend]
            rfl
    | cons a items ih =>
        intro bound hbound
        obtain ⟨token, others, hprint, hvisible, hread⟩ := hitem a (List.mem_cons_self ..)
        cases bound with
        | nil => simp at hbound
        | cons c bound =>
            have hlt := length_ahead_lt hvisible others (items.flatMap print ++ left)
            have hread := hread (items.flatMap print ++ left)
            rw [List.flatMap_cons, List.append_assoc] at hbound ⊢
            rw [Reads, hprint, List.cons_append] at hread
            rw [hprint, List.cons_append] at hbound ⊢
            rw [Reader.manyWithin, hread]
            simp only [Attempt.andThen]
            rw [if_neg (Nat.ne_of_lt hlt),
              ih (fun x hx => hitem x (List.mem_cons_of_mem _ hx)) bound
                (by rw [List.length_cons] at hbound; omega)]
            rfl
  refine hwithin _ ?_
  simp only [List.length_cons]
  omega

end ThriftSchema.Canonical
