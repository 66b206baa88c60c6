import ThriftSchema.Proofs.Reader.First

set_option autoImplicit false

/-! # Readers and the text behind

A reader looks further than it takes: at what follows a word, and for parts that may be missing.
Still it takes the same when the text behind is cut off, as long as nothing is cut in two that
belongs together. `Confined R p Q` says so in the manner of a triple that is read from the back:
where `p` has taken something and `Q` holds of what it left in front of the cut, it takes the
same from the text in front of the cut alone, and `R` held there.

* `Ahead`: a property of the text in front of a cut and the text behind it.
* `Confined`: the triples, with one rule for each way of putting readers together.
* `FailsAlone`: failures that stay failures when the text behind is cut off.
-/

namespace ThriftSchema

variable {α β : Type}

/-- A property of the text in front of a cut and the text behind it. -/
abbrev Ahead := List Char → List Char → Prop

namespace Ahead

/-- Nothing is known. -/
def always : Ahead := fun _ _ => True

/-- The text in front of the cut starts with a character of the class. -/
def startsWith (C : Char → Bool) : Ahead := fun m _ => ¬NotAhead C m

end Ahead

/-- What the reader takes in front of a cut it takes from the text in front of it alone. -/
structure Confined (R : Ahead) (p : PartReader α) (Q : Ahead) : Prop where
  takes : ∀ {input rest : List Char} {a : α}, p input = .read a rest →
    ∃ taken, input = taken ++ rest
  alone : ∀ {x v r : List Char} {a : α}, Q v r → p (x ++ r) = .read a (v ++ r) → p x = .read a v
  opens : ∀ {x v r : List Char} {a : α}, Q v r → p (x ++ r) = .read a (v ++ r) → R x r

/-- A failure in front of a cut is one of the text in front of it alone. -/
def FailsAlone (p : PartReader α) (Q : Ahead) : Prop :=
  ∀ ⦃v r : List Char⦄, Q v r → p (v ++ r) = .failed → p v = .failed

theorem NotAhead.of_append {C : Char → Bool} {v r : List Char} (h : NotAhead C (v ++ r)) :
    NotAhead C v := by
  cases v with
  | nil => exact notAhead_nil _
  | cons c v => exact notAhead_cons.2 (notAhead_cons.1 h)

namespace FailsAlone

variable {p : PartReader α} {Q S : Ahead} {C : Char → Bool}

theorem mono (h : FailsAlone p Q) (hQ : ∀ {v r}, S v r → Q v r) : FailsAlone p S :=
  fun _ _ hS => h (hQ hS)

theorem of_startsIn (h : StartsIn p C) (hQ : ∀ {v r}, Q v r → NotAhead C v) : FailsAlone p Q :=
  fun _ _ hv _ => h (hQ hv)

end FailsAlone

namespace Confined

variable {p q : PartReader α} {f : α → PartReader β} {R S Q E : Ahead} {C : Char → Bool}

theorem mono {R' Q' : Ahead} (h : Confined R p Q) (hR : ∀ {m r}, R m r → R' m r)
    (hQ : ∀ {m r}, Q' m r → Q m r) : Confined R' p Q' where
  takes := h.takes
  alone hv := h.alone (hQ hv)
  opens hv hread := hR (h.opens (hQ hv) hread)

/-- A text that is left behind what is left again. -/
theorem exists_middle {x y v r taken more : List Char} (htaken : x ++ r = taken ++ y)
    (hmore : y = more ++ (v ++ r)) : ∃ m, y = m ++ r ∧ x = taken ++ m := by
  refine ⟨more ++ v, by rw [hmore, List.append_assoc], ?_⟩
  rw [hmore, ← List.append_assoc, ← List.append_assoc] at htaken
  simpa using List.append_cancel_right htaken

/-! ## Putting readers together -/

theorem pure (a : α) : Confined Q (Pure.pure a) Q := by
  have hsame : ∀ {x v r : List Char} {b : α},
      (Pure.pure a : PartReader α) (x ++ r) = .read b (v ++ r) → b = a ∧ x = v := by
    intro x v r b h
    simpa [eq_comm] using h
  refine ⟨fun {input rest b} h => ?_, fun {x v r b} _ h => ?_, fun {x v r b} hv h => ?_⟩
  · obtain ⟨-, rfl⟩ : a = b ∧ input = rest := by simpa using h
    exact ⟨[], rfl⟩
  · obtain ⟨rfl, rfl⟩ := hsame h
    rfl
  · obtain ⟨-, rfl⟩ := hsame h
    exact hv

/-- A reader that never reads. -/
theorem of_ne_read (h : ∀ input a rest, p input ≠ .read a rest) : Confined R p Q where
  takes hread := absurd hread (h _ _ _)
  alone _ hread := absurd hread (h _ _ _)
  opens _ hread := absurd hread (h _ _ _)

theorem fail : Confined R (Reader.fail : PartReader α) Q :=
  of_ne_read fun _ _ _ h => by cases h

theorem stop (why : Stop BuildError) : Confined R (Reader.stop why : PartReader α) Q :=
  of_ne_read fun _ _ _ h => by cases h

theorem bind (hp : Confined R p S) (hf : ∀ a, Confined S (f a) Q) :
    Confined R (p >>= f) Q := by
  have hboth : ∀ {x v r : List Char} {b : β}, Q v r → (p >>= f) (x ++ r) = .read b (v ++ r) →
      (p >>= f) x = .read b v ∧ R x r := by
    intro x v r b hv h
    obtain ⟨a, y, hfirst, hsecond⟩ := Reader.bind_eq_read.1 h
    obtain ⟨taken, htaken⟩ := hp.takes hfirst
    obtain ⟨more, hmore⟩ := (hf a).takes hsecond
    -- the cut lies in what the first reader leaves, since it lies behind both
    obtain ⟨m, rfl, -⟩ := exists_middle htaken hmore
    have hm := (hf a).opens hv hsecond
    refine ⟨?_, hp.opens hm hfirst⟩
    rw [Reader.bind_of_read (hp.alone hm hfirst), (hf a).alone hv hsecond]
  refine ⟨fun h => ?_, fun hv h => (hboth hv h).1, fun hv h => (hboth hv h).2⟩
  obtain ⟨a, y, hfirst, hsecond⟩ := Reader.bind_eq_read.1 h
  obtain ⟨taken, rfl⟩ := hp.takes hfirst
  obtain ⟨more, rfl⟩ := (hf a).takes hsecond
  exact ⟨taken ++ more, (List.append_assoc ..).symm⟩

theorem map (h : Confined R p Q) (g : α → β) : Confined R (p >>= fun a => Pure.pure (g a)) Q :=
  h.bind fun _ => pure _

theorem orElse (hp : Confined R p Q) (hq : Confined S q Q) (hSR : ∀ {m r}, S m r → R m r)
    (hfail : FailsAlone p S) : Confined R (p <|> q) Q := by
  refine ⟨fun h => ?_, fun hv h => ?_, fun hv h => ?_⟩
  · rcases Reader.orElse_eq_read.1 h with h | ⟨-, h⟩
    · exact hp.takes h
    · exact hq.takes h
  · rcases Reader.orElse_eq_read.1 h with h | ⟨hfailed, h⟩
    · exact Reader.orElse_of_read (hp.alone hv h)
    · rw [Reader.orElse_of_failed (hfail (hq.opens hv h) hfailed), hq.alone hv h]
  · rcases Reader.orElse_eq_read.1 h with h | ⟨-, h⟩
    · exact hp.opens hv h
    · exact hSR (hq.opens hv h)

theorem orElse_fail (hp : Confined R p Q) : Confined R (p <|> Reader.fail) Q := by
  refine ⟨fun h => ?_, fun hv h => ?_, fun hv h => ?_⟩
  · rcases Reader.orElse_eq_read.1 h with h | ⟨-, h⟩
    · exact hp.takes h
    · cases h
  · rcases Reader.orElse_eq_read.1 h with h | ⟨-, h⟩
    · exact Reader.orElse_of_read (hp.alone hv h)
    · cases h
  · rcases Reader.orElse_eq_read.1 h with h | ⟨-, h⟩
    · exact hp.opens hv h
    · cases h

theorem optional (hp : Confined R p Q) (hQR : ∀ {m r}, Q m r → R m r) (hfail : FailsAlone p Q) :
    Confined R (Reader.optional p) Q := by
  refine ⟨fun h => ?_, fun {x v r o} hv h => ?_, fun {x v r o} hv h => ?_⟩
  · rcases Reader.optional_eq_read.1 h with ⟨a, -, h⟩ | ⟨-, -, rfl⟩
    · exact hp.takes h
    · exact ⟨[], rfl⟩
  · rcases Reader.optional_eq_read.1 h with ⟨a, rfl, hread⟩ | ⟨rfl, hfailed, h⟩
    · exact Reader.optional_of_read (hp.alone hv hread)
    · obtain rfl := List.append_cancel_right h
      exact Reader.optional_of_failed (hfail hv hfailed)
  · rcases Reader.optional_eq_read.1 h with ⟨a, -, hread⟩ | ⟨-, -, h⟩
    · exact hp.opens hv hread
    · obtain rfl := List.append_cancel_right h
      exact hQR hv

/-- What has been taken by the rounds of a repetition is part of the text. -/
theorem takes_manyWithin (hp : Confined R p Q) {bound input rest : List Char} {as : List α}
    (h : Reader.manyWithin p bound input = .read as rest) : ∃ taken, input = taken ++ rest := by
  induction bound generalizing input as with
  | nil => cases h
  | cons c bound ih =>
      rcases Reader.manyWithin_eq_read.1 h with
        ⟨-, -, rfl⟩ | ⟨a, middle, hread, ⟨-, -, rfl⟩ | ⟨-, bs, hmore, -⟩⟩
      · exact ⟨[], rfl⟩
      · exact hp.takes hread
      · obtain ⟨taken, rfl⟩ := hp.takes hread
        obtain ⟨more, rfl⟩ := ih hmore
        exact ⟨taken ++ more, (List.append_assoc ..).symm⟩

/-- The rounds of a repetition in front of a cut; two bounds play the same part if there is
enough of both. -/
theorem alone_manyWithin (hp : Confined R p Q) (hRQ : ∀ {m r}, R m r → Q m r)
    (hEQ : ∀ {m r}, E m r → Q m r) (hend : FailsAlone p E) {v r : List Char} (hv : E v r)
    (bound bound' x : List Char) (as : List α) (hbound : x.length < bound'.length)
    (h : Reader.manyWithin p bound (x ++ r) = .read as (v ++ r)) :
    Reader.manyWithin p bound' x = .read as v ∧ (R x r ∨ E x r) := by
  induction bound generalizing bound' x as with
  | nil => cases h
  | cons c bound ih =>
      obtain ⟨c', bound', rfl⟩ := List.exists_cons_of_length_pos (Nat.zero_lt_of_lt hbound)
      rw [List.length_cons] at hbound
      rcases Reader.manyWithin_eq_read.1 h with
        ⟨hfailed, rfl, hsame⟩ | ⟨a, y, hread, ⟨hstall, rfl, rfl⟩ | ⟨hmoves, bs, hmore, rfl⟩⟩
      -- no round, one that stalls, or one that moves on and leaves less text than rounds
      · obtain rfl := List.append_cancel_right hsame
        exact ⟨Reader.manyWithin_eq_read.2 (.inl ⟨hend hv hfailed, rfl, rfl⟩), .inr hv⟩
      · have hstall : v.length = x.length := by simpa using hstall
        exact ⟨Reader.manyWithin_eq_read.2
          (.inr ⟨a, v, hp.alone (hEQ hv) hread, .inl ⟨hstall, rfl, rfl⟩⟩),
          .inl (hp.opens (hEQ hv) hread)⟩
      · obtain ⟨taken, htaken⟩ := hp.takes hread
        obtain ⟨more, hsplit⟩ := hp.takes_manyWithin hmore
        obtain ⟨m, rfl, rfl⟩ := exists_middle htaken hsplit
        simp only [List.length_append] at hmoves hbound
        obtain ⟨hrest, hm⟩ := ih bound' m bs (by omega) hmore
        have hQ : Q m r := hm.elim hRQ hEQ
        refine ⟨Reader.manyWithin_eq_read.2 (.inr ⟨a, m, hp.alone hQ hread, .inr ⟨?_, bs, hrest,
          rfl⟩⟩), .inl (hp.opens hQ hread)⟩
        rw [List.length_append]
        omega

/-- Items up to where there is none. -/
theorem many (hp : Confined R p Q) (hRQ : ∀ {m r}, R m r → Q m r)
    (hEQ : ∀ {m r}, E m r → Q m r) (hend : FailsAlone p E) :
    Confined (fun m r => R m r ∨ E m r) (Reader.many p) E where
  takes := hp.takes_manyWithin
  alone {x _ _ as} hv h :=
    (hp.alone_manyWithin hRQ hEQ hend hv _ (' ' :: ' ' :: x) x as
      (by simp only [List.length_cons]; omega) h).1
  opens {x _ _ as} hv h :=
    (hp.alone_manyWithin hRQ hEQ hend hv _ (' ' :: ' ' :: x) x as
      (by simp only [List.length_cons]; omega) h).2

/-- What a reader starts with is in front of the cut. -/
theorem startsWith (hp : Confined R p Q) (hstart : StartsIn p C) :
    Confined (Ahead.startsWith C) p Q where
  takes := hp.takes
  alone := hp.alone
  opens hv h := by
    intro hx
    have halone := hp.alone hv h
    rw [hstart hx] at halone
    cases halone

end Confined

end ThriftSchema
