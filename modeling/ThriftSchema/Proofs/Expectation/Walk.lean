import ThriftSchema.Proofs.Expectation.Form

set_option autoImplicit false

/-! # Walks through a text

A walk is what a form does with a text: which part of it is left, or that the form fails, and on
the way which tokens were looked for in vain, and where.

* `Note`: a token that was not there.
* `Walks`: the walks of a form, with at most so many references open at once.
* `Walks.within`: a walk does not go back.
-/

namespace ThriftSchema

/-! ## Heads -/

/-- A token that was looked for in vain: the head it was looked for with, and how many characters
were ahead. -/
structure Note where
  terminal : Terminal
  head : Head
  ahead : Nat

/-- What a form did: the text that it left if it did not fail, and the notes it made. -/
abbrev Trial := Option (List Char) × List Note

namespace Head

/-- Looks for some tokens of a choice, one after the other. -/
def tryEach (head : Head) : List Terminal → List Char → Trial
  | [], _ => (none, [])
  | t :: ts, input =>
    match t.read input with
    | some rest => (some rest, [])
    | none =>
      let others := tryEach head ts input
      (others.1, ⟨t, head, input.length⟩ :: others.2)

/-- Looks for a head. -/
def attempt : Head → List Char → Trial
  | choice ts, input => tryEach (choice ts) ts input
  | pair first second, input =>
    match first.read input with
    | none => (none, [⟨first, pair first second, input.length⟩])
    | some middle =>
      match second.read middle with
      | none => (none, [⟨second, choice [second], middle.length⟩])
      | some rest => (some rest, [])

/-- A head is not there. -/
def Quits (head : Head) (input : List Char) : Prop := (head.attempt input).1 = none

end Head

/-! ## Forms -/

/-- The walks of a form on a text, with at most `depth` references open at once. -/
inductive Walks : Nat → Form → List Char → Option (List Char) → List Note → Prop
  | lead {depth : Nat} {head : Head} {input : List Char} {left : Option (List Char)}
      {notes : List Note} (h : head.attempt input = (left, notes)) :
      Walks depth (.lead head) input left notes
  | done {depth : Nat} {input : List Char} : Walks depth .done input (some input) []
  | seq {depth : Nat} {first rest : Form} {input middle : List Char}
      {left : Option (List Char)} {notes more : List Note}
      (hfirst : Walks depth first input (some middle) notes)
      (hrest : Walks depth rest middle left more) :
      Walks depth (.seq first rest) input left (notes ++ more)
  | seqFailed {depth : Nat} {first rest : Form} {input : List Char} {notes : List Note}
      (hfirst : Walks depth first input none notes) :
      Walks depth (.seq first rest) input none notes
  | never {depth : Nat} {input : List Char} : Walks depth .never input none []
  | alt {depth : Nat} {first rest : Form} {input last : List Char} {notes : List Note}
      (hfirst : Walks depth first input (some last) notes) :
      Walks depth (.alt first rest) input (some last) notes
  | altRest {depth : Nat} {first rest : Form} {input : List Char}
      {left : Option (List Char)} {notes more : List Note}
      (hfirst : Walks depth first input none notes) (hrest : Walks depth rest input left more) :
      Walks depth (.alt first rest) input left (notes ++ more)
  | starDone {depth : Nat} {body : Form} {input : List Char} {notes : List Note}
      (h : Walks depth body input none notes) :
      Walks depth (.star body) input (some input) notes
  | starNext {depth : Nat} {body : Form} {input middle last : List Char}
      {notes more : List Note} (h : Walks depth body input (some middle) notes)
      (hmoves : middle.length < input.length)
      (hnext : Walks depth (.star body) middle (some last) more) :
      Walks depth (.star body) input (some last) (notes ++ more)
  | opt {depth : Nat} {body : Form} {input last : List Char} {notes : List Note}
      (h : Walks depth body input (some last) notes) :
      Walks depth (.opt body) input (some last) notes
  | optAbsent {depth : Nat} {body : Form} {input : List Char} {notes : List Note}
      (h : Walks depth body input none notes) :
      Walks depth (.opt body) input (some input) notes
  | ref {depth : Nat} {name : String} {form : Form} {input : List Char}
      {left : Option (List Char)} {notes : List Note} (hfind : Form.named? name = some form)
      (h : Walks depth form input left notes) : Walks (depth + 1) (.ref name) input left notes

theorem Head.Quits.walks {head : Head} {input : List Char} (h : head.Quits input) (depth : Nat) :
    ∃ notes, Walks depth (.lead head) input none notes :=
  ⟨_, .lead (Prod.ext h rfl)⟩

/-! ## How far a walk goes -/

/-- No text in front of `input` is left, and no note is made there. -/
structure Within (input : List Char) (left : Option (List Char)) (notes : List Note) : Prop where
  left : ∀ rest, left = some rest → rest.length ≤ input.length
  notes : ∀ note ∈ notes, note.ahead ≤ input.length

namespace Within

variable {input middle : List Char} {left : Option (List Char)} {notes more : List Note}

theorem here (input : List Char) : Within input none [] where
  left _ h := absurd h (Option.some_ne_none _).symm
  notes _ h := absurd h List.not_mem_nil

theorem leaving (h : Within input left notes) {rest : List Char}
    (hrest : rest.length ≤ input.length) : Within input (some rest) notes where
  left last hlast := by
    cases hlast
    exact hrest
  notes := h.notes

theorem trans (h : Within input (some middle) notes) (hmore : Within middle left more) :
    Within input left (notes ++ more) where
  left rest hrest := Nat.le_trans (hmore.left rest hrest) (h.left middle rfl)
  notes := List.forall_mem_append.2 ⟨h.notes,
    fun note hnote => Nat.le_trans (hmore.notes note hnote) (h.left middle rfl)⟩

/-- Something else is tried on the same text. -/
theorem orElse (h : Within input none notes) (hmore : Within input left more) :
    Within input left (notes ++ more) := by
  have hstay : Within input (some input) notes := h.leaving (Nat.le_refl _)
  exact hstay.trans hmore

theorem single {note : Note} (h : note.ahead ≤ input.length) : Within input none [note] where
  left _ h := absurd h (Option.some_ne_none _).symm
  notes other hother := by
    rw [List.mem_singleton.1 hother]
    exact h

end Within

theorem Terminal.length_le_of_read {t : Terminal} {input rest : List Char}
    (h : t.read input = some rest) : rest.length ≤ input.length := by
  obtain ⟨n, -, rfl⟩ := Option.map_eq_some_iff.1 h
  have hsuffix : Reader.skipLayout (input.drop n) <:+ input :=
    (List.dropWhile_suffix _).trans (List.drop_suffix _ _)
  exact hsuffix.length_le

namespace Head

/-- A choice reads one of its tokens. -/
theorem exists_read_of_tryEach {head : Head} {ts : List Terminal} {input rest : List Char}
    (h : (head.tryEach ts input).1 = some rest) : ∃ t ∈ ts, t.read input = some rest := by
  induction ts with
  | nil => cases h
  | cons t ts ih =>
      rw [tryEach] at h
      cases hread : t.read input with
      | some last =>
          rw [hread] at h
          cases h
          exact ⟨t, List.mem_cons_self .., hread⟩
      | none =>
          rw [hread] at h
          obtain ⟨u, hu, hrest⟩ := ih h
          exact ⟨u, List.mem_cons_of_mem _ hu, hrest⟩

theorem mem_tryEach {head : Head} {ts : List Terminal} {input : List Char} {note : Note}
    (h : note ∈ (head.tryEach ts input).2) :
    note.terminal ∈ ts ∧ note.head = head ∧ note.ahead = input.length := by
  induction ts with
  | nil => exact absurd h List.not_mem_nil
  | cons t ts ih =>
      rw [tryEach] at h
      cases hread : t.read input with
      | some rest =>
          rw [hread] at h
          exact absurd h List.not_mem_nil
      | none =>
          rw [hread] at h
          rcases List.mem_cons.1 h with rfl | h
          · exact ⟨List.mem_cons_self .., rfl, rfl⟩
          · exact ⟨List.mem_cons_of_mem _ (ih h).1, (ih h).2⟩

/-- A choice that fails has looked for a token. -/
theorem exists_note_of_tryEach {head : Head} {ts : List Terminal} (hts : ts ≠ [])
    {input : List Char} (h : (head.tryEach ts input).1 = none) :
    ∃ note ∈ (head.tryEach ts input).2, note.head = head ∧ note.ahead = input.length := by
  obtain ⟨t, ts, rfl⟩ := List.exists_cons_of_ne_nil hts
  rw [tryEach] at h ⊢
  cases hread : t.read input with
  | some rest =>
      rw [hread] at h
      cases h
  | none => exact ⟨_, List.mem_cons_self .., rfl, rfl⟩

/-- Behind its first token a pair is a choice of the second one. -/
theorem attempt_pair_of_read {first second : Terminal} {input middle : List Char}
    (h : first.read input = some middle) :
    (pair first second).attempt input = (choice [second]).attempt middle := by
  simp only [attempt, tryEach, h]
  cases second.read middle <;> rfl

theorem attempt_pair_of_read_none {first second : Terminal} {input : List Char}
    (h : first.read input = none) :
    (pair first second).attempt input = (none, [⟨first, pair first second, input.length⟩]) := by
  rw [attempt, h]

theorem attempt_pair_eq_some {first second : Terminal} {input rest : List Char}
    {notes : List Note} (h : (pair first second).attempt input = (some rest, notes)) :
    ∃ middle, first.read input = some middle ∧ second.read middle = some rest := by
  rw [attempt] at h
  split at h
  · cases h
  · next middle hfirst =>
    split at h
    · cases h
    · next last hsecond =>
      cases h
      exact ⟨middle, hfirst, hsecond⟩

end Head

theorem Head.within_choice (ts : List Terminal) (input : List Char) :
    Within input ((choice ts).attempt input).1 ((choice ts).attempt input).2 where
  left rest hrest := by
    obtain ⟨t, -, hread⟩ := exists_read_of_tryEach hrest
    exact Terminal.length_le_of_read hread
  notes note hnote := by
    obtain ⟨-, -, hahead⟩ := mem_tryEach hnote
    exact Nat.le_of_eq hahead

theorem Head.within_attempt {head : Head} {input : List Char} {left : Option (List Char)}
    {notes : List Note} (h : head.attempt input = (left, notes)) : Within input left notes := by
  obtain rfl : left = (head.attempt input).1 := (congrArg Prod.fst h).symm
  obtain rfl : notes = (head.attempt input).2 := (congrArg Prod.snd h).symm
  cases head with
  | choice ts => exact within_choice ts input
  | pair first second =>
      cases hread : first.read input with
      | none =>
          rw [attempt_pair_of_read_none hread]
          exact .single (Nat.le_refl _)
      | some middle =>
          rw [attempt_pair_of_read hread]
          have hmiddle : Within input (some middle) [] :=
            (Within.here input).leaving (Terminal.length_le_of_read hread)
          exact hmiddle.trans (within_choice [second] middle)

theorem Walks.within {depth : Nat} {form : Form} {input : List Char} {left : Option (List Char)}
    {notes : List Note} (h : Walks depth form input left notes) : Within input left notes := by
  induction h with
  | lead h => exact Head.within_attempt h
  | done => exact (Within.here _).leaving (Nat.le_refl _)
  | never => exact .here _
  | seq _ _ ihFirst ihRest => exact ihFirst.trans ihRest
  | altRest _ _ ihFirst ihRest => exact ihFirst.orElse ihRest
  | starNext _ _ _ ih ihNext => exact ih.trans ihNext
  | starDone _ ih | optAbsent _ ih => exact ih.leaving (Nat.le_refl _)
  | seqFailed _ ih | alt _ ih | opt _ ih | ref _ _ ih => exact ih

/-- More references may be open. -/
theorem Walks.mono {depth depth' : Nat} {form : Form} {input : List Char}
    {left : Option (List Char)} {notes : List Note} (h : Walks depth form input left notes)
    (hle : depth ≤ depth') : Walks depth' form input left notes := by
  induction h generalizing depth' with
  | lead h => exact .lead h
  | done => exact .done
  | never => exact .never
  | seq _ _ ihFirst ihRest => exact .seq (ihFirst hle) (ihRest hle)
  | seqFailed _ ih => exact .seqFailed (ih hle)
  | alt _ ih => exact .alt (ih hle)
  | altRest _ _ ihFirst ihRest => exact .altRest (ihFirst hle) (ihRest hle)
  | starDone _ ih => exact .starDone (ih hle)
  | starNext _ hmoves _ ih ihNext => exact .starNext (ih hle) hmoves (ihNext hle)
  | opt _ ih => exact .opt (ih hle)
  | optAbsent _ ih => exact .optAbsent (ih hle)
  | ref hfind _ ih =>
      obtain ⟨depth', rfl⟩ := Nat.exists_eq_add_of_le' (Nat.le_trans (Nat.succ_pos _) hle)
      exact .ref hfind (ih (Nat.le_of_succ_le_succ hle))

end ThriftSchema
