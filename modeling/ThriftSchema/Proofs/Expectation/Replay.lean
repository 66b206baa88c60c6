import ThriftSchema.Proofs.Expectation.Depth
import ThriftSchema.Proofs.Expectation.Seam

set_option autoImplicit false

/-! # The same walk in another text

Where a text is exchanged behind a seam, a form walks as before, if it did not go beyond the seam
and what it looked for there in vain is not in the other text either.

* `Form.candid`, `Form.Steady`: the parts of a form that fail have looked for a token.
* `Stops`: a walk that ends in front of a seam or at it, and ends the same way in the other text.
* `Walks.seams`: tokens are looked for at seams.
* `Walks.replay`: the walk in the other text.
-/

namespace ThriftSchema

open Reader (skipLayout)

/-! ## Failures are noted -/

/-- Whether the parts that follow others miss a token where they fail. -/
def Form.candid : Form → Bool
  | lead _ | done | never | ref _ => true
  | seq first rest => first.candid && rest.candid && rest.missing
  | alt first rest => first.candid && rest.candid
  | star body | opt body => body.candid

/-- A form in which repetitions move on, and failures are noted. -/
structure Form.Steady (form : Form) : Prop where
  wellFormed : form.wellFormed = true
  candid : form.candid = true

namespace Form.Steady

variable {front back body : Form}

theorem of_seq (h : (seq front back).Steady) :
    front.Steady ∧ back.Steady ∧ back.missing = true := by
  obtain ⟨hform, hcandid⟩ := h
  simp only [Form.wellFormed, Bool.and_eq_true] at hform
  simp only [Form.candid, Bool.and_eq_true] at hcandid
  exact ⟨⟨hform.1, hcandid.1.1⟩, ⟨hform.2, hcandid.1.2⟩, hcandid.2⟩

theorem of_alt (h : (alt front back).Steady) : front.Steady ∧ back.Steady := by
  obtain ⟨hform, hcandid⟩ := h
  simp only [Form.wellFormed, Bool.and_eq_true] at hform
  simp only [Form.candid, Bool.and_eq_true] at hcandid
  exact ⟨⟨hform.1, hcandid.1⟩, hform.2, hcandid.2⟩

theorem of_star (h : (star body).Steady) : body.Steady ∧ body.nullable = false := by
  have hform := h.wellFormed
  simp only [Form.wellFormed, Bool.and_eq_true, Bool.not_eq_true'] at hform
  exact ⟨⟨hform.1, h.candid⟩, hform.2⟩

theorem of_opt (h : (opt body).Steady) : body.Steady := by
  have hform := h.wellFormed
  simp only [Form.wellFormed, Bool.and_eq_true] at hform
  exact ⟨hform.1, h.candid⟩

theorem of_named {name : String} {form : Form} (h : named? name = some form) : form.Steady where
  wellFormed := (wellFormed_named h).1
  candid := of_names (p := fun _ form => form.candid) (by decide +kernel) h

end Form.Steady

namespace Head

theorem exists_note {head : Head} (hfits : head.fits = true) {input : List Char}
    (h : (head.attempt input).1 = none) : ∃ note, note ∈ (head.attempt input).2 := by
  have hchoice : ∀ {ts input}, ts ≠ [] → ((choice ts).attempt input).1 = none →
      ∃ note, note ∈ ((choice ts).attempt input).2 := by
    intro ts input hts hnone
    obtain ⟨note, hnote, -⟩ := exists_note_of_tryEach hts hnone
    exact ⟨note, hnote⟩
  cases head with
  | choice ts =>
      simp only [fits, Bool.and_eq_true, Bool.not_eq_true', List.isEmpty_eq_false_iff] at hfits
      exact hchoice hfits.1 h
  | pair first second =>
      cases hread : first.read input with
      | none =>
          rw [attempt_pair_of_read_none hread]
          exact ⟨_, List.mem_singleton_self _⟩
      | some middle =>
          rw [attempt_pair_of_read hread] at h ⊢
          exact hchoice (List.cons_ne_nil _ _) h

end Head

/-- A form that fails has looked for a token. -/
theorem Walks.exists_note {depth : Nat} {form : Form} {input : List Char} {notes : List Note}
    (h : Walks depth form input none notes) (hform : form.wellFormed = true)
    (hmissing : form.missing = true) : ∃ note, note ∈ notes := by
  generalize hleft : none = left at h
  induction h with
  | lead h =>
      have hnone := (congrArg Prod.fst h).trans hleft.symm
      obtain ⟨note, hnote⟩ := Head.exists_note hform hnone
      rw [h] at hnote
      exact ⟨note, hnote⟩
  | done | alt | starDone | starNext | opt | optAbsent => cases hleft
  | never => cases hmissing
  | seq _ _ _ ih =>
      simp only [Form.wellFormed, Bool.and_eq_true] at hform
      simp only [Form.missing, Bool.and_eq_true] at hmissing
      obtain ⟨note, hnote⟩ := ih hform.2 hmissing.2 hleft
      exact ⟨note, List.mem_append_right _ hnote⟩
  | seqFailed _ ih =>
      simp only [Form.wellFormed, Bool.and_eq_true] at hform
      simp only [Form.missing, Bool.and_eq_true] at hmissing
      exact ih hform.1 hmissing.1 rfl
  | altRest _ _ ihFirst ihRest =>
      simp only [Form.wellFormed, Bool.and_eq_true] at hform
      simp only [Form.missing, Bool.or_eq_true] at hmissing
      rcases hmissing with hmissing | hmissing
      · obtain ⟨note, hnote⟩ := ihFirst hform.1 hmissing rfl
        exact ⟨note, List.mem_append_left _ hnote⟩
      · obtain ⟨note, hnote⟩ := ihRest hform.2 hmissing hleft
        exact ⟨note, List.mem_append_right _ hnote⟩
  | ref hfind _ ih =>
      obtain ⟨hbody, -, hmisses⟩ := Form.wellFormed_named hfind
      exact ih hbody hmisses hleft

/-! ## Tokens are looked for at seams -/

/-- A place in a text, `ahead` characters from its end, is a seam. -/
def SeamAt (front input : List Char) (ahead : Nat) : Prop :=
  ∃ taken rest, input = taken ++ rest ∧ rest.length = ahead ∧ Seam (front ++ taken) rest

theorem SeamAt.after {front taken middle : List Char} {ahead : Nat}
    (h : SeamAt (front ++ taken) middle ahead) : SeamAt front (taken ++ middle) ahead := by
  obtain ⟨more, rest, rfl, hlength, hseam⟩ := h
  rw [List.append_assoc] at hseam
  exact ⟨taken ++ more, rest, (List.append_assoc ..).symm, hlength, hseam⟩

/-- What is left begins at a seam, and tokens were looked for at seams. -/
structure Seams (front input : List Char) (left : Option (List Char)) (notes : List Note) :
    Prop where
  left : ∀ rest, left = some rest → ∃ taken, input = taken ++ rest ∧ Seam (front ++ taken) rest
  notes : ∀ note ∈ notes, SeamAt front input note.ahead

namespace Seams

variable {front input middle : List Char} {left : Option (List Char)} {notes more : List Note}

theorem here (h : Seam front input) : Seams front input (some input) [] where
  left rest hrest := by
    cases hrest
    exact ⟨[], rfl, by rwa [List.append_nil]⟩
  notes _ hnote := absurd hnote List.not_mem_nil

theorem failed (h : Seams front input left notes) : Seams front input none notes where
  left _ hrest := absurd hrest (Option.some_ne_none _).symm
  notes := h.notes

/-- What a walk left is walked through. -/
theorem trans (h : Seams front input (some middle) notes)
    (hmore : ∀ front, Seam front middle → Seams front middle left more) :
    Seams front input left (notes ++ more) := by
  obtain ⟨taken, rfl, hseam⟩ := h.left middle rfl
  have hbehind := hmore _ hseam
  refine ⟨fun rest hrest => ?_, List.forall_mem_append.2 ⟨h.notes, fun note hnote => ?_⟩⟩
  · obtain ⟨others, rfl, hrest⟩ := hbehind.left rest hrest
    rw [List.append_assoc] at hrest
    exact ⟨taken ++ others, (List.append_assoc ..).symm, hrest⟩
  · exact (hbehind.notes note hnote).after

/-- Something else is done with the same text. -/
theorem orElse (h : Seams front input none notes) (hmore : Seams front input left more) :
    Seams front input left (notes ++ more) where
  left := hmore.left
  notes := List.forall_mem_append.2 ⟨h.notes, hmore.notes⟩

end Seams

theorem Head.seams {head : Head} (hfits : head.fits = true) {front input : List Char}
    (hseam : Seam front input) {left : Option (List Char)} {notes : List Note}
    (h : head.attempt input = (left, notes)) : Seams front input left notes := by
  have hchoice : ∀ {ts front input}, (∀ t ∈ ts, t.fits = true) → Seam front input →
      Seams front input ((choice ts).attempt input).1 ((choice ts).attempt input).2 := by
    intro ts front input hts hseam
    refine ⟨fun rest hrest => ?_, fun note hnote => ?_⟩
    · obtain ⟨t, ht, hread⟩ := exists_read_of_tryEach hrest
      obtain ⟨taken, hinput, -, hbehind⟩ := hseam.read (hts t ht) hread
      exact ⟨taken, hinput, hbehind⟩
    · obtain ⟨-, -, hahead⟩ := mem_tryEach hnote
      exact ⟨[], input, rfl, hahead.symm, by rwa [List.append_nil]⟩
  rw [show left = (head.attempt input).1 from (congrArg Prod.fst h).symm,
    show notes = (head.attempt input).2 from (congrArg Prod.snd h).symm]
  cases head with
  | choice ts =>
      simp only [fits, Bool.and_eq_true, List.all_eq_true] at hfits
      exact hchoice hfits.2 hseam
  | pair first second =>
      simp only [fits, Bool.and_eq_true] at hfits
      cases hread : first.read input with
      | none =>
          rw [attempt_pair_of_read_none hread]
          refine ⟨fun rest hrest => absurd hrest (Option.some_ne_none _).symm, ?_⟩
          intro note hnote
          rw [List.mem_singleton.1 hnote]
          exact ⟨[], input, rfl, rfl, by rwa [List.append_nil]⟩
      | some middle =>
          rw [attempt_pair_of_read hread]
          obtain ⟨taken, hinput, -, hbehind⟩ := hseam.read hfits.1 hread
          have hmiddle : Seams front input (some middle) [] := by
            refine ⟨fun rest hrest => ?_, fun note hnote => absurd hnote List.not_mem_nil⟩
            cases hrest
            exact ⟨taken, hinput, hbehind⟩
          exact hmiddle.trans fun front hfront => hchoice (by simpa using hfits.2) hfront

/-- A walk from a seam leads to seams. -/
theorem Walks.seams {depth : Nat} {form : Form} {input : List Char} {left : Option (List Char)}
    {notes : List Note} (h : Walks depth form input left notes) (hform : form.wellFormed = true)
    {front : List Char} (hseam : Seam front input) : Seams front input left notes := by
  induction h generalizing front with
  | lead h => exact Head.seams hform hseam h
  | done => exact .here hseam
  | never => exact (Seams.here hseam).failed
  | seq _ _ ihFirst ihRest =>
      simp only [Form.wellFormed, Bool.and_eq_true] at hform
      exact (ihFirst hform.1 hseam).trans fun front => ihRest hform.2
  | seqFailed _ ih | alt _ ih =>
      simp only [Form.wellFormed, Bool.and_eq_true] at hform
      exact ih hform.1 hseam
  | altRest _ _ ihFirst ihRest =>
      simp only [Form.wellFormed, Bool.and_eq_true] at hform
      exact (ihFirst hform.1 hseam).orElse (ihRest hform.2 hseam)
  | starNext _ _ _ ih ihNext =>
      have hbody := hform
      simp only [Form.wellFormed, Bool.and_eq_true] at hbody
      exact (ih hbody.1 hseam).trans fun front => ihNext hform
  | starDone _ ih | optAbsent _ ih =>
      simp only [Form.wellFormed, Bool.and_eq_true] at hform
      have hfailed := ih hform.1 hseam
      exact ⟨(Seams.here hseam).left, hfailed.notes⟩
  | opt _ ih =>
      simp only [Form.wellFormed, Bool.and_eq_true] at hform
      exact ih hform.1 hseam
  | ref hfind _ ih => exact ih (Form.wellFormed_named hfind).1 hseam

/-! ## Walks in the other text -/

/-- A walk stays in front of a place, or comes to it; the heads that it looked for there in vain
are not in the other text either. -/
structure Stops (rest other : List Char) (left : Option (List Char)) (notes : List Note) :
    Prop where
  left : ∀ last, left = some last → rest.length ≤ last.length
  ahead : ∀ note ∈ notes, rest.length ≤ note.ahead
  quits : ∀ note ∈ notes, note.ahead = rest.length → note.head.Quits (skipLayout other)

namespace Stops

variable {rest other middle last : List Char} {left : Option (List Char)} {notes more : List Note}

theorem front (h : Stops rest other left (notes ++ more)) (hmiddle : rest.length ≤ middle.length) :
    Stops rest other (some middle) notes where
  left _ hlast := Option.some.inj hlast ▸ hmiddle
  ahead := (List.forall_mem_append.1 h.ahead).1
  quits := (List.forall_mem_append.1 h.quits).1

theorem failed (h : Stops rest other left notes) : Stops rest other none notes where
  left _ hlast := absurd hlast (Option.some_ne_none _).symm
  ahead := h.ahead
  quits := h.quits

theorem prior (h : Stops rest other none (notes ++ more)) : Stops rest other none notes where
  left := h.left
  ahead := (List.forall_mem_append.1 h.ahead).1
  quits := (List.forall_mem_append.1 h.quits).1

theorem back (h : Stops rest other left (notes ++ more)) : Stops rest other left more where
  left := h.left
  ahead := (List.forall_mem_append.1 h.ahead).2
  quits := (List.forall_mem_append.1 h.quits).2

/-- A walk that begins behind the place leaves a text or a note behind it. -/
theorem length_le {depth : Nat} {form : Form} (h : Stops rest other left notes)
    (hwalk : Walks depth form middle left notes) (hform : form.wellFormed = true)
    (hmissing : form.missing = true) : rest.length ≤ middle.length := by
  cases left with
  | some last => exact Nat.le_trans (h.left last rfl) (hwalk.within.left last rfl)
  | none =>
      obtain ⟨note, hnote⟩ := hwalk.exists_note hform hmissing
      exact Nat.le_trans (h.ahead note hnote) (hwalk.within.notes note hnote)

end Stops

namespace Head

variable {rest other input input' : List Char} (hother : SetOff other)
  (hswap : Swap rest other input input')

include hother hswap

theorem tryEach_swap {head : Head} {ts : List Terminal} (hts : ∀ t ∈ ts, t.fits = true)
    (hfar : input.length ≠ rest.length)
    (hleft : ∀ last, (head.tryEach ts input).1 = some last → rest.length ≤ last.length) :
    Option.Rel (Swap rest other) (head.tryEach ts input).1 (head.tryEach ts input').1 := by
  induction ts with
  | nil => exact .none
  | cons t ts ih =>
      have ht : t.fits = true := hts t (List.mem_cons_self ..)
      rw [tryEach] at hleft ⊢
      rw [tryEach]
      cases hread : t.read input with
      | some last =>
          rw [hread] at hleft
          obtain ⟨last', hread', hlast⟩ := hswap.read ht hother hread (hleft last rfl)
          rw [hread']
          exact .some hlast
      | none =>
          rw [hread] at hleft
          rw [hswap.read_none ht hother hread hfar]
          exact ih (fun u hu => hts u (List.mem_cons_of_mem _ hu)) hleft

theorem attempt_choice_swap {ts : List Terminal} (hfits : (choice ts).fits = true)
    (hstops : Stops rest other ((choice ts).attempt input).1 ((choice ts).attempt input).2) :
    Option.Rel (Swap rest other) ((choice ts).attempt input).1
      ((choice ts).attempt input').1 := by
  have hboth := hfits
  simp only [fits, Bool.and_eq_true, Bool.not_eq_true', List.isEmpty_eq_false_iff,
    List.all_eq_true] at hboth
  by_cases hhere : input.length = rest.length
  · -- at the place itself no token is read
    have hnone : ((choice ts).tryEach ts input).1 = none := by
      cases htried : ((choice ts).tryEach ts input).1 with
      | none => rfl
      | some last =>
          have hread : (choice ts).attempt input = (some last, _) := Prod.ext htried rfl
          have hshort := length_lt_of_attempt hfits hread
          have hlong := hstops.left last htried
          omega
    obtain ⟨note, hnote, hhead, hahead⟩ := exists_note_of_tryEach hboth.1 hnone
    have hquits := hstops.quits note hnote (hahead.trans hhere)
    rw [hhead] at hquits
    have hleft : ((choice ts).attempt input).1 = none := hnone
    rw [hswap.eq_of_length hhere, hleft, hquits]
    exact .none
  · exact tryEach_swap hother hswap hboth.2 hhere hstops.left

theorem attempt_swap {head : Head} (hfits : head.fits = true) {left : Option (List Char)}
    {notes : List Note} (h : head.attempt input = (left, notes))
    (hstops : Stops rest other left notes) :
    Option.Rel (Swap rest other) left (head.attempt input').1 := by
  obtain rfl : left = (head.attempt input).1 := (congrArg Prod.fst h).symm
  obtain rfl : notes = (head.attempt input).2 := (congrArg Prod.snd h).symm
  cases head with
  | choice ts => exact attempt_choice_swap hother hswap hfits hstops
  | pair first second =>
      simp only [fits, Bool.and_eq_true] at hfits
      cases hread : first.read input with
      | none =>
          rw [attempt_pair_of_read_none hread] at hstops ⊢
          have hnote := List.mem_singleton_self
            (⟨first, pair first second, input.length⟩ : Note)
          have hquits : ((pair first second).attempt input').1 = none := by
            by_cases hhere : input.length = rest.length
            · rw [hswap.eq_of_length hhere]
              exact hstops.quits _ hnote hhere
            · rw [attempt_pair_of_read_none (hswap.read_none hfits.1 hother hread hhere)]
          rw [hquits]
          exact .none
      | some middle =>
          rw [attempt_pair_of_read hread] at hstops ⊢
          have hsecond : (choice [second]).fits = true := by simpa [fits] using hfits.2
          have hwalk : Walks 0 (.lead (choice [second])) middle _ _ := .lead rfl
          have hmiddle : rest.length ≤ middle.length := hstops.length_le hwalk hsecond rfl
          obtain ⟨middle', hread', hswap'⟩ := hswap.read hfits.1 hother hread hmiddle
          rw [attempt_pair_of_read hread']
          exact attempt_choice_swap hother hswap' hsecond hstops

end Head

/-- In the other text a form walks as it did. -/
theorem Walks.replay {depth : Nat} {form : Form} {rest other input input' : List Char}
    {left : Option (List Char)} {notes : List Note} (h : Walks depth form input left notes)
    (hsteady : form.Steady) (hother : SetOff other) (hstops : Stops rest other left notes)
    (hswap : Swap rest other input input') :
    ∃ left' notes', Walks depth form input' left' notes' ∧
      Option.Rel (Swap rest other) left left' := by
  induction h generalizing input' with
  | lead h =>
      exact ⟨_, _, .lead rfl, Head.attempt_swap hother hswap hsteady.wellFormed h hstops⟩
  | done => exact ⟨_, _, .done, .some hswap⟩
  | never => exact ⟨_, _, .never, .none⟩
  | seq hfirst hrest ihFirst ihRest =>
      obtain ⟨hfront, hback, hmissing⟩ := hsteady.of_seq
      -- the second part ends or misses a token at the place or in front of it
      have hmiddle := hstops.back.length_le hrest hback.wellFormed hmissing
      obtain ⟨left', notes', hwalk, hsame⟩ := ihFirst hfront (hstops.front hmiddle) hswap
      cases hsame with
      | some hswap' =>
          obtain ⟨last', more', hmore, hlast⟩ := ihRest hback hstops.back hswap'
          exact ⟨_, _, .seq hwalk hmore, hlast⟩
  | seqFailed _ ih =>
      obtain ⟨left', notes', hwalk, hsame⟩ := ih hsteady.of_seq.1 hstops hswap
      cases hsame
      exact ⟨_, _, .seqFailed hwalk, .none⟩
  | alt _ ih =>
      obtain ⟨left', notes', hwalk, hsame⟩ := ih hsteady.of_alt.1 hstops hswap
      cases hsame with
      | some hswap' => exact ⟨_, _, .alt hwalk, .some hswap'⟩
  | altRest _ _ ihFirst ihRest =>
      obtain ⟨hfront, hback⟩ := hsteady.of_alt
      obtain ⟨left', notes', hwalk, hsame⟩ := ihFirst hfront hstops.failed.prior hswap
      cases hsame
      obtain ⟨last', more', hmore, hlast⟩ := ihRest hback hstops.back hswap
      exact ⟨_, _, .altRest hwalk hmore, hlast⟩
  | starDone _ ih =>
      obtain ⟨left', notes', hwalk, hsame⟩ := ih hsteady.of_star.1 hstops.failed hswap
      cases hsame
      exact ⟨_, _, .starDone hwalk, .some hswap⟩
  | starNext h hmoves hnext ih ihNext =>
      obtain ⟨hbody, hnullable⟩ := hsteady.of_star
      have hmiddle := hstops.back.length_le hnext hsteady.wellFormed rfl
      obtain ⟨left', notes', hwalk, hsame⟩ := ih hbody (hstops.front hmiddle) hswap
      cases hsame with
      | some hswap' =>
          obtain ⟨last', more', hmore, hlast⟩ := ihNext hsteady hstops.back hswap'
          cases hlast with
          | some hlast =>
              have hmoves' := hwalk.length_lt hbody.wellFormed hnullable
              exact ⟨_, _, .starNext hwalk hmoves' hmore, .some hlast⟩
  | opt _ ih =>
      obtain ⟨left', notes', hwalk, hsame⟩ := ih hsteady.of_opt hstops hswap
      cases hsame with
      | some hswap' => exact ⟨_, _, .opt hwalk, .some hswap'⟩
  | optAbsent _ ih =>
      obtain ⟨left', notes', hwalk, hsame⟩ := ih hsteady.of_opt hstops.failed hswap
      cases hsame
      exact ⟨_, _, .optAbsent hwalk, .some hswap⟩
  | ref hfind _ ih =>
      obtain ⟨left', notes', hwalk, hsame⟩ := ih (.of_named hfind) hstops hswap
      exact ⟨_, _, .ref hfind hwalk, hsame⟩

end ThriftSchema
