import ThriftSchema.Proofs.Expectation.Outlook
import ThriftSchema.Proofs.Expectation.Replay

set_option autoImplicit false

/-! # Going on where a token was missed

Where a token was looked for in vain, the text can be cut, and the token and others put there
instead, so that the form is through with the new text. A head may be looked for in vain on the
way of another one, which has read what is ahead as something else; in the new text the first
head that takes the token has it.

* `Form.resumable`: what follows a part of a form can be spelled, and is not read by that part.
* `Form.Sound`: what is asked of a form.
* `Resumes`: tokens to put behind the missed one.
* `Walks.resumes`: there are such tokens, where every head that was looked for at the place takes
  the token or refuses it.
-/

namespace ThriftSchema

open Reader (skipLayout)

/-! ## Forms that can be ended -/

/-- Whether every part of a form can be followed by tokens that end the form. -/
def Form.resumable (k : Nat) : Form → Bool
  | lead (.pair _ second) => second.isSampled
  | lead (.choice _) | done | never => true
  | seq front rest =>
    front.resumable k && rest.resumable k &&
      (rest.completion k).any fun tokens => rest.joins (front.last k) tokens
  | alt front rest => front.resumable k && rest.resumable k
  | star body | opt body => body.resumable k
  | ref name => (named? name).all fun form => form.last k == (ref name).last k

/-- A steady form whose parts can be followed by tokens. -/
structure Form.Sound (k : Nat) (form : Form) : Prop extends form.Steady where
  resumable : form.resumable k = true

namespace Form.Sound

variable {k : Nat} {front back body : Form}

theorem of_seq (h : (seq front back).Sound k) : front.Sound k ∧ back.Sound k := by
  obtain ⟨hfront, hback, -⟩ := h.toSteady.of_seq
  have hresumable := h.resumable
  simp only [Form.resumable, Bool.and_eq_true] at hresumable
  exact ⟨⟨hfront, hresumable.1.1⟩, hback, hresumable.1.2⟩

theorem of_alt (h : (alt front back).Sound k) : front.Sound k ∧ back.Sound k := by
  obtain ⟨hfront, hback⟩ := h.toSteady.of_alt
  have hresumable := h.resumable
  simp only [Form.resumable, Bool.and_eq_true] at hresumable
  exact ⟨⟨hfront, hresumable.1⟩, hback, hresumable.2⟩

theorem of_star (h : (star body).Sound k) : body.Sound k ∧ body.nullable = false := by
  obtain ⟨hbody, hnullable⟩ := h.toSteady.of_star
  exact ⟨⟨hbody, h.resumable⟩, hnullable⟩

theorem of_opt (h : (opt body).Sound k) : body.Sound k := ⟨h.toSteady.of_opt, h.resumable⟩

/-- The tokens that end a sequence behind its first part. -/
theorem exists_completion {depth : Nat} (hsound : (seq front back).Sound k) (hdepth : k ≤ depth)
    {heads : List Head} (hlast : (seq front back).last k = some heads) :
    ∃ fronts backs others, front.last k = some fronts ∧ back.last k = some backs ∧
      Completes depth back backs others ∧
      (∀ {text}, (∀ head ∈ heads, head.Quits text) →
        ∀ head ∈ fronts, head.Quits (spell others ++ text)) ∧
      ∀ head ∈ backs, head ∈ heads := by
  have hresumable := hsound.resumable
  simp only [Form.resumable, Bool.and_eq_true, Option.any_eq_true] at hresumable
  obtain ⟨-, others, hothers, hjoins⟩ := hresumable
  obtain ⟨call, hcall⟩ := exists_last k
  rw [hcall] at hlast hjoins
  obtain ⟨backs, hbacks, hmem, -⟩ := lastWith_seq hlast
  rw [← hcall] at hbacks
  have hcompletes := completes hdepth hsound.of_seq.2.wellFormed hothers hbacks
  obtain ⟨fronts, hfronts, hquits⟩ := quits_of_joins hjoins hlast hcompletes.sampled
  rw [← hcall] at hfronts
  exact ⟨fronts, backs, others, hfronts, hbacks, hcompletes, hquits, hmem⟩

end Form.Sound

/-! ## The other text -/

/-- A token, others behind it and a text, set off by a blank. -/
def resumption (u : Terminal) (tokens : List Terminal) (last : List Char) : List Char :=
  ' ' :: (spell (u :: tokens) ++ last)

theorem setOff_resumption (u : Terminal) (tokens : List Terminal) (last : List Char) :
    SetOff (resumption u tokens last) := fun _ hc => (Option.some.inj hc).symm

theorem resumption_append (u : Terminal) (tokens others : List Terminal) (last : List Char) :
    resumption u (tokens ++ others) last = resumption u tokens (spell others ++ last) :=
  congrArg (List.cons ' ') (spell_append (u :: tokens) others last)

theorem skipLayout_resumption {u : Terminal} (hu : u.isSampled = true) (tokens : List Terminal)
    (last : List Char) :
    skipLayout (resumption u tokens last) = u.sample ++ ' ' :: (spell tokens ++ last) := by
  have hblank : skipLayout (resumption u tokens last) = skipLayout (spell (u :: tokens) ++ last) :=
    List.dropWhile_cons_of_pos rfl
  rw [hblank, spell_cons, (Terminal.isSample hu).skipLayout_append]

/-- A walk went no further than a place, and every head that it looked for there takes a token or
refuses it. -/
structure Decided (rest : List Char) (u : Terminal) (notes : List Note) : Prop where
  ahead : ∀ note ∈ notes, rest.length ≤ note.ahead
  decides : ∀ note ∈ notes, note.ahead = rest.length →
    note.head.takes u.sample = true ∨ note.head.Refuses u.sample

/-- Some head that takes a token was looked for at a place. -/
def Wants (rest : List Char) (u : Terminal) (notes : List Note) : Prop :=
  ∃ note ∈ notes, note.ahead = rest.length ∧ note.head.takes u.sample = true

section Notes

variable {rest : List Char} {u : Terminal} {notes more : List Note}

theorem Decided.append (h : Decided rest u (notes ++ more)) :
    Decided rest u notes ∧ Decided rest u more := by
  obtain ⟨hahead, hmoreAhead⟩ := List.forall_mem_append.1 h.ahead
  obtain ⟨hdecides, hmoreDecides⟩ := List.forall_mem_append.1 h.decides
  exact ⟨⟨hahead, hdecides⟩, hmoreAhead, hmoreDecides⟩

theorem Wants.append (h : Wants rest u (notes ++ more)) :
    Wants rest u notes ∨ Wants rest u more := by
  obtain ⟨note, hnote, hwants⟩ := h
  rcases List.mem_append.1 hnote with hnote | hnote
  · exact .inl ⟨note, hnote, hwants⟩
  · exact .inr ⟨note, hnote, hwants⟩

/-- A place that a walk comes to is not in front of it. -/
theorem Wants.length_le (h : Wants rest u notes) {depth : Nat} {form : Form} {input : List Char}
    {left : Option (List Char)} (hwalk : Walks depth form input left notes) :
    rest.length ≤ input.length := by
  obtain ⟨note, hnote, hahead, -⟩ := h
  exact hahead ▸ hwalk.within.notes note hnote

/-- A walk that does not want the token stops at the place. -/
theorem Decided.stops (h : Decided rest u notes) (hu : u.isSampled = true)
    (hwants : ¬ Wants rest u notes) {left : Option (List Char)}
    (hleft : ∀ last, left = some last → rest.length ≤ last.length) (tokens : List Terminal)
    (last : List Char) : Stops rest (resumption u tokens last) left notes where
  left := hleft
  ahead := h.ahead
  quits note hnote hahead := by
    rw [skipLayout_resumption hu]
    rcases h.decides note hnote hahead with htakes | hrefuses
    · exact absurd ⟨note, hnote, hahead, htakes⟩ hwants
    · exact hrefuses _

end Notes

/-! ## Going on -/

/-- With some tokens behind the missed one, in front of a text in which it looks for nothing
more, a form is through with the other text. -/
structure Resumes (depth : Nat) (form : Form) (heads : List Head) (rest : List Char)
    (u : Terminal) (input : List Char) (tokens : List Terminal) : Prop where
  sampled : ∀ t ∈ tokens, t.isSampled = true
  walks : ∀ {last input'}, skipLayout last = last → (∀ head ∈ heads, head.Quits last) →
    Swap rest (resumption u tokens last) input input' →
    ∃ notes, Walks depth form input' (some last) notes

section Lead

variable {rest input : List Char} {u : Terminal} (hu : u.isSampled = true)

include hu

theorem Head.resumes_choice {ts : List Terminal} (hfits : (choice ts).fits = true)
    (hwants : Wants rest u ((choice ts).attempt input).2) (depth : Nat) (heads : List Head) :
    Resumes depth (.lead (choice ts)) heads rest u input [] := by
  obtain ⟨note, hnote, hahead, htakes⟩ := hwants
  obtain ⟨-, hhead, hhere⟩ := mem_tryEach hnote
  rw [hhead, takes, beq_iff_eq] at htakes
  refine ⟨by simp, fun {last input'} hskip _ hswap => ?_⟩
  have hinput : input' = u.sample ++ ' ' :: last := by
    rw [hswap.eq_of_length (hhere.symm.trans hahead), skipLayout_resumption hu]
    rfl
  simp only [fits, Bool.and_eq_true, List.all_eq_true] at hfits
  have hread : ((choice ts).attempt input').1 = some last := by
    rw [hinput, attempt, tryEach_of_takes hfits.2 (Terminal.isSample hu) htakes, hskip]
  exact ⟨_, .lead (Prod.ext hread rfl)⟩

theorem Head.resumes {head : Head} (hfits : head.fits = true) {k : Nat}
    (hresumable : (Form.lead head).resumable k = true) {left : Option (List Char)}
    {notes : List Note} (h : head.attempt input = (left, notes)) (hwants : Wants rest u notes)
    (depth : Nat) (heads : List Head) :
    ∃ tokens, Resumes depth (.lead head) heads rest u input tokens := by
  obtain rfl : notes = (head.attempt input).2 := (congrArg Prod.snd h).symm
  cases head with
  | choice ts => exact ⟨[], resumes_choice hu hfits hwants depth heads⟩
  | pair first second =>
      simp only [fits, Bool.and_eq_true] at hfits
      cases hfirst : first.read input with
      | none =>
          -- the first token is missed, and the second one is put behind it
          rw [attempt_pair_of_read_none hfirst] at hwants
          obtain ⟨note, hnote, hahead, htakes⟩ := hwants
          obtain rfl := List.mem_singleton.1 hnote
          rw [takes, beq_iff_eq] at htakes
          have hsecond : second.isSampled = true := hresumable
          refine ⟨[second], by simpa using hsecond, fun {last input'} hskip _ hswap => ?_⟩
          have hinput : input' = u.sample ++ ' ' :: (second.sample ++ ' ' :: last) := by
            rw [hswap.eq_of_length hahead, skipLayout_resumption hu, spell_cons]
            rfl
          have hmiddle : first.read input' = some (second.sample ++ ' ' :: last) := by
            rw [hinput, (Terminal.isSample hu).read_append hfits.1 htakes,
              (Terminal.isSample hsecond).skipLayout_append]
          have hread : ((pair first second).attempt input').1 = some last := by
            rw [attempt_pair_of_read hmiddle, attempt, tryEach, Terminal.read_sample hsecond, hskip]
          exact ⟨_, .lead (Prod.ext hread rfl)⟩
      | some middle =>
          -- the first token is read as before
          rw [attempt_pair_of_read hfirst] at hwants
          have hchoice : (choice [second]).fits = true := by simpa [fits] using hfits.2
          have hresumes := resumes_choice hu hchoice hwants depth heads
          refine ⟨[], hresumes.sampled, fun {last input'} hskip hquits hswap => ?_⟩
          obtain ⟨note, hnote, hahead, -⟩ := hwants
          obtain ⟨-, -, hhere⟩ := mem_tryEach hnote
          have hlong : rest.length ≤ middle.length := Nat.le_of_eq (hahead.symm.trans hhere)
          obtain ⟨middle', hmiddle, hswap'⟩ :=
            hswap.read hfits.1 (setOff_resumption u [] last) hfirst hlong
          obtain ⟨notes, hwalk⟩ := hresumes.walks hskip hquits hswap'
          cases hwalk with
          | lead hread =>
              rw [← attempt_pair_of_read hmiddle] at hread
              exact ⟨notes, .lead hread⟩

end Lead

namespace Resumes

variable {k depth : Nat} {front back body : Form} {heads fronts backs : List Head}
  {rest input : List Char} {u : Terminal} {tokens others : List Terminal}

theorem mono (h : Resumes depth body fronts rest u input tokens)
    (hmem : ∀ head ∈ fronts, head ∈ heads) : Resumes depth body heads rest u input tokens where
  sampled := h.sampled
  walks hskip hquits hswap := h.walks hskip (fun head hhead => hquits head (hmem head hhead)) hswap

/-- The first part of a sequence goes on, and the second one is spelled. -/
theorem seq (h : Resumes depth front fronts rest u input tokens)
    (hback : Form.Completes depth back backs others)
    (hfronts : ∀ {text}, (∀ head ∈ heads, head.Quits text) →
      ∀ head ∈ fronts, head.Quits (spell others ++ text))
    (hbacks : ∀ head ∈ backs, head ∈ heads) :
    Resumes depth (.seq front back) heads rest u input (tokens ++ others) where
  sampled := List.forall_mem_append.2 ⟨h.sampled, hback.sampled⟩
  walks hskip hquits hswap := by
    rw [resumption_append] at hswap
    obtain ⟨notes, hwalk⟩ :=
      h.walks (skipLayout_spell hback.sampled hskip) (hfronts hquits) hswap
    obtain ⟨more, hmore⟩ := hback.walks hskip fun head hhead => hquits head (hbacks head hhead)
    exact ⟨_, .seq hwalk hmore⟩

/-- A round of a repetition goes on, and it is the last one. -/
theorem star (h : Resumes depth body backs rest u input tokens) (hdepth : k ≤ depth)
    (hbody : body.Sound k) (hnullable : body.nullable = false)
    (hfirst : body.first k = some fronts) :
    Resumes depth (.star body) (fronts ++ backs) rest u input tokens where
  sampled := h.sampled
  walks hskip hquits hswap := by
    obtain ⟨hfronts, hbacks⟩ := List.forall_mem_append.1 hquits
    obtain ⟨notes, hwalk⟩ := h.walks hskip hbacks hswap
    obtain ⟨more, hmore⟩ := Form.passes hdepth hbody.wellFormed hfirst hfronts
    rw [hnullable] at hmore
    have hmoves := hwalk.length_lt hbody.wellFormed hnullable
    exact ⟨_, .starNext hwalk hmoves (.starDone hmore)⟩

/-- The first part of a sequence walks as it did, and the second one goes on. -/
theorem after {middle : List Char} {notes : List Note}
    (hwalk : Walks depth front input (some middle) notes) (hfront : front.Sound k)
    (h : Resumes depth back heads rest u middle tokens)
    (hstops : ∀ last, Stops rest (resumption u tokens last) (some middle) notes) :
    Resumes depth (.seq front back) heads rest u input tokens where
  sampled := h.sampled
  walks {last input'} hskip hquits hswap := by
    obtain ⟨left', notes', hreplay, hsame⟩ := hwalk.replay hfront.toSteady
      (setOff_resumption u tokens last) (hstops last) hswap
    cases hsame with
    | some hswap' =>
        obtain ⟨more, hmore⟩ := h.walks hskip hquits hswap'
        exact ⟨_, .seq hreplay hmore⟩

/-- A round of a repetition is as it was, and the repetition goes on. -/
theorem starAfter {middle : List Char} {notes : List Note}
    (hwalk : Walks depth body input (some middle) notes) (hbody : body.Sound k)
    (hnullable : body.nullable = false)
    (h : Resumes depth (.star body) heads rest u middle tokens)
    (hstops : ∀ last, Stops rest (resumption u tokens last) (some middle) notes) :
    Resumes depth (.star body) heads rest u input tokens where
  sampled := h.sampled
  walks {last input'} hskip hquits hswap := by
    obtain ⟨left', notes', hround, hsame⟩ := hwalk.replay hbody.toSteady
      (setOff_resumption u tokens last) (hstops last) hswap
    cases hsame with
    | some hswap' =>
        obtain ⟨more, hmore⟩ := h.walks hskip hquits hswap'
        exact ⟨_, .starNext hround (hround.length_lt hbody.wellFormed hnullable) hmore⟩

theorem alt (h : Resumes depth front heads rest u input tokens) :
    Resumes depth (.alt front back) heads rest u input tokens where
  sampled := h.sampled
  walks hskip hquits hswap := by
    obtain ⟨notes, hwalk⟩ := h.walks hskip hquits hswap
    exact ⟨_, .alt hwalk⟩

/-- The first part of a choice fails as it did, and the second one goes on. -/
theorem altAfter {notes : List Note} (hwalk : Walks depth front input none notes)
    (hfront : front.Sound k)
    (h : Resumes depth back heads rest u input tokens)
    (hstops : ∀ last, Stops rest (resumption u tokens last) none notes) :
    Resumes depth (.alt front back) heads rest u input tokens where
  sampled := h.sampled
  walks {last input'} hskip hquits hswap := by
    obtain ⟨left', notes', hreplay, hsame⟩ := hwalk.replay hfront.toSteady
      (setOff_resumption u tokens last) (hstops last) hswap
    obtain ⟨more, hmore⟩ := h.walks hskip hquits hswap
    cases hsame
    exact ⟨_, .altRest hreplay hmore⟩

theorem opt (h : Resumes depth body heads rest u input tokens) :
    Resumes depth (.opt body) heads rest u input tokens where
  sampled := h.sampled
  walks hskip hquits hswap := by
    obtain ⟨notes, hwalk⟩ := h.walks hskip hquits hswap
    exact ⟨_, .opt hwalk⟩

end Resumes

/-- Where every head that was looked for takes a token or refuses it, and one of them takes it, a
form can go on with the token. -/
theorem Walks.resumes {k depth : Nat} {form : Form} {rest input : List Char}
    {left : Option (List Char)} {notes : List Note} {u : Terminal} {heads : List Head}
    (h : Walks depth form input left notes)
    (hnamed : ∀ name form, Form.named? name = some form → form.Sound k) (hsound : form.Sound k)
    (hlast : form.last k = some heads) (hu : u.isSampled = true)
    (hdecided : Decided rest u notes) (hwants : Wants rest u notes) :
    ∃ tokens, Resumes (depth + k) form heads rest u input tokens := by
  -- the part that wants the token goes on, and the parts in front of it walk as they did
  induction h generalizing heads with
  | lead h => exact Head.resumes hu hsound.wellFormed hsound.resumable h hwants _ _
  | done | never =>
      obtain ⟨note, hnote, -⟩ := hwants
      exact absurd hnote List.not_mem_nil
  | @seq depth front back input middle left notes more hfront hback ihFront ihBack =>
      obtain ⟨hsoundFront, hsoundBack⟩ := hsound.of_seq
      obtain ⟨fronts, backs, others, hfronts, hbacks, hcompletes, hquits, hmem⟩ :=
        hsound.exists_completion (Nat.le_add_left k depth) hlast
      obtain ⟨hdecidedFront, hdecidedBack⟩ := hdecided.append
      by_cases hfirst : Wants rest u notes
      · -- what the second part read before is put aside, and spelled tokens take its place
        obtain ⟨tokens, hresumes⟩ := ihFront hsoundFront hfronts hdecidedFront hfirst
        exact ⟨_, hresumes.seq hcompletes hquits hmem⟩
      · have hthen := hwants.append.resolve_left hfirst
        obtain ⟨tokens, hresumes⟩ := ihBack hsoundBack hbacks hdecidedBack hthen
        have hlong : ∀ last, some middle = some last → rest.length ≤ last.length :=
          fun last hlast => Option.some.inj hlast ▸ hthen.length_le hback
        have hstops := hdecidedFront.stops hu hfirst hlong tokens
        exact ⟨tokens, (hresumes.mono hmem).after (hfront.mono (Nat.le_add_right ..))
          hsoundFront hstops⟩
  | @seqFailed depth front back input notes hfront ih =>
      obtain ⟨fronts, backs, others, hfronts, hbacks, hcompletes, hquits, hmem⟩ :=
        hsound.exists_completion (Nat.le_add_left k depth) hlast
      obtain ⟨tokens, hresumes⟩ := ih hsound.of_seq.1 hfronts hdecided hwants
      exact ⟨_, hresumes.seq hcompletes hquits hmem⟩
  | alt _ ih =>
      obtain ⟨fronts, backs, hfronts, -, rfl⟩ := Form.last_alt hlast
      obtain ⟨tokens, hresumes⟩ := ih hsound.of_alt.1 hfronts hdecided hwants
      exact ⟨tokens, (hresumes.mono fun head => List.mem_append_left _).alt⟩
  | @altRest depth front back input left notes more hfront hback ihFront ihBack =>
      obtain ⟨hsoundFront, hsoundBack⟩ := hsound.of_alt
      obtain ⟨fronts, backs, hfronts, hbacks, rfl⟩ := Form.last_alt hlast
      obtain ⟨hdecidedFront, hdecidedBack⟩ := hdecided.append
      by_cases hfirst : Wants rest u notes
      · obtain ⟨tokens, hresumes⟩ := ihFront hsoundFront hfronts hdecidedFront hfirst
        exact ⟨tokens, (hresumes.mono fun head => List.mem_append_left _).alt⟩
      · have hthen := hwants.append.resolve_left hfirst
        obtain ⟨tokens, hresumes⟩ := ihBack hsoundBack hbacks hdecidedBack hthen
        have hnone : ∀ last : List Char, none = some last → rest.length ≤ last.length :=
          fun last h => absurd h.symm (Option.some_ne_none last)
        have hstops := hdecidedFront.stops hu hfirst hnone tokens
        exact ⟨tokens, (hresumes.mono fun head => List.mem_append_right _).altAfter
          (hfront.mono (Nat.le_add_right ..)) hsoundFront hstops⟩
  | starDone _ ih =>
      -- the round that failed is a round after all
      obtain ⟨hsoundBody, hnullable⟩ := hsound.of_star
      obtain ⟨begins, ends, hbegins, hends, rfl⟩ := Form.last_star hlast
      obtain ⟨tokens, hresumes⟩ := ih hsoundBody hends hdecided hwants
      exact ⟨tokens, hresumes.star (Nat.le_add_left ..) hsoundBody hnullable hbegins⟩
  | @starNext depth body input middle last notes more h hmoves hnext ih ihNext =>
      obtain ⟨hsoundBody, hnullable⟩ := hsound.of_star
      obtain ⟨hdecidedRound, hdecidedNext⟩ := hdecided.append
      by_cases hfirst : Wants rest u notes
      · obtain ⟨begins, ends, hbegins, hends, rfl⟩ := Form.last_star hlast
        obtain ⟨tokens, hresumes⟩ := ih hsoundBody hends hdecidedRound hfirst
        exact ⟨tokens, hresumes.star (Nat.le_add_left ..) hsoundBody hnullable hbegins⟩
      · have hthen := hwants.append.resolve_left hfirst
        obtain ⟨tokens, hresumes⟩ := ihNext hsound hlast hdecidedNext hthen
        have hlong : ∀ last, some middle = some last → rest.length ≤ last.length :=
          fun last hlast => Option.some.inj hlast ▸ hthen.length_le hnext
        have hstops := hdecidedRound.stops hu hfirst hlong tokens
        exact ⟨tokens, hresumes.starAfter (h.mono (Nat.le_add_right ..)) hsoundBody hnullable
          hstops⟩
  | opt _ ih | optAbsent _ ih =>
      obtain ⟨begins, ends, -, hends, rfl⟩ := Form.last_opt hlast
      obtain ⟨tokens, hresumes⟩ := ih hsound.of_opt hends hdecided hwants
      exact ⟨tokens, (hresumes.mono fun head => List.mem_append_right _).opt⟩
  | @ref depth name form input left notes hfind _ ih =>
      have hsame : form.last k = (Form.ref name).last k := by
        have hresumable := hsound.resumable
        rw [Form.resumable, hfind] at hresumable
        exact beq_iff_eq.1 hresumable
      obtain ⟨tokens, hresumes⟩ :=
        ih (hnamed name form hfind) (hsame.trans hlast) hdecided hwants
      refine ⟨tokens, hresumes.sampled, fun hskip hquits hswap => ?_⟩
      obtain ⟨more, hwalk⟩ := hresumes.walks hskip hquits hswap
      rw [Nat.add_right_comm]
      exact ⟨more, .ref hfind hwalk⟩

end ThriftSchema
