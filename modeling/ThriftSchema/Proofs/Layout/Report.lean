import ThriftSchema.Proofs.Expectation.Overdeep
import ThriftSchema.Proofs.Layout.Insertion
import ThriftSchema.Proofs.Settings.Adjustment

set_option autoImplicit false

/-! # Layout does not matter

Where layout is put into a text, a walk through the one text is a walk through the other, and looks
for the same tokens at the same places, those behind the layout moved on. So the failures come in
the same order, and the furthest ones are the same. With the documents being read in lockstep, the
text and the text with the layout come to the same end.

* `SameNote`: a token that is looked for at one place of both texts.
* `Walks.parted`: a walk through the other text.
* `SameFurthest`: states in which the same failures are the furthest.
* `ReadsSame`, `reads_same_of_layout`: readings that come to the same end.
-/

namespace ThriftSchema

open Pattern (isLayout)
open Reader (skipLayout)

/-! ## Walks -/

variable {limit : Nat} {w b : List Char}

/-- A token that was looked for at the same place of both texts. -/
structure SameNote (w b : List Char) (note note' : Note) : Prop where
  terminal : note'.terminal = note.terminal
  ahead : note'.ahead = if note.ahead ≤ b.length then note.ahead else note.ahead + w.length

/-- What is left are texts that part at the place, or none; the same tokens were missed. -/
structure SameTrial (w b : List Char) (r r' : Trial) : Prop where
  left : Option.Rel (Parted w b) r.1 r'.1
  notes : List.Forall₂ (SameNote w b) r.2 r'.2

theorem Parted.sameNote {x y : List Char} (h : Parted w b x y) (t : Terminal) (head : Head) :
    SameNote w b ⟨t, head, x.length⟩ ⟨t, head, y.length⟩ := ⟨rfl, h.length_eq⟩

section Walks

variable (hw : ∀ c ∈ w, isLayout c = true) {x y : List Char}

include hw

theorem Terminal.read_parted {t : Terminal} (ht : t.fits = true) (h : Parted w b x y) :
    Option.Rel (Parted w b) (t.read x) (t.read y) := by
  obtain ⟨hsame, hread⟩ := steps_parted (b := b) hw ht 1 (fun _ => Nat.one_pos) h
  rw [read, read, ← hsame]
  cases hmeasure : t.measure x with
  | none => exact .none
  | some count => exact .some (hread count hmeasure).2

namespace Head

theorem tryEach_parted {head : Head} {ts : List Terminal} (hts : ∀ t ∈ ts, t.fits = true)
    (h : Parted w b x y) : SameTrial w b (head.tryEach ts x) (head.tryEach ts y) := by
  induction ts with
  | nil => exact ⟨.none, .nil⟩
  | cons t ts ih =>
      have hread := Terminal.read_parted hw (hts t (List.mem_cons_self ..)) h
      have hothers := ih fun u hu => hts u (List.mem_cons_of_mem _ hu)
      rw [tryEach, tryEach]
      generalize t.read x = r at hread ⊢
      generalize t.read y = r' at hread ⊢
      cases hread with
      | some hrest => exact ⟨.some hrest, .nil⟩
      | none => exact ⟨hothers.left, .cons (h.sameNote t head) hothers.notes⟩

theorem attempt_parted {head : Head} (hfits : head.fits = true) (h : Parted w b x y) :
    SameTrial w b (head.attempt x) (head.attempt y) := by
  cases head with
  | choice ts =>
      simp only [fits, Bool.and_eq_true, List.all_eq_true] at hfits
      exact tryEach_parted hw hfits.2 h
  | pair first second =>
      simp only [fits, Bool.and_eq_true] at hfits
      have hread := Terminal.read_parted hw hfits.1 h
      generalize hx : first.read x = r at hread
      generalize hy : first.read y = r' at hread
      cases hread with
      | none =>
          rw [attempt_pair_of_read_none hx, attempt_pair_of_read_none hy]
          exact ⟨.none, .cons (h.sameNote ..) .nil⟩
      | some hmiddle =>
          rw [attempt_pair_of_read hx, attempt_pair_of_read hy]
          exact tryEach_parted hw (by simpa using hfits.2) hmiddle

end Head

/-- A walk through the one text is a walk through the other. -/
theorem Walks.parted {depth : Nat} {form : Form} {left : Option (List Char)} {notes : List Note}
    (hwalk : Walks depth form x left notes) (hform : form.wellFormed = true)
    (h : Parted w b x y) :
    ∃ left' notes', Walks depth form y left' notes' ∧
      SameTrial w b (left, notes) (left', notes') := by
  induction hwalk generalizing y with
  | @lead depth head x left notes hattempt =>
      have hsame := Head.attempt_parted hw hform h
      rw [hattempt] at hsame
      exact ⟨_, _, .lead rfl, hsame⟩
  | done => exact ⟨_, _, .done, .some h, .nil⟩
  | never => exact ⟨_, _, .never, .none, .nil⟩
  | seq _ _ ihFirst ihRest =>
      simp only [Form.wellFormed, Bool.and_eq_true] at hform
      obtain ⟨_, notes', hfirst, hleft, hnotes⟩ := ihFirst hform.1 h
      cases hleft with
      | some hmiddle =>
          obtain ⟨left', more', hrest, hlast, hmore⟩ := ihRest hform.2 hmiddle
          exact ⟨_, _, .seq hfirst hrest, hlast, List.rel_append hnotes hmore⟩
  | seqFailed _ ih =>
      simp only [Form.wellFormed, Bool.and_eq_true] at hform
      obtain ⟨_, notes', hfirst, hleft, hnotes⟩ := ih hform.1 h
      cases hleft
      exact ⟨_, _, .seqFailed hfirst, .none, hnotes⟩
  | alt _ ih =>
      simp only [Form.wellFormed, Bool.and_eq_true] at hform
      obtain ⟨_, notes', hfirst, hleft, hnotes⟩ := ih hform.1 h
      cases hleft with
      | some hlast => exact ⟨_, _, .alt hfirst, .some hlast, hnotes⟩
  | altRest _ _ ihFirst ihRest =>
      simp only [Form.wellFormed, Bool.and_eq_true] at hform
      obtain ⟨_, notes', hfirst, hleft, hnotes⟩ := ihFirst hform.1 h
      cases hleft
      obtain ⟨left', more', hrest, hlast, hmore⟩ := ihRest hform.2 h
      exact ⟨_, _, .altRest hfirst hrest, hlast, List.rel_append hnotes hmore⟩
  | starDone _ ih =>
      simp only [Form.wellFormed, Bool.and_eq_true] at hform
      obtain ⟨_, notes', hbody, hleft, hnotes⟩ := ih hform.1 h
      cases hleft
      exact ⟨_, _, .starDone hbody, .some h, hnotes⟩
  | starNext _ _ _ ih ihNext =>
      have hparts := hform
      simp only [Form.wellFormed, Bool.and_eq_true, Bool.not_eq_true'] at hparts
      obtain ⟨_, notes', hbody, hleft, hnotes⟩ := ih hparts.1 h
      cases hleft with
      | some hmiddle =>
          obtain ⟨_, more', hmoreWalk, hlast, hmore⟩ := ihNext hform hmiddle
          cases hlast with
          | some hlast =>
              have hmoves := hbody.length_lt hparts.1 hparts.2
              exact ⟨_, _, .starNext hbody hmoves hmoreWalk, .some hlast,
                List.rel_append hnotes hmore⟩
  | opt _ ih =>
      simp only [Form.wellFormed, Bool.and_eq_true] at hform
      obtain ⟨_, notes', hbody, hleft, hnotes⟩ := ih hform.1 h
      cases hleft with
      | some hlast => exact ⟨_, _, .opt hbody, .some hlast, hnotes⟩
  | optAbsent _ ih =>
      simp only [Form.wellFormed, Bool.and_eq_true] at hform
      obtain ⟨_, notes', hbody, hleft, hnotes⟩ := ih hform.1 h
      cases hleft
      exact ⟨_, _, .optAbsent hbody, .some h, hnotes⟩
  | ref hfind _ ih =>
      obtain ⟨left', notes', hbody, hsame⟩ := ih (Form.wellFormed_named hfind).1 h
      exact ⟨_, _, .ref hfind hbody, hsame⟩

end Walks

/-! ## Furthest failures -/

/-- Where an offset of a text is when `count` characters are put in at a place. -/
def movedOn (place count pos : Nat) : Nat := if pos < place then pos else pos + count

/-- States in which the same failures are the furthest; as long as there are none, the offset is
the start of either text. -/
structure SameFurthest (place count : Nat) (s s' : State Entry) : Prop where
  loud : s.quiet = 0 ∧ s'.quiet = 0
  expected : s'.expected = s.expected
  furthest : s'.furthest = movedOn place count s.furthest ∨
    s.expected = [] ∧ s.furthest = 0 ∧ s'.furthest = 0

namespace SameFurthest

variable {place count : Nat} {s s' : State Entry}

theorem initial (place count : Nat) (x y : List Char) :
    SameFurthest place count (State.initial x) (State.initial y) :=
  ⟨⟨rfl, rfl⟩, rfl, .inr ⟨rfl, rfl, rfl⟩⟩

theorem failAt (h : SameFurthest place count s s') (label : String) (pos : Nat) :
    SameFurthest place count (s.failAt label pos)
      (s'.failAt label (movedOn place count pos)) := by
  have hquiet : ¬s.quiet ≠ 0 := fun hne => hne h.loud.1
  have hquiet' : ¬s'.quiet ≠ 0 := fun hne => hne h.loud.2
  rw [State.failAt, State.failAt, if_neg hquiet, if_neg hquiet']
  rcases h.furthest with hmoved | ⟨hnone, hzero, hzero'⟩
  · -- offsets keep their order
    have hlt : s'.furthest < movedOn place count pos ↔ s.furthest < pos := by
      rw [hmoved, movedOn, movedOn]
      split <;> split <;> omega
    have heq : movedOn place count pos = s'.furthest ↔ pos = s.furthest := by
      rw [hmoved, movedOn, movedOn]
      split <;> split <;> omega
    by_cases hfurther : s.furthest < pos
    · rw [if_pos hfurther, if_pos (hlt.2 hfurther)]
      exact ⟨h.loud, rfl, .inl rfl⟩
    · rw [if_neg hfurther, if_neg (mt hlt.1 hfurther)]
      by_cases hsame : pos = s.furthest
      · rw [if_pos hsame, if_pos (heq.2 hsame)]
        exact ⟨h.loud, congrArg (List.insert label) h.expected, .inl hmoved⟩
      · rw [if_neg hsame, if_neg (mt heq.1 hsame)]
        exact ⟨h.loud, h.expected, .inl hmoved⟩
  · -- the first failure is the furthest one, wherever it is
    have hnone' : s'.expected = [] := h.expected.trans hnone
    rw [hzero, hzero', hnone, hnone']
    rcases Nat.eq_zero_or_pos pos with rfl | hpos
    · rw [if_neg (Nat.lt_irrefl 0), if_pos rfl]
      rcases Nat.eq_zero_or_pos (movedOn place count 0) with hstart | hstart
      · rw [hstart, if_neg (Nat.lt_irrefl 0), if_pos rfl]
        exact ⟨h.loud, rfl, .inl hstart.symm⟩
      · rw [if_pos hstart]
        exact ⟨h.loud, rfl, .inl rfl⟩
    · have hmore : 0 < movedOn place count pos := by
        rw [movedOn]
        split <;> omega
      rw [if_pos hpos, if_pos hmore]
      exact ⟨h.loud, rfl, .inl rfl⟩

/-- The offset of what is ahead in the one text and in the other. -/
theorem movedOn_ahead (place : Nat) {n n' : Nat}
    (h : n' = if n ≤ b.length then n else n + w.length) (hn : n ≤ place + b.length) :
    movedOn place w.length (place + b.length - n) = place + w.length + b.length - n' := by
  rw [h, movedOn]
  split <;> split <;> omega

theorem noting {total total' : Nat} {notes notes' : List Note}
    (h : SameFurthest place w.length s s') (hnotes : List.Forall₂ (SameNote w b) notes notes')
    (hwithin : ∀ note ∈ notes, note.ahead ≤ total) (htotal : total = place + b.length)
    (htotal' : total' = place + w.length + b.length) :
    SameFurthest place w.length (s.noting total notes) (s'.noting total' notes') := by
  rw [State.noting, State.noting]
  induction hnotes generalizing s s' with
  | nil => exact h
  | @cons note note' notes notes' hsame _ ih =>
      have hplace := movedOn_ahead place hsame.ahead
        (htotal ▸ hwithin note (List.mem_cons_self ..))
      rw [← htotal, ← htotal'] at hplace
      have hnext := h.failAt note.terminal.label (total - note.ahead)
      rw [hplace] at hnext
      rw [List.foldl_cons, List.foldl_cons, hsame.terminal]
      exact ih hnext fun other hother => hwithin other (List.mem_cons_of_mem _ hother)

end SameFurthest

/-! ## What is expected -/

theorem State.expected_rejection {V : Type} (s : State V) (text : List Char)
    (source : Option String) : (s.rejection text source).expected = sortLabels s.expected := rfl

/-- A match that shadows one that fails is rejected with the same expectations. -/
theorem Shadows.exists_rejected {V E : Type} {rules other : Rules V E} {rule rule' : Rule V E}
    {text : List Char} (source : Option String)
    (h : Shadows (rules.run limit rule (State.initial text))
      (other.run limit rule' (State.initial text)))
    (hfailed : (rules.run limit rule (State.initial text)).outcome = .failed) :
    ∃ rejection : Rejection,
      other.matchText limit rule' text source = .error (.rejected rejection) ∧
      rejection.expected =
        sortLabels (rules.run limit rule (State.initial text)).state.expected := by
  have hsame := h.of_failed hfailed
  refine ⟨_, Rules.matchText_of_failed ((congrArg Result.outcome hsame).trans hfailed), ?_⟩
  rw [State.expected_rejection, hsame]
  rfl

section Failed

variable {options : BuildOptions} {text : String} {cs last : List Char} {notes : List Note}
  (hcs : (stripComments text).toList = cs)
  (hfailed : Reader.document options limit cs = .failed)

include hfailed

/-- A text that is rejected is walked through. -/
theorem exists_walk_of_failed :
    ∃ last notes, Walks limit Form.body (skipLayout cs) (some last) notes := by
  have hbare := (shadows_documentResult options cs).of_failed (outcome_of_failed hfailed)
  refine exists_walk_of_outcome ?_
  rw [hbare]
  show (documentResult limit options cs).outcome ≠ _
  rw [outcome_of_failed hfailed]
  exact nofun

include hcs

/-- The expectations that a text is rejected with are those that a walk notes. -/
theorem exists_rejection_of_walk (source : Option String)
    (hwalk : Walks limit Form.body (skipLayout cs) (some last) notes) :
    ∃ rejection : Rejection,
      Document.ofText limit options text source = .error (.source (.rejected rejection)) ∧
      rejection.expected = sortLabels (((State.initial cs).noting cs.length notes).failAt
        "end of input" (cs.length - last.length)).expected := by
  have hwalked := recognize_of_walks hcs hwalk
  rw [recognize, hcs] at hwalked
  subst hcs
  obtain ⟨rejection, hbare, hexpected⟩ :=
    (shadows_documentResult options _).exists_rejected none (outcome_of_failed hfailed)
  rw [hwalked] at hbare
  split at hbare
  · cases hbare
  · obtain rfl := MatchError.rejected.inj (Except.error.inj hbare)
    rw [State.expected_rejection] at hexpected
    exact ⟨_, ofText_of_failed (outcome_of_failed hfailed), hexpected.symm⟩

end Failed

/-! ## Readings -/

/-- Two readings that come to the same end: the same document, a rejection with the same
expectations, nesting that is too deep, or an integer that is too long. Places may differ. -/
inductive ReadsSame : Except Failure Document → Except Failure Document → Prop
  | read (d : Document) : ReadsSame (.ok d) (.ok d)
  | rejected {rejection rejection' : Rejection} (h : rejection.expected = rejection'.expected) :
      ReadsSame (.error (.source (.rejected rejection))) (.error (.source (.rejected rejection')))
  | tooDeep (place place' : Place) :
      ReadsSame (.error (.source (.tooDeep place))) (.error (.source (.tooDeep place')))
  | tooLong (digits : Nat) : ReadsSame (.error (.stopped (.raised (.integerTooLong digits))))
      (.error (.stopped (.raised (.integerTooLong digits))))

section Insert

variable {a b w last : List Char} {notes : List Note} (hw : ∀ c ∈ w, isLayout c = true)
  (hstart : Parted w b (skipLayout (a ++ b)) (skipLayout (a ++ (w ++ b))))
  (hwalk : Walks limit Form.body (skipLayout (a ++ b)) (some last) notes)

include hw hstart hwalk

/-- Where a walk goes through a text, another one goes through the text with the layout, and the
same failures are the furthest. -/
theorem exists_walk_insert :
    ∃ last' notes',
      Walks limit Form.body (skipLayout (a ++ (w ++ b))) (some last') notes' ∧
      SameFurthest a.length w.length
        (((State.initial (a ++ b)).noting (a ++ b).length notes).failAt "end of input"
          ((a ++ b).length - last.length))
        (((State.initial (a ++ (w ++ b))).noting (a ++ (w ++ b)).length notes').failAt
          "end of input" ((a ++ (w ++ b)).length - last'.length)) := by
  obtain ⟨_, notes', hother, hleft, hnotes⟩ :=
    hwalk.parted hw Form.sound_body.wellFormed hstart
  cases hleft with
  | @some _ last' hlast =>
      have hlength : (a ++ b).length = a.length + b.length := List.length_append
      have hlength' : (a ++ (w ++ b)).length = a.length + w.length + b.length := by
        rw [List.length_append, List.length_append, Nat.add_assoc]
      have hskip : (skipLayout (a ++ b)).length ≤ (a ++ b).length :=
        (List.dropWhile_suffix _).length_le
      have hwithin := hwalk.within
      have hnoted := (SameFurthest.initial a.length w.length (a ++ b) (a ++ (w ++ b))).noting hnotes
        (fun note hnote => Nat.le_trans (hwithin.notes note hnote) hskip) hlength hlength'
      have hend := SameFurthest.movedOn_ahead a.length hlast.length_eq
        (hlength ▸ Nat.le_trans (hwithin.left last rfl) hskip)
      rw [← hlength, ← hlength'] at hend
      refine ⟨last', notes', hother, ?_⟩
      rw [← hend]
      exact hnoted.failAt _ _

end Insert

/-- Layout does not matter: it may be put into a text without comments, outside of strings, where
the text begins or ends or where there is layout on one side, and the text is read as before. -/
theorem reads_same_of_layout (options : BuildOptions) (source : Option String) (a b w : String)
    (hcomments : stripComments (a ++ b) = a ++ b)
    (hstrings : OutsideStrings (a ++ b).toList a.toList.length)
    (hplace : (∀ c ∈ a.toList.getLast?, isLayout c = true) ∨
      ∀ c ∈ b.toList.head?, isLayout c = true)
    (hw : ∀ c ∈ w.toList, isLayout c = true) :
    ReadsSame (Document.ofText limit options (a ++ b) source)
      (Document.ofText limit options (a ++ w ++ b) source) := by
  have hapart : Apart a.toList b.toList :=
    hplace.imp (fun h c hc => isBreak_of_isLayout (h c hc))
      fun h c hc => isBreak_of_isLayout (h c hc)
  have hx : (stripComments (a ++ b)).toList = a.toList ++ b.toList := by
    rw [hcomments, String.toList_append]
  have hy : (stripComments (a ++ w ++ b)).toList = a.toList ++ (w.toList ++ b.toList) := by
    have hstrip := hx
    rw [stripComments, String.toList_ofList, String.toList_append] at hstrip
    rw [stripComments, String.toList_ofList, String.toList_append, String.toList_append,
      List.append_assoc]
    exact Comment.strip_insert hw hstrip
  rw [String.toList_append] at hstrings
  have halike := document_insert hw hapart hstrings options limit
  have hstart : Parted w.toList b.toList (skipLayout (a.toList ++ b.toList))
      (skipLayout (a.toList ++ (w.toList ++ b.toList))) :=
    .skip hw hapart (.of_outsideStrings hstrings)
  generalize hread : Reader.document options limit (a.toList ++ b.toList) = r at halike
  generalize hread' : Reader.document options limit
    (a.toList ++ (w.toList ++ b.toList)) = r' at halike
  cases halike with
  | failed =>
      obtain ⟨last, notes, hwalk⟩ := exists_walk_of_failed hread
      obtain ⟨last', notes', hwalk', hsame⟩ := exists_walk_insert hw hstart hwalk
      obtain ⟨rejection, hreading, hexpected⟩ := exists_rejection_of_walk hx hread source hwalk
      obtain ⟨rejection', hreading', hexpected'⟩ :=
        exists_rejection_of_walk hy hread' source hwalk'
      rw [hreading, hreading']
      exact .rejected (by rw [hexpected, hexpected', hsame.expected])
  | stopped why =>
      have hends := outcome_of_stopped hread
      have hends' := outcome_of_stopped hread'
      rw [← hx] at hends
      rw [← hy] at hends'
      rcases stop_of_document hread with rfl | ⟨digits, rfl⟩
      · rw [ofText_of_tooDeep hends, ofText_of_tooDeep hends']
        exact .tooDeep _ _
      · rw [ofText_of_tooLong hends, ofText_of_tooLong hends']
        exact .tooLong digits
  | @read d rest rest' =>
      obtain rfl := document_rest hread
      obtain rfl := document_rest hread'
      rw [ofText_eq_ok_iff.2 (hx ▸ hread), ofText_eq_ok_iff.2 (hy ▸ hread')]
      exact .read d

theorem reads_same_of_layout_sample :
    stripComments ("enum Color" ++ " \x7b Red, Blue \x7d") =
        "enum Color" ++ " \x7b Red, Blue \x7d" ∧
      OutsideStrings ("enum Color" ++ " \x7b Red, Blue \x7d").toList "enum Color".toList.length ∧
      ReadsSame (Document.ofText 60 { } ("enum Color" ++ " \x7b Red, Blue \x7d") none)
        (Document.ofText 60 { } ("enum Color" ++ "\n\t" ++ " \x7b Red, Blue \x7d") none) := by
  have hunopened : ∀ c ∈ ("enum Color" ++ " \x7b Red, Blue \x7d").toList,
      Comment.isOpener c = false := by decide
  have hcomments : stripComments ("enum Color" ++ " \x7b Red, Blue \x7d") =
      "enum Color" ++ " \x7b Red, Blue \x7d" := by
    rw [stripComments, Comment.strip_of_plain (.of_forall hunopened), String.ofList_toList]
  have hstrings := outsideStrings_of_unopened hunopened "enum Color".toList.length
  have hplace : ∀ c ∈ " \x7b Red, Blue \x7d".toList.head?, isLayout c = true := by
    intro c hc
    obtain rfl : ' ' = c := Option.some.inj hc
    rfl
  exact ⟨hcomments, hstrings, reads_same_of_layout { } none _ _ "\n\t" hcomments hstrings
    (.inr hplace) (by decide)⟩

end ThriftSchema
