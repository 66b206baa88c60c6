import ThriftSchema.Rule.Run

set_option autoImplicit false

/-! # What an abandoned alternative leaves behind

A rule that fails leaves cursor, stack and frame as they were, whatever its parts did before
one of them failed. Only a sequence and an absence go back by themselves, and a scope puts its
frame back; all other rules rely on their parts.

A match is bounded: references nest down to a depth, and a repetition has a number of rounds. An
action may move the cursor back, so that a repetition could go on for any number of rounds. So
the law is about `Ends`, which knows no bounds: there a match may be broken off at any reference
and in front of any round, and need not be. Every run of the matcher is one of these.

* `Ends`: how a rule may end.
* `Rule.ends_run`: a run of the matcher is one of the ways.
* `Result.Undoes`: what holds of a result, with one lemma for each way of going on.
* `rules_backtrack`: failure undoes everything, quiet parts are closed, and what is known of the
  furthest failure only grows.
-/

namespace ThriftSchema

variable {V E : Type}

/-! ## Runs without bounds -/

/-- A rule that has no parts and refers to nothing. -/
def Rule.IsAtom : Rule V E → Prop
  | literal _ | keyword _ | pattern _ _ | done | never | finish | setSlot _ _ | action _ _
  | probe _ => True
  | _ => False

/-- What an absence makes of the result of its rule: it goes back to the mark of `s`, and
matches where the rule failed. -/
def Result.absence (r : Result V E) (s : State V) : Result V E :=
  match r.outcome with
  | .matched => ⟨r.state.reset s.mark, .failed⟩
  | .failed => ⟨r.state.reset s.mark, .matched⟩
  | .stopped _ => r

/-- A rule on a state may end with a result. -/
inductive Ends (rules : Rules V E) : Rule V E → State V → Result V E → Prop
  | atom {rule : Rule V E} {s : State V} (h : rule.IsAtom) :
      Ends rules rule s (rule.run (rules.call 0) s)
  | seq {first rest : Rule V E} {s : State V} {r : Result V E} {next : State V → Result V E}
      (hfirst : Ends rules first s r)
      (hrest : r.outcome = .matched → Ends rules rest r.state (next r.state)) :
      Ends rules (.seq first rest) s
        ((r.andThen next).orElse fun t => ⟨t.reset s.mark, .failed⟩)
  | alt {first rest : Rule V E} {s : State V} {r : Result V E} {next : State V → Result V E}
      (hfirst : Ends rules first s r)
      (hrest : r.outcome = .failed → Ends rules rest r.state (next r.state)) :
      Ends rules (.alt first rest) s (r.orElse next)
  | starDone {rule : Rule V E} {s : State V} {r : Result V E} (h : Ends rules rule s r)
      (hfailed : r.outcome = .failed) : Ends rules (.star rule) s ⟨r.state, .matched⟩
  | starStalled {rule : Rule V E} {s : State V} {r : Result V E} (h : Ends rules rule s r)
      (hmatched : r.outcome = .matched) (hpos : r.state.pos = s.pos) :
      Ends rules (.star rule) s r
  | starBroken {rule : Rule V E} {s : State V} {r : Result V E} {stop : Stop E}
      (h : Ends rules rule s r) (hstop : r.outcome = .stopped stop) : Ends rules (.star rule) s r
  | starNext {rule : Rule V E} {s : State V} {r last : Result V E} (h : Ends rules rule s r)
      (hmatched : r.outcome = .matched) (hpos : r.state.pos ≠ s.pos)
      (hrest : Ends rules (.star rule) r.state last) : Ends rules (.star rule) s last
  | starEndless {rule : Rule V E} {s : State V} :
      Ends rules (.star rule) s ⟨s, .stopped .endless⟩
  | plus {rule : Rule V E} {s : State V} {r : Result V E} {next : State V → Result V E}
      (hfirst : Ends rules rule s r)
      (hrest : r.outcome = .matched → Ends rules (.star rule) r.state (next r.state)) :
      Ends rules (.plus rule) s (r.andThen next)
  | opt {rule : Rule V E} {s : State V} {r : Result V E} (h : Ends rules rule s r) :
      Ends rules (.opt rule) s (r.orElse fun t => ⟨t, .matched⟩)
  | absent {rule : Rule V E} {s : State V} {r : Result V E} (h : Ends rules rule s.hush r) :
      Ends rules (.absent rule) s ((r.onState State.unhush).absence s)
  | refTooDeep {name : String} {s : State V} :
      Ends rules (.ref name) s ⟨s, .stopped .nestingTooDeep⟩
  | refUndefined {name : String} {s : State V} (hfind : rules.find? name = none) :
      Ends rules (.ref name) s ⟨s, .stopped (.undefinedRule name)⟩
  | ref {name : String} {rule : Rule V E} {s : State V} {r : Result V E}
      (hfind : rules.find? name = some rule) (h : Ends rules rule s r) :
      Ends rules (.ref name) s r
  | token {label : String} {rule : Rule V E} {s : State V} {r : Result V E}
      (h : Ends rules rule s.hush r) :
      Ends rules (.token label rule) s
        ((r.onState State.unhush).orElse fun t => ⟨t.failAt label s.pos, .failed⟩)
  | leaf {build : String → Except E V} {rule : Rule V E} {s : State V} {r : Result V E}
      (h : Ends rules rule s r) :
      Ends rules (.leaf build rule) s (r.andThen fun t => t.pushBuilt build s.cursor)
  | capture {slot : String} {rule : Rule V E} {s : State V} {r : Result V E}
      (h : Ends rules rule s r) :
      Ends rules (.capture slot rule) s (r.andThen fun t => t.captureTop slot)
  | scope {rule : Rule V E} {s : State V} {r : Result V E}
      (h : Ends rules rule { s with frame := [] } r) :
      Ends rules (.scope rule) s (r.onState fun t => { t with frame := s.frame })

/-- Rounds up to a bound are among the ways a repetition may end. -/
theorem ends_repeatStep {rules : Rules V E} {rule : Rule V E}
    {call : String → State V → Result V E}
    (h : ∀ s, Ends rules rule s (rule.run call s)) (bound : List Char) (s : State V) :
    Ends rules (.star rule) s (repeatStep (rule.run call) bound s) := by
  induction bound generalizing s with
  | nil => exact .starEndless
  | cons c bound ih =>
      rw [repeatStep]
      cases hround : (rule.run call s).outcome with
      | matched =>
          dsimp only
          split
          · next hpos => exact .starStalled (h s) hround hpos
          · next hpos => exact .starNext (h s) hround hpos (ih _)
      | failed => exact .starDone (h s) hround
      | stopped stop => exact .starBroken (h s) hround

theorem Rule.ends_run_of_calls {rules : Rules V E} {call : String → State V → Result V E}
    (hcall : ∀ name s, Ends rules (.ref name) s (call name s)) (rule : Rule V E) (s : State V) :
    Ends rules rule s (rule.run call s) := by
  induction rule generalizing s with
  | literal | keyword | pattern | done | never | finish | setSlot | action | probe =>
      exact .atom trivial
  | seq first rest ihFirst ihRest => exact .seq (ihFirst s) fun _ => ihRest _
  | alt first rest ihFirst ihRest => exact .alt (ihFirst s) fun _ => ihRest _
  | star rule ih => exact ends_repeatStep ih _ s
  | plus rule ih =>
      rw [Rule.run]
      exact .plus (ih s) fun _ => ends_repeatStep ih _ _
  | opt rule ih => exact .opt (ih s)
  | absent rule ih => exact .absent (ih s.hush)
  | ref name => exact hcall name s
  | token label rule ih => exact .token (ih s.hush)
  | leaf build rule ih => exact .leaf (ih s)
  | capture slot rule ih => exact .capture (ih s)
  | scope rule ih => exact .scope (ih _)

/-- A run of the matcher is one of the ways in which its rule may end, whatever the depth. -/
theorem Rule.ends_run (rules : Rules V E) (depth : Nat) (rule : Rule V E) (s : State V) :
    Ends rules rule s (rule.run (rules.call depth) s) := by
  refine Rule.ends_run_of_calls (fun name s => ?_) rule s
  induction depth generalizing name s with
  | zero => exact .refTooDeep
  | succ depth ih =>
      rw [Rules.call]
      cases hfind : rules.find? name with
      | none => exact .refUndefined hfind
      | some rule => exact .ref hfind (Rule.ends_run_of_calls ih rule s)

/-! ## What a failure is noted in -/

namespace State

theorem quiet_failAt (s : State V) (label : String) (pos : Nat) :
    (s.failAt label pos).quiet = s.quiet := by
  unfold failAt
  split
  · rfl
  · split
    · rfl
    · split <;> rfl

theorem furthest_le_failAt (s : State V) (label : String) (pos : Nat) :
    s.furthest ≤ (s.failAt label pos).furthest := by
  unfold failAt
  split
  · exact Nat.le_refl _
  · split
    · next hfurther => exact Nat.le_of_lt hfurther
    · split <;> exact Nat.le_refl _

end State

/-! ## Results -/

/-- A result from a state: if it is a failure then cursor, stack and frame are as they were; in
any case as many quiet parts are open as before, and the furthest failure is no nearer. -/
structure Result.Undoes (s : State V) (r : Result V E) : Prop where
  mark : r.outcome = .failed → r.state.mark = s.mark
  quiet : r.state.quiet = s.quiet
  furthest : s.furthest ≤ r.state.furthest

namespace Result.Undoes

variable {s t : State V} {r last : Result V E} {next : State V → Result V E}

/-- What is no failure may change cursor, stack and frame. -/
theorem goes {outcome : Outcome E} (h : outcome ≠ .failed) (hquiet : t.quiet = s.quiet)
    (hfurthest : t.furthest = s.furthest) : Undoes s ⟨t, outcome⟩ where
  mark hfailed := absurd hfailed h
  quiet := hquiet
  furthest := Nat.le_of_eq hfurthest.symm

theorem matched (hquiet : t.quiet = s.quiet) (hfurthest : t.furthest = s.furthest) :
    Undoes s (⟨t, .matched⟩ : Result V E) := goes nofun hquiet hfurthest

theorem stopped {stop : Stop E} (hquiet : t.quiet = s.quiet)
    (hfurthest : t.furthest = s.furthest) : Undoes s ⟨t, .stopped stop⟩ :=
  goes nofun hquiet hfurthest

theorem here (outcome : Outcome E) : Undoes s ⟨s, outcome⟩ where
  mark _ := rfl
  quiet := rfl
  furthest := Nat.le_refl _

/-- A failure that is noted. -/
theorem noted (s : State V) (label : String) (pos : Nat) :
    Undoes s (⟨s.failAt label pos, .failed⟩ : Result V E) where
  mark _ := s.toMark_failAt label pos
  quiet := s.quiet_failAt label pos
  furthest := s.furthest_le_failAt label pos

/-- What follows a result on its own state, where a failure is gone back from. -/
theorem trans (h : Undoes s r) (hlast : Undoes r.state last)
    (hmark : last.outcome = .failed → last.state.mark = s.mark) : Undoes s last where
  mark := hmark
  quiet := hlast.quiet.trans h.quiet
  furthest := Nat.le_trans h.furthest hlast.furthest

/-- Going on behind a match with something that does not fail. -/
theorem andThen (h : Undoes s r) (hnext : r.outcome = .matched → Undoes r.state (next r.state))
    (hgoes : r.outcome = .matched → (next r.state).outcome ≠ .failed) :
    Undoes s (r.andThen next) := by
  unfold Result.andThen
  split
  · next hmatched =>
    exact h.trans (hnext hmatched) fun hfailed => absurd hfailed (hgoes hmatched)
  · exact h

/-- Going on behind a failure, which has left everything as it was. -/
theorem orElse (h : Undoes s r) (hnext : r.outcome = .failed → Undoes r.state (next r.state)) :
    Undoes s (r.orElse next) := by
  unfold Result.orElse
  split
  · next hfailed =>
    have hrest := hnext hfailed
    exact h.trans hrest fun hagain => (hrest.mark hagain).trans (h.mark hfailed)
  · exact h

/-- A sequence goes back by itself: its second rule fails where the first one has been. -/
theorem seq (h : Undoes s r) (hnext : r.outcome = .matched → Undoes r.state (next r.state)) :
    Undoes s ((r.andThen next).orElse fun t => ⟨t.reset s.mark, .failed⟩) := by
  have hback : ∀ last : Result V E, last.state.quiet = s.quiet →
      s.furthest ≤ last.state.furthest →
      Undoes s (last.orElse fun t => ⟨t.reset s.mark, .failed⟩) := by
    intro last hquiet hfurthest
    unfold Result.orElse
    split
    · exact ⟨fun _ => rfl, hquiet, hfurthest⟩
    · next hother => exact ⟨fun hfailed => absurd hfailed hother, hquiet, hfurthest⟩
  unfold Result.andThen
  split
  · next hmatched =>
    have hrest := hnext hmatched
    exact hback _ (hrest.quiet.trans h.quiet) (Nat.le_trans h.furthest hrest.furthest)
  · exact hback r h.quiet h.furthest

/-- Closing the quiet part that the rule ran in. -/
theorem unhush (h : Undoes s.hush r) : Undoes s (r.onState State.unhush) where
  mark hfailed := h.mark hfailed
  quiet := by
    show r.state.quiet - 1 = s.quiet
    rw [h.quiet]
    exact Nat.add_sub_cancel ..
  furthest := h.furthest

/-- Putting the frame back that the rule was kept from. -/
theorem unframe (h : Undoes { s with frame := [] } r) :
    Undoes s (r.onState fun t => { t with frame := s.frame }) where
  mark hfailed := by
    have hmark := h.mark hfailed
    show ({ r.state.mark with frame := s.frame } : Mark V) = s.mark
    rw [hmark]
    rfl
  quiet := h.quiet
  furthest := h.furthest

theorem absence (h : Undoes s r) : Undoes s (r.absence s) := by
  unfold Result.absence
  split
  · exact ⟨fun _ => rfl, h.quiet, h.furthest⟩
  · exact ⟨fun _ => rfl, h.quiet, h.furthest⟩
  · exact h

theorem pushBuilt (s : State V) (build : String → Except E V) (first : Cursor) :
    Undoes s (s.pushBuilt build first) := by
  unfold State.pushBuilt
  split
  · exact matched rfl rfl
  · exact here _

theorem captureTop (s : State V) (slot : String) :
    Undoes s (s.captureTop slot : Result V E) := by
  unfold State.captureTop
  split
  · exact here _
  · exact matched rfl rfl

theorem act (s : State V) (action : Action V E Unit) : Undoes s (s.act action) := by
  unfold State.act
  split
  · exact matched rfl rfl
  · exact stopped rfl rfl

end Result.Undoes

/-! ## Rules -/

theorem State.outcome_pushBuilt_ne (s : State V) (build : String → Except E V) (first : Cursor) :
    (s.pushBuilt build first).outcome ≠ .failed := by
  unfold State.pushBuilt
  split <;> exact nofun

theorem State.outcome_captureTop_ne (s : State V) (slot : String) :
    (s.captureTop slot : Result V E).outcome ≠ .failed := by
  unfold State.captureTop
  split <;> exact nofun

theorem Rule.IsAtom.undoes {rule : Rule V E} (h : rule.IsAtom)
    (call : String → State V → Result V E) (s : State V) : (rule.run call s).Undoes s := by
  cases rule with
  | literal text =>
      rw [Rule.run]
      split
      · exact .matched rfl rfl
      · exact .noted s _ _
  | keyword word =>
      rw [Rule.run]
      split
      · exact .matched rfl rfl
      · exact .noted s _ _
  | pattern label p =>
      rw [Rule.run]
      split
      · exact .matched rfl rfl
      · exact .noted s _ _
  | finish =>
      rw [Rule.run]
      split
      · exact .here _
      · exact .noted s _ _
  | done | never => exact .here _
  | setSlot slot value => exact .matched rfl rfl
  | action name run => exact .act s run
  | probe name => exact .matched rfl rfl
  | seq | alt | star | plus | opt | absent | ref | token | leaf | capture | scope => exact h.elim

/-- A repetition does not fail. -/
theorem Ends.star_ne_failed {rules : Rules V E} {rule : Rule V E} {s : State V} {r : Result V E}
    (h : Ends rules (.star rule) s r) : r.outcome ≠ .failed := by
  generalize hstar : Rule.star rule = whole at h
  induction h with
  | starDone => exact nofun
  | starStalled h hmatched hpos =>
      rw [hmatched]
      exact nofun
  | starBroken h hstop =>
      rw [hstop]
      exact nofun
  | starNext h hmatched hpos hrest ih ihRest => exact ihRest hstar
  | starEndless => exact nofun
  | atom h =>
      subst hstar
      exact h.elim
  | _ => cases hstar

/-- However a rule ends, a failure has undone everything. -/
theorem Ends.undoes {rules : Rules V E} {rule : Rule V E} {s : State V} {r : Result V E}
    (h : Ends rules rule s r) : r.Undoes s := by
  induction h with
  | atom h => exact h.undoes _ _
  | seq hfirst hrest ihFirst ihRest => exact ihFirst.seq ihRest
  | alt hfirst hrest ihFirst ihRest => exact ihFirst.orElse ihRest
  -- a repetition ends with its last round, and does not fail
  | starDone h hfailed ih => exact ⟨nofun, ih.quiet, ih.furthest⟩
  | starStalled h hmatched hpos ih => exact ih
  | starBroken h hstop ih => exact ih
  | starNext h hmatched hpos hrest ih ihRest =>
      exact ih.trans ihRest fun hfailed => absurd hfailed hrest.star_ne_failed
  | starEndless => exact .here _
  | plus hfirst hrest ihFirst ihRest =>
      exact ihFirst.andThen ihRest fun hmatched => (hrest hmatched).star_ne_failed
  | opt h ih => exact ih.orElse fun _ => .here _
  | absent h ih => exact ih.unhush.absence
  | refTooDeep => exact .here _
  | refUndefined hfind => exact .here _
  | ref hfind h ih => exact ih
  | token h ih => exact ih.unhush.orElse fun _ => .noted _ _ _
  | leaf h ih =>
      exact ih.andThen (fun _ => .pushBuilt _ _ _) fun _ => State.outcome_pushBuilt_ne _ _ _
  | capture h ih =>
      exact ih.andThen (fun _ => .captureTop _ _) fun _ => State.outcome_captureTop_ne _ _
  | scope h ih => exact ih.unframe

/-- An absence goes back, whether its rule matched or failed. -/
theorem Ends.mark_absent {rules : Rules V E} {rule : Rule V E} {s : State V} {r : Result V E}
    (h : Ends rules (.absent rule) s r) (hends : ∀ stop, r.outcome ≠ .stopped stop) :
    r.state.mark = s.mark := by
  cases h with
  | atom h => exact h.elim
  | absent h =>
      unfold Result.absence at hends ⊢
      split at hends
      · rfl
      · rfl
      · next stop hstop => exact absurd hstop (hends stop)

/-- **Backtracking is exact.** However the rules may refer to each other, whatever their leaves
build and whatever their actions do to cursor, stack and frame: a rule that fails leaves cursor,
stack and frame as they were; an absence does so whether it matches or fails; and in any case, also
where the match is broken off, as many quiet parts are open as before, and the furthest failure
is no nearer. This holds of every way in which a rule may end, and a run of the matcher is one
of them. -/
theorem rules_backtrack (rules : Rules V E) (rule : Rule V E) (s : State V) :
    (∀ depth, Ends rules rule s (rule.run (rules.call depth) s)) ∧
    ∀ r, Ends rules rule s r →
      (r.outcome = .failed → r.state.mark = s.mark) ∧
      (∀ part, rule = .absent part → (∀ stop, r.outcome ≠ .stopped stop) →
        r.state.mark = s.mark) ∧
      r.state.quiet = s.quiet ∧
      s.furthest ≤ r.state.furthest := by
  refine ⟨fun depth => Rule.ends_run rules depth rule s, fun r h => ?_⟩
  have hundoes := h.undoes
  refine ⟨hundoes.mark, ?_, hundoes.quiet, hundoes.furthest⟩
  rintro part rfl hends
  exact h.mark_absent hends

/-- A name is built, captured and followed by an action that empties the frame and moves the
cursor to the end; the mark of exclamation behind it is missing. -/
def backtrackSample : Rule String String :=
  .seq (.capture "name" (.leaf .ok (.keyword "a")))
    (.seq (.action "skip" (modify fun m => { m with cursor := ⟨9, []⟩, frame := [] }))
      (.literal "!"))

theorem rules_backtrack_sample :
    (backtrackSample.run (Rules.empty.call 1) (.initial "a b".toList)).outcome = .failed ∧
      (backtrackSample.run (Rules.empty.call 1) (.initial "a b".toList)).state.mark =
        (State.initial "a b".toList).mark := by
  have hfailed :
      (backtrackSample.run (Rules.empty.call 1) (.initial "a b".toList)).outcome = .failed := by
    rfl
  have hlaw := rules_backtrack Rules.empty backtrackSample (.initial "a b".toList)
  exact ⟨hfailed, (hlaw.2 _ (hlaw.1 1)).1 hfailed⟩

end ThriftSchema
