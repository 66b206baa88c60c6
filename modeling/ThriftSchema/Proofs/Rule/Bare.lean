import ThriftSchema.Proofs.Rule.Invocation

set_option autoImplicit false

/-! # Rules without what they build

A rule and the bare rule go through a text together: they come to the same places, fail at them
in the same way and note the same expectations. Only where the rule breaks off for the sake of
what it builds is there nothing to say of the bare one.

* `State.bare`: a state without stack and frame.
* `Shadows`: a result of the bare rule that goes with a result of the rule.
* `Rule.Stays`: a part that, if it is an action, leaves the cursor.
* `Rule.run_bare`: every rule is shadowed by the bare one.
* `Reached.bare`: every place that a rule comes to, the bare one comes to.
-/

namespace ThriftSchema

variable {V E : Type}

/-! ## Actions -/

/-- An action that leaves the cursor, and does not break off for the depth of references. -/
structure Action.Stays (action : Action V E Unit) : Prop where
  cursor : ∀ m, (action.runOn m).2.cursor = m.cursor
  shallow : ∀ m, (action.runOn m).1 ≠ .error .nestingTooDeep

/-- A part of a rule that stays where it is if it is an action. -/
def Rule.Stays : Rule V E → Prop
  | action _ run => run.Stays
  | _ => True

/-! ## States and results -/

/-- A state without what is built in it. -/
def State.bare (s : State V) : State V := { s with stack := [], frame := [], trace := [] }

namespace State

theorem bare_failAt (s : State V) (label : String) (pos : Nat) :
    (s.failAt label pos).bare = s.bare.failAt label pos := by
  unfold failAt
  show (if s.quiet ≠ 0 then _ else _ : State V).bare = if s.quiet ≠ 0 then _ else _
  split
  · rfl
  · show (if s.furthest < pos then _ else _ : State V).bare = if s.furthest < pos then _ else _
    split
    · rfl
    · show (if pos = s.furthest then _ else _ : State V).bare = if pos = s.furthest then _ else _
      split <;> rfl

theorem bare_reset {s t : State V} {m : Mark V} (h : m.cursor = t.cursor) :
    (s.reset m).bare = s.bare.reset t.bare.mark := by
  obtain ⟨cursor, stack, frame⟩ := m
  obtain rfl : cursor = t.cursor := h
  rfl

end State

/-- A result without what is built in its state. -/
def Result.bare (r : Result V E) : Result V E := r.onState State.bare

/-- The second result is the first one without what is built, unless that one broke off for
another reason than the depth of references. -/
def Shadows (r b : Result V E) : Prop :=
  (∃ stop, r.outcome = .stopped stop ∧ stop ≠ .nestingTooDeep) ∨ b = r.bare

namespace Shadows

variable {r b : Result V E} {f g : State V → Result V E}

theorem outcome (h : Shadows r b)
    (hr : ∀ stop, r.outcome = .stopped stop → stop = .nestingTooDeep) : b = r.bare := by
  rcases h with ⟨stop, hstop, hother⟩ | h
  · exact absurd (hr stop hstop) hother
  · exact h

theorem of_matched (h : Shadows r b) (hr : r.outcome = .matched) : b = r.bare :=
  h.outcome fun stop hstop => by rw [hr] at hstop; cases hstop

theorem of_failed (h : Shadows r b) (hr : r.outcome = .failed) : b = r.bare :=
  h.outcome fun stop hstop => by rw [hr] at hstop; cases hstop

theorem andThen (h : Shadows r b) (hf : ∀ s, Shadows (f s) (g s.bare)) :
    Shadows (r.andThen f) (b.andThen g) := by
  rcases h with ⟨stop, hstop, hother⟩ | rfl
  · exact .inl ⟨stop, by simp only [Result.andThen, hstop], hother⟩
  · obtain ⟨s, outcome⟩ := r
    cases outcome with
    | matched => exact hf s
    | failed => exact .inr rfl
    | stopped stop => exact .inr rfl

/-- Something that only the rule itself does behind a match. -/
theorem andThen_alone (h : Shadows r b)
    (hf : ∀ s, (∃ stop, (f s).outcome = .stopped stop ∧ stop ≠ .nestingTooDeep) ∨
      (f s).bare = ⟨s.bare, .matched⟩) : Shadows (r.andThen f) b := by
  rcases h with ⟨stop, hstop, hother⟩ | rfl
  · exact .inl ⟨stop, by simp only [Result.andThen, hstop], hother⟩
  · obtain ⟨s, outcome⟩ := r
    cases outcome with
    | matched =>
        rcases hf s with hstops | hsame
        · exact .inl hstops
        · exact .inr hsame.symm
    | failed => exact .inr rfl
    | stopped stop => exact .inr rfl

theorem orElse (h : Shadows r b) (hf : ∀ s, Shadows (f s) (g s.bare)) :
    Shadows (r.orElse f) (b.orElse g) := by
  rcases h with ⟨stop, hstop, hother⟩ | rfl
  · exact .inl ⟨stop, by simp only [Result.orElse, hstop], hother⟩
  · obtain ⟨s, outcome⟩ := r
    cases outcome with
    | matched => exact .inr rfl
    | failed => exact hf s
    | stopped stop => exact .inr rfl

theorem onState (h : Shadows r b) {f g : State V → State V} (hf : ∀ s, (f s).bare = g s.bare) :
    Shadows (r.onState f) (b.onState g) := by
  rcases h with hstop | rfl
  · exact .inl hstop
  · exact .inr (congrArg (fun s => (⟨s, r.outcome⟩ : Result V E)) (hf r.state).symm)

/-- A change that the bare state does not see. -/
theorem onState_alone (h : Shadows r b) {f : State V → State V}
    (hf : ∀ s, (f s).bare = s.bare) : Shadows (r.onState f) b := by
  rcases h with hstop | rfl
  · exact .inl hstop
  · exact .inr (congrArg (fun s => (⟨s, r.outcome⟩ : Result V E)) (hf r.state).symm)

theorem repeatStep {step step' : State V → Result V E}
    (h : ∀ s, Shadows (step s) (step' s.bare)) (bound : List Char) (s : State V) :
    Shadows (ThriftSchema.repeatStep step bound s)
      (ThriftSchema.repeatStep step' bound s.bare) := by
  induction bound generalizing s with
  | nil => exact .inr rfl
  | cons c bound ih =>
      rw [ThriftSchema.repeatStep, ThriftSchema.repeatStep]
      rcases h s with ⟨stop, hstop, hother⟩ | heq
      · exact .inl ⟨stop, by simp only [hstop], hother⟩
      · rw [heq]
        generalize step s = r
        obtain ⟨s', outcome⟩ := r
        cases outcome with
        | matched =>
            show Shadows (if s'.pos = s.pos then _ else _) (if s'.pos = s.pos then _ else _)
            split
            · exact .inr rfl
            · exact ih s'
        | failed => exact .inr rfl
        | stopped stop => exact .inr rfl

end Shadows

/-! ## Rules -/

section Run

variable {call call' : String → State V → Result V E}

/-- Building a leaf stays where the rule of the leaf ends. -/
theorem State.bare_pushBuilt (s : State V) (build : String → Except E V) (first : Cursor) :
    (∃ stop, (s.pushBuilt build first).outcome = .stopped stop ∧ stop ≠ .nestingTooDeep) ∨
      (s.pushBuilt build first).bare = ⟨s.bare, .matched⟩ := by
  unfold State.pushBuilt
  cases build (String.ofList (first.textTo s.cursor)) with
  | ok value => exact .inr rfl
  | error error => exact .inl ⟨_, rfl, fun h => by cases h⟩

theorem State.bare_captureTop (s : State V) (slot : String) :
    (∃ stop, (s.captureTop slot : Result V E).outcome = .stopped stop ∧
        stop ≠ .nestingTooDeep) ∨
      (s.captureTop slot : Result V E).bare = ⟨s.bare, .matched⟩ := by
  unfold State.captureTop
  cases s.stack with
  | nil => exact .inl ⟨_, rfl, fun h => by cases h⟩
  | cons value stack => exact .inr rfl

theorem State.shadows_act (s : State V) {action : Action V E Unit} (h : action.Stays) :
    Shadows (s.act action) ⟨s.bare, .matched⟩ := by
  have hcursor := h.cursor s.mark
  have hshallow := h.shallow s.mark
  unfold State.act
  generalize action.runOn s.mark = r at hcursor hshallow ⊢
  obtain ⟨stop | ⟨⟩, m⟩ := r
  · exact .inl ⟨stop, rfl, fun heq => hshallow (by rw [heq])⟩
  · refine .inr ?_
    show _ = (⟨(s.reset m).bare, .matched⟩ : Result V E)
    rw [State.bare_reset (t := s) hcursor]
    rfl

/-- A failure that is noted at a place. -/
theorem State.shadows_failAt (s : State V) (label : String) (pos : Nat) :
    Shadows (⟨s.failAt label pos, .failed⟩ : Result V E) ⟨s.bare.failAt label pos, .failed⟩ := by
  refine .inr ?_
  show _ = (⟨(s.failAt label pos).bare, .failed⟩ : Result V E)
  rw [State.bare_failAt]

/-- A rule is shadowed by the bare rule, if references are. -/
theorem Rule.run_bare (hcall : ∀ name s, Shadows (call name s) (call' name s.bare))
    (rule : Rule V E) (hrule : rule.Every Rule.Stays) (s : State V) :
    Shadows (rule.run call s) (rule.bare.run call' s.bare) := by
  induction rule generalizing s with
  | literal text =>
      -- both look at the same text
      show Shadows (if text.toList.isPrefixOf s.cursor.rest then _ else _)
        (if text.toList.isPrefixOf s.cursor.rest then _ else _)
      split
      · exact .inr rfl
      · exact s.shadows_failAt _ _
  | keyword word =>
      show Shadows (if startsWithWord word.toList s.cursor.rest then _ else _)
        (if startsWithWord word.toList s.cursor.rest then _ else _)
      split
      · exact .inr rfl
      · exact s.shadows_failAt _ _
  | pattern label p =>
      unfold Rule.bare Rule.run
      have hrest : s.bare.cursor.rest = s.cursor.rest := rfl
      rw [hrest]
      cases p.measure s.cursor.rest with
      | none => exact s.shadows_failAt _ _
      | some count => exact .inr rfl
  | finish =>
      show Shadows (if s.cursor.rest.isEmpty then _ else _) (if s.cursor.rest.isEmpty then _ else _)
      split
      · exact .inr rfl
      · exact s.shadows_failAt _ _
  | done | never | setSlot | probe => exact .inr rfl
  | seq first rest ihFirst ihRest =>
      -- a failure of the second part goes back to the mark, whose bare state is the bare mark
      exact ((ihFirst hrule.2.1 s).andThen (ihRest hrule.2.2)).orElse fun _ => .inr rfl
  | alt first rest ihFirst ihRest => exact (ihFirst hrule.2.1 s).orElse (ihRest hrule.2.2)
  | star rule ih => exact .repeatStep (ih hrule.2) _ s
  | plus rule ih => exact (ih hrule.2 s).andThen fun s' => .repeatStep (ih hrule.2) _ s'
  | opt rule ih => exact (ih hrule.2 s).orElse fun _ => .inr rfl
  | absent rule ih =>
      have hquiet : Shadows ((rule.run call s.hush).onState State.unhush)
          ((rule.bare.run call' s.bare.hush).onState State.unhush) :=
        (ih hrule.2 s.hush).onState fun _ => rfl
      unfold Rule.bare Rule.run
      generalize (rule.run call s.hush).onState State.unhush = r at hquiet ⊢
      generalize (rule.bare.run call' s.bare.hush).onState State.unhush = b at hquiet ⊢
      rcases hquiet with ⟨stop, hstop, hother⟩ | rfl
      · exact .inl ⟨stop, by simp only [hstop], hother⟩
      · obtain ⟨s', outcome⟩ := r
        cases outcome <;> exact .inr rfl
  | ref name => exact hcall name s
  | token label rule ih =>
      have hquiet : Shadows ((rule.run call s.hush).onState State.unhush)
          ((rule.bare.run call' s.bare.hush).onState State.unhush) :=
        (ih hrule.2 s.hush).onState fun _ => rfl
      exact hquiet.orElse fun s' => s'.shadows_failAt label s.pos
  -- here only the rule itself goes on: it builds, and its bare state stays
  | leaf build rule ih => exact (ih hrule.2 s).andThen_alone fun s' => s'.bare_pushBuilt build _
  | capture slot rule ih => exact (ih hrule.2 s).andThen_alone fun s' => s'.bare_captureTop slot
  | scope rule ih => exact (ih hrule.2 { s with frame := [] }).onState_alone fun _ => rfl
  | action name act => exact s.shadows_act hrule

end Run

/-! ## References -/

section References

variable {rules : Rules V E}
  (hnamed : ∀ name rule, rules.find? name = some rule → rule.Every Rule.Stays)

include hnamed

theorem Rules.call_bare (depth : Nat) (name : String) (s : State V) :
    Shadows (rules.call depth name s) (rules.bare.call depth name s.bare) := by
  induction depth generalizing name s with
  | zero => exact .inr rfl
  | succ depth ih =>
      have hbare : rules.bare.find? name = (rules.find? name).map Rule.bare := rfl
      rw [Rules.call, Rules.call, hbare]
      cases hfind : rules.find? name with
      | none => exact .inr rfl
      | some rule => exact Rule.run_bare ih rule (hnamed name rule hfind) s

/-! ## Invocations -/

/-- The invocation of the bare rule on the bare state. -/
def Invocation.bare (i : Invocation V E) : Invocation V E := ⟨i.depth, i.rule.bare, i.state.bare⟩

theorem Invocation.result_bare {i : Invocation V E} (hi : i.rule.Every Rule.Stays) :
    Shadows (i.result rules) (i.bare.result rules.bare) :=
  Rule.run_bare (Rules.call_bare hnamed i.depth) i.rule hi i.state

/-- The rounds of a repetition, and those of the bare rule. -/
theorem Rounds.bare {depth : Nat} {rule : Rule V E} (hrule : rule.Every Rule.Stays)
    {s t : State V} (h : Rounds (rule.run (rules.call depth)) s t) :
    Rounds (rule.bare.run (rules.bare.call depth)) s.bare t.bare := by
  induction h with
  | here s => exact .here _
  | @next s t hmatched hmoves hrest ih =>
      have hstep := Rule.run_bare (Rules.call_bare hnamed depth) rule hrule s
      have hsame := hstep.of_matched hmatched
      have hstate : (rule.bare.run (rules.bare.call depth) s.bare).state =
          (rule.run (rules.call depth) s).state.bare := by
        rw [hsame]
        rfl
      refine .next ?_ ?_ ?_
      · rw [hsame]
        exact hmatched
      · rw [hstate]
        exact hmoves
      · rw [hstate]
        exact ih

/-- What one invocation runs, the bare invocation runs, or it is the bare invocation itself. -/
theorem Invokes.bare {i j : Invocation V E} (hi : i.rule.Every Rule.Stays)
    (h : Invokes rules i j) : Reached rules.bare i.bare j.bare := by
  have hrun : ∀ depth (rule : Rule V E) s, rule.Every Rule.Stays →
      Shadows (rule.run (rules.call depth) s) (rule.bare.run (rules.bare.call depth) s.bare) :=
    fun depth rule s hrule => Rule.run_bare (Rules.call_bare hnamed depth) rule hrule s
  cases h with
  | seqFirst => exact .single .seqFirst
  | @seqRest d first rest s h =>
      -- the first part ends in the bare state, so the second one starts in it
      have hsame := (hrun d first s hi.2.1).of_matched h
      have hstep : Invokes rules.bare ⟨d, .seq first.bare rest.bare, s.bare⟩
          ⟨d, rest.bare, (first.bare.run (rules.bare.call d) s.bare).state⟩ :=
        .seqRest (by rw [hsame]; exact h)
      rw [hsame] at hstep
      exact .single hstep
  | altFirst => exact .single .altFirst
  | @altRest d first rest s h =>
      have hsame := (hrun d first s hi.2.1).of_failed h
      have hstep : Invokes rules.bare ⟨d, .alt first.bare rest.bare, s.bare⟩
          ⟨d, rest.bare, (first.bare.run (rules.bare.call d) s.bare).state⟩ :=
        .altRest (by rw [hsame]; exact h)
      rw [hsame] at hstep
      exact .single hstep
  | @star d rule s t h =>
      have hrounds := Rounds.bare hnamed hi.2 h
      exact .single (.star hrounds)
  | plusFirst => exact .single .plusFirst
  | @plusRest d rule s t hmatched h =>
      have hsame := (hrun d rule s hi.2).of_matched hmatched
      have hrounds := Rounds.bare hnamed hi.2 h
      have hstart : (rule.run (rules.call d) s).state.bare =
          (rule.bare.run (rules.bare.call d) s.bare).state := by
        rw [hsame]
        rfl
      rw [hstart] at hrounds
      exact .single (.plusRest (by rw [hsame]; exact hmatched) hrounds)
  | opt => exact .single .opt
  | absent => exact .single .absent
  | @ref d name rule s h =>
      have hfind : rules.bare.find? name = some rule.bare := by
        show (rules.find? name).map Rule.bare = _
        rw [h]
        rfl
      exact .single (.ref hfind)
  | token => exact .single .token
  -- without what they build these are their parts
  | leaf | capture | scope => exact .refl

/-- What an invocation comes to, the bare invocation comes to. -/
theorem Reached.bare {i j : Invocation V E} (hi : i.rule.Every Rule.Stays)
    (h : Reached rules i j) : Reached rules.bare i.bare j.bare := by
  suffices h' : j.rule.Every Rule.Stays ∧ Reached rules.bare i.bare j.bare from h'.2
  induction h with
  | refl => exact ⟨hi, .refl⟩
  | tail _ hstep ih =>
      exact ⟨hstep.every hnamed ih.1, ih.2.trans (hstep.bare hnamed ih.1)⟩

end References

end ThriftSchema
