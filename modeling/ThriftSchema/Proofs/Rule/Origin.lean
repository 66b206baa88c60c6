import ThriftSchema.Proofs.Rule.Invocation

set_option autoImplicit false

/-! # Where a match breaks off

A rule that breaks off does so by itself, or a part of it did. Since parts do not go on for ever,
every break can be followed to the invocation where it begins.

* `BreaksOff`: the ways in which an invocation breaks off by itself.
* `Invokes.wellFounded`: parts of parts come to an end.
* `Invocation.exists_breaksOff`: the invocation where a break begins.
-/

namespace ThriftSchema

variable {V E : Type} {rules : Rules V E}

/-- The invocation breaks off, and not because a part of it did. -/
inductive BreaksOff (rules : Rules V E) : Invocation V E → Stop E → Prop
  | tooDeep {name : String} {s : State V} : BreaksOff rules ⟨0, .ref name, s⟩ .nestingTooDeep
  | undefinedRule {d : Nat} {name : String} {s : State V} :
      BreaksOff rules ⟨d + 1, .ref name, s⟩ (.undefinedRule name)
  | star {d : Nat} {rule : Rule V E} {s : State V} : BreaksOff rules ⟨d, .star rule, s⟩ .endless
  | plus {d : Nat} {rule : Rule V E} {s : State V} : BreaksOff rules ⟨d, .plus rule, s⟩ .endless
  | capture {d : Nat} {slot : String} {rule : Rule V E} {s : State V} :
      BreaksOff rules ⟨d, .capture slot rule, s⟩ .emptyStack
  | leaf {d : Nat} {build : String → Except E V} {rule : Rule V E} {s : State V} {text : String}
      {error : E} (hbuild : build text = .error error) :
      BreaksOff rules ⟨d, .leaf build rule, s⟩ (.raised error)
  | action {d : Nat} {name : String} {run : Action V E Unit} {s : State V} {stop : Stop E}
      (hrun : (run.runOn s.mark).1 = .error stop) :
      BreaksOff rules ⟨d, .action name run, s⟩ stop

/-! ## One step back -/

theorem Result.stopped_of_andThen {r : Result V E} {next : State V → Result V E} {stop : Stop E}
    (h : (r.andThen next).outcome = .stopped stop) :
    r.outcome = .stopped stop ∨
      r.outcome = .matched ∧ (next r.state).outcome = .stopped stop := by
  unfold Result.andThen at h
  split at h
  · next hmatched => exact .inr ⟨hmatched, h⟩
  · exact .inl h

theorem Result.stopped_of_orElse {r : Result V E} {next : State V → Result V E} {stop : Stop E}
    (h : (r.orElse next).outcome = .stopped stop) :
    r.outcome = .stopped stop ∨
      r.outcome = .failed ∧ (next r.state).outcome = .stopped stop := by
  unfold Result.orElse at h
  split at h
  · next hfailed => exact .inr ⟨hfailed, h⟩
  · exact .inl h

namespace State

variable {s : State V} {stop : Stop E}

theorem stopped_of_pushBuilt {build : String → Except E V} {first : Cursor}
    (h : (s.pushBuilt build first).outcome = .stopped stop) :
    ∃ text error, build text = .error error ∧ stop = .raised error := by
  unfold pushBuilt at h
  split at h
  · cases h
  · next error hbuild =>
    cases h
    exact ⟨_, error, hbuild, rfl⟩

theorem stopped_of_captureTop {slot : String}
    (h : (s.captureTop slot : Result V E).outcome = .stopped stop) : stop = .emptyStack := by
  unfold captureTop at h
  split at h
  · cases h
    rfl
  · cases h

theorem stopped_of_act {action : Action V E Unit}
    (h : (s.act action).outcome = .stopped stop) : (action.runOn s.mark).1 = .error stop := by
  unfold act at h
  split at h
  · cases h
  · next hrun =>
    cases h
    exact congrArg Prod.fst hrun

end State

/-- A repetition breaks off for too many rounds, or in one of its rounds. -/
theorem exists_round_of_stopped {step : State V → Result V E} {bound : List Char} {s : State V}
    {stop : Stop E} (h : (repeatStep step bound s).outcome = .stopped stop) :
    stop = .endless ∨ ∃ t, Rounds step s t ∧ (step t).outcome = .stopped stop := by
  induction bound generalizing s with
  | nil =>
      rw [repeatStep] at h
      cases h
      exact .inl rfl
  | cons c bound ih =>
      rw [repeatStep] at h
      cases hround : (step s).outcome with
      | failed =>
          simp only [hround] at h
          cases h
      | stopped why =>
          simp only [hround] at h
          cases h
          exact .inr ⟨s, .here s, hround⟩
      | matched =>
          simp only [hround] at h
          -- a round that stays where it is is the last one
          by_cases hstall : (step s).state.pos = s.pos
          · rw [if_pos hstall, hround] at h
            cases h
          · rw [if_neg hstall] at h
            rcases ih h with hendless | ⟨t, hrounds, ht⟩
            · exact .inl hendless
            · exact .inr ⟨t, .next hround hstall hrounds, ht⟩

/-- What breaks off does so in a part or by itself. -/
theorem Invocation.breaksOff_or_invokes {i : Invocation V E} {stop : Stop E}
    (h : (i.result rules).outcome = .stopped stop) :
    BreaksOff rules i stop ∨
      ∃ j, Invokes rules i j ∧ (j.result rules).outcome = .stopped stop := by
  obtain ⟨d, rule, s⟩ := i
  cases rule with
  -- what only looks at the text matches or fails
  | literal | keyword | pattern | finish =>
      simp only [Invocation.result, Rule.run] at h
      split at h <;> cases h
  | done | never | setSlot | probe => cases h
  | seq first rest =>
      rcases Result.stopped_of_orElse h with h | ⟨-, h⟩
      · rcases Result.stopped_of_andThen h with h | ⟨hmatched, h⟩
        · exact .inr ⟨_, .seqFirst, h⟩
        · exact .inr ⟨_, .seqRest hmatched, h⟩
      · cases h
  | alt first rest =>
      rcases Result.stopped_of_orElse h with h | ⟨hfailed, h⟩
      · exact .inr ⟨_, .altFirst, h⟩
      · exact .inr ⟨_, .altRest hfailed, h⟩
  | star rule =>
      rcases exists_round_of_stopped h with rfl | ⟨t, hrounds, h⟩
      · exact .inl .star
      · exact .inr ⟨_, .star hrounds, h⟩
  | plus rule =>
      rcases Result.stopped_of_andThen h with h | ⟨hmatched, h⟩
      · exact .inr ⟨_, .plusFirst, h⟩
      · rcases exists_round_of_stopped h with rfl | ⟨t, hrounds, h⟩
        · exact .inl .plus
        · exact .inr ⟨_, .plusRest hmatched hrounds, h⟩
  | opt rule =>
      rcases Result.stopped_of_orElse h with h | ⟨-, h⟩
      · exact .inr ⟨_, .opt, h⟩
      · cases h
  | absent rule =>
      simp only [Invocation.result, Rule.run] at h
      split at h
      · cases h
      · cases h
      · exact .inr ⟨_, .absent, h⟩
  | ref name =>
      cases d with
      | zero =>
          cases h
          exact .inl .tooDeep
      | succ d =>
          -- a name of the rules invokes its rule, one level further down
          simp only [Invocation.result, Rule.run, Rules.call] at h
          cases hfind : rules.find? name with
          | none =>
              rw [hfind] at h
              cases h
              exact .inl .undefinedRule
          | some rule =>
              rw [hfind] at h
              exact .inr ⟨_, .ref hfind, h⟩
  | token label rule =>
      rcases Result.stopped_of_orElse h with h | ⟨-, h⟩
      · exact .inr ⟨_, .token, h⟩
      · cases h
  | leaf build rule =>
      rcases Result.stopped_of_andThen h with h | ⟨-, h⟩
      · exact .inr ⟨_, .leaf, h⟩
      · obtain ⟨text, error, hbuild, rfl⟩ := State.stopped_of_pushBuilt h
        exact .inl (.leaf hbuild)
  | capture slot rule =>
      rcases Result.stopped_of_andThen h with h | ⟨-, h⟩
      · exact .inr ⟨_, .capture, h⟩
      · obtain rfl := State.stopped_of_captureTop h
        exact .inl .capture
  | scope rule => exact .inr ⟨_, .scope, h⟩
  | action name run => exact .inl (.action (State.stopped_of_act h))

/-! ## The whole way back -/

/-- Parts of parts come to an end: they have less depth, or are smaller. -/
theorem Invokes.wellFounded (rules : Rules V E) : WellFounded fun j i => Invokes rules i j := by
  refine Subrelation.wf (r := InvImage (Prod.Lex (· < ·) (· < ·))
    fun i : Invocation V E => (i.depth, i.rule.size)) ?_
    (InvImage.wf _ (Prod.lex Nat.lt_wfRel Nat.lt_wfRel).wf)
  intro j i h
  cases h with
  | ref h => exact .left _ _ (Nat.lt_succ_self _)
  | _ =>
      refine .right _ ?_
      simp only [Rule.size]
      omega

/-- A break begins at an invocation that breaks off by itself. -/
theorem Invocation.exists_breaksOff {i : Invocation V E} {stop : Stop E}
    (h : (i.result rules).outcome = .stopped stop) :
    ∃ j, Reached rules i j ∧ (j.result rules).outcome = .stopped stop ∧ BreaksOff rules j stop := by
  -- along the parts: those of the invocation are covered when it is looked at
  induction i using (Invokes.wellFounded rules).induction with
  | _ i ih =>
      rcases i.breaksOff_or_invokes h with hown | ⟨j, hstep, hj⟩
      · exact ⟨i, .refl, h, hown⟩
      · obtain ⟨k, hreached, hk⟩ := ih j hstep hj
        exact ⟨k, .head hstep hreached, hk⟩

end ThriftSchema
