import ThriftSchema.Proofs.Rule.Bare

set_option autoImplicit false

/-! # The text ahead

A match only moves forward, and goes back only to where it has been: the text ahead is always
some end of the text that it started with.

* `Rule.run_rest`: of a rule.
* `Reached.rest`: of every invocation that a match comes to.
-/

namespace ThriftSchema

variable {V E : Type}

/-! ## One rule -/

/-- The text ahead of a result is an end of the text ahead of a state. -/
def Result.Within (r : Result V E) (s : State V) : Prop := r.state.cursor.rest <:+ s.cursor.rest

namespace Result.Within

variable {r : Result V E} {s : State V} {next : State V → Result V E}

theorem trans {t : State V} (h : r.Within t) (ht : t.cursor.rest <:+ s.cursor.rest) :
    r.Within s := List.IsSuffix.trans h ht

theorem andThen (h : r.Within s) (hnext : ∀ t, (next t).Within t) : (r.andThen next).Within s := by
  unfold Result.andThen
  split
  · exact (hnext _).trans h
  · exact h

theorem orElse (h : r.Within s) (hnext : ∀ t, (next t).Within t) : (r.orElse next).Within s := by
  unfold Result.orElse
  split
  · exact (hnext _).trans h
  · exact h

/-- Going back to the start after a failure. -/
theorem orElse_back (h : r.Within s) (hnext : ∀ t, (next t).Within s) :
    (r.orElse next).Within s := by
  unfold Result.orElse
  split
  · exact hnext _
  · exact h

theorem accept (s : State V) (count : Nat) : (s.accept count : Result V E).Within s :=
  List.drop_suffix count _

theorem failAt (s : State V) (label : String) (pos : Nat) :
    (⟨s.failAt label pos, .failed⟩ : Result V E).Within s := by
  have hsame : (s.failAt label pos).cursor.rest = s.cursor.rest := by
    rw [State.toMark_failAt]
  exact ⟨[], hsame⟩

theorem act (s : State V) {action : Action V E Unit} (h : action.Stays) :
    (s.act action).Within s := by
  have hrest := congrArg Cursor.rest (h.cursor s.mark)
  unfold State.act
  generalize action.runOn s.mark = r at hrest ⊢
  obtain ⟨stop | ⟨⟩, m⟩ := r
  · exact ⟨[], hrest⟩
  · exact ⟨[], hrest⟩

theorem repeatStep {step : State V → Result V E} (h : ∀ t, (step t).Within t) (bound : List Char)
    (s : State V) : (ThriftSchema.repeatStep step bound s).Within s := by
  induction bound generalizing s with
  | nil => exact List.suffix_refl _
  | cons c bound ih =>
      rw [ThriftSchema.repeatStep]
      split
      · split
        · exact h s
        · exact (ih _).trans (h s)
      · exact h s
      · exact h s

end Result.Within

/-- A rule whose actions leave the cursor stays within the text ahead, if references do. -/
theorem Rule.run_rest {call : String → State V → Result V E}
    (hcall : ∀ name s, (call name s).Within s) (rule : Rule V E) (hrule : rule.Every Rule.Stays)
    (s : State V) : (rule.run call s).Within s := by
  induction rule generalizing s with
  | literal | keyword | pattern =>
      unfold Rule.run
      split
      · exact .accept s _
      · exact .failAt s _ _
  | finish =>
      unfold Rule.run
      split
      · exact List.suffix_refl _
      · exact .failAt s _ _
  | done | never | setSlot | probe => exact List.suffix_refl _
  | seq first rest ihFirst ihRest =>
      exact ((ihFirst hrule.2.1 s).andThen (ihRest hrule.2.2)).orElse_back
        fun _ => List.suffix_refl _
  | alt first rest ihFirst ihRest => exact (ihFirst hrule.2.1 s).orElse (ihRest hrule.2.2)
  | star rule ih => exact .repeatStep (ih hrule.2) _ s
  | plus rule ih => exact (ih hrule.2 s).andThen fun t => .repeatStep (ih hrule.2) _ t
  | opt rule ih => exact (ih hrule.2 s).orElse fun t => List.suffix_refl _
  | absent rule ih =>
      -- whatever the rule found, the cursor goes back; only a break leaves it where it is
      have hquiet : ((rule.run call s.hush).onState State.unhush).Within s := ih hrule.2 s.hush
      unfold Rule.run
      dsimp only
      split
      · exact List.suffix_refl _
      · exact List.suffix_refl _
      · exact hquiet
  | ref name => exact hcall name s
  | token label rule ih =>
      have hquiet : ((rule.run call s.hush).onState State.unhush).Within s := ih hrule.2 s.hush
      exact hquiet.orElse fun t => .failAt t label s.pos
  | leaf build rule ih =>
      refine (ih hrule.2 s).andThen fun t => ?_
      unfold State.pushBuilt
      split <;> exact List.suffix_refl _
  | capture slot rule ih =>
      refine (ih hrule.2 s).andThen fun t => ?_
      unfold State.captureTop
      split <;> exact List.suffix_refl _
  | scope rule ih => exact ih hrule.2 { s with frame := [] }
  | action name act => exact .act s hrule

/-! ## References and invocations -/

section References

variable {rules : Rules V E}
  (hnamed : ∀ name rule, rules.find? name = some rule → rule.Every Rule.Stays)

include hnamed

theorem Rules.call_rest (depth : Nat) (name : String) (s : State V) :
    (rules.call depth name s).Within s := by
  induction depth generalizing name s with
  | zero => exact List.suffix_refl _
  | succ depth ih =>
      rw [Rules.call]
      split
      · exact List.suffix_refl _
      · next rule hfind => exact Rule.run_rest ih rule (hnamed name rule hfind) s

theorem Rounds.rest {depth : Nat} {rule : Rule V E} (hrule : rule.Every Rule.Stays) {s t : State V}
    (h : Rounds (rule.run (rules.call depth)) s t) : t.cursor.rest <:+ s.cursor.rest := by
  induction h with
  | here s => exact List.suffix_refl _
  | next hmatched hmoves hrest ih =>
      exact ih.trans (Rule.run_rest (Rules.call_rest hnamed depth) rule hrule _)

/-- What an invocation runs starts within the text ahead of it. -/
theorem Invokes.rest {i j : Invocation V E} (hi : i.rule.Every Rule.Stays)
    (h : Invokes rules i j) : j.state.cursor.rest <:+ i.state.cursor.rest := by
  have hrun : ∀ depth (rule : Rule V E) s, rule.Every Rule.Stays →
      (rule.run (rules.call depth) s).Within s :=
    fun depth rule s hrule => Rule.run_rest (Rules.call_rest hnamed depth) rule hrule s
  cases h with
  | seqRest h | altRest h => exact hrun _ _ _ hi.2.1
  | star h => exact Rounds.rest hnamed hi.2 h
  | plusRest hmatched h => exact (Rounds.rest hnamed hi.2 h).trans (hrun _ _ _ hi.2)
  | _ => exact List.suffix_refl _

/-- What an invocation comes to starts within the text ahead of it. -/
theorem Reached.rest {i j : Invocation V E} (hi : i.rule.Every Rule.Stays)
    (h : Reached rules i j) : j.state.cursor.rest <:+ i.state.cursor.rest := by
  induction h with
  | refl => exact List.suffix_refl _
  | tail hreached hstep ih =>
      exact (hstep.rest hnamed (Reached.every hnamed hi hreached)).trans ih

end References

/-- A bare rule has no actions. -/
theorem Rule.every_stays_bare (rule : Rule V E) : rule.bare.Every Rule.Stays := by
  induction rule with
  | seq first rest ihFirst ihRest | alt first rest ihFirst ihRest =>
      exact ⟨trivial, ihFirst, ihRest⟩
  | star rule ih | plus rule ih | opt rule ih | absent rule ih | token label rule ih =>
      exact ⟨trivial, ih⟩
  | leaf build rule ih | capture slot rule ih | scope rule ih => exact ih
  | _ => trivial

end ThriftSchema
