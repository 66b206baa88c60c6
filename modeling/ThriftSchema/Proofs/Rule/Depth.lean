import ThriftSchema.Rule.Run

set_option autoImplicit false

/-! # Depth

A run that does not come to the end of its depth does not depend on it: with more depth it ends
with the same result.
-/

namespace ThriftSchema

variable {V E : Type}

/-- The second result is the first one, unless that one ran out of depth. -/
def Extends (r r' : Result V E) : Prop := r.outcome = .stopped .nestingTooDeep ∨ r' = r

namespace Extends

variable {r r' : Result V E} {f f' : State V → Result V E}

theorem refl (r : Result V E) : Extends r r := .inr rfl

theorem andThen (h : Extends r r') (hf : ∀ s, Extends (f s) (f' s)) :
    Extends (r.andThen f) (r'.andThen f') := by
  rcases h with h | rfl
  · exact .inl (by simp only [Result.andThen, h])
  · unfold Result.andThen
    cases ho : r'.outcome with
    | matched => simpa only [ho] using hf r'.state
    | failed => exact .inr rfl
    | stopped stop => exact .inr rfl

theorem orElse (h : Extends r r') (hf : ∀ s, Extends (f s) (f' s)) :
    Extends (r.orElse f) (r'.orElse f') := by
  rcases h with h | rfl
  · exact .inl (by simp only [Result.orElse, h])
  · unfold Result.orElse
    cases ho : r'.outcome with
    | matched => exact .inr rfl
    | failed => simpa only [ho] using hf r'.state
    | stopped stop => exact .inr rfl

theorem onState (h : Extends r r') (g : State V → State V) :
    Extends (r.onState g) (r'.onState g) := by
  rcases h with h | rfl
  · exact .inl h
  · exact .inr rfl

theorem repeatStep {step step' : State V → Result V E} (h : ∀ s, Extends (step s) (step' s))
    (bound : List Char) (s : State V) :
    Extends (ThriftSchema.repeatStep step bound s) (ThriftSchema.repeatStep step' bound s) := by
  induction bound generalizing s with
  | nil => exact refl _
  | cons c bound ih =>
      rw [ThriftSchema.repeatStep, ThriftSchema.repeatStep]
      rcases h s with hdeep | heq
      · exact .inl (by simp only [hdeep])
      · rw [heq]
        cases ho : (step s).outcome with
        | matched =>
            dsimp only
            split
            · exact refl _
            · exact ih _
        | failed => exact refl _
        | stopped stop => exact refl _

end Extends

/-- What a rule does depends on the references it runs, and on nothing else. -/
theorem Rule.run_extends {call call' : String → State V → Result V E}
    (h : ∀ name s, Extends (call name s) (call' name s)) (rule : Rule V E) (s : State V) :
    Extends (rule.run call s) (rule.run call' s) := by
  induction rule generalizing s with
  | ref name => exact h name s
  | seq first rest ihFirst ihRest =>
      exact ((ihFirst s).andThen ihRest).orElse fun _ => .refl _
  | alt first rest ihFirst ihRest => exact (ihFirst s).orElse ihRest
  | star rule ih => exact .repeatStep ih _ s
  | plus rule ih => exact (ih s).andThen fun _ => .repeatStep ih _ _
  | opt rule ih => exact (ih s).orElse fun _ => .refl _
  | absent rule ih =>
      have hquiet := (ih s.hush).onState State.unhush
      unfold Rule.run
      rcases hquiet with hdeep | heq
      · exact .inl (by simp only [hdeep])
      · rw [heq]
        exact .refl _
  | token label rule ih => exact ((ih s.hush).onState _).orElse fun _ => .refl _
  | leaf build rule ih => exact (ih s).andThen fun _ => .refl _
  | capture slot rule ih => exact (ih s).andThen fun _ => .refl _
  | scope rule ih => exact (ih _).onState _
  | literal | keyword | pattern | done | never | finish | setSlot | action | probe =>
      exact .refl _

/-- More depth changes no result that does not run out of it. -/
theorem Rules.call_extends (rules : Rules V E) {depth depth' : Nat} (h : depth ≤ depth')
    (name : String) (s : State V) :
    Extends (rules.call depth name s) (rules.call depth' name s) := by
  induction depth generalizing depth' name s with
  | zero => exact .inl rfl
  | succ depth ih =>
      obtain ⟨depth', rfl⟩ := Nat.exists_eq_add_of_le h
      rw [Nat.add_right_comm, Rules.call, Rules.call]
      cases rules.find? name with
      | none => exact .refl _
      | some rule => exact Rule.run_extends (fun name s => ih (by omega) name s) rule s

end ThriftSchema
