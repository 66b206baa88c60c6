import Mathlib.Logic.Relation
import ThriftSchema.Rule.Run

set_option autoImplicit false

/-! # Invocations

While a rule runs, it runs its parts and the rules it refers to, each on the state that the run
has come to by then. The relation `Invokes` has one case for each of these runs, so that what is
said of all invocations that a match comes to is said of every state that it comes to.

* `Invocation`: a rule on a state, and the depth of references that is left.
* `Invokes`: one invocation runs another one.
* `Reached`: the invocations below one.
* `Invokes.stopped`: a part that breaks off breaks the whole off.
* `Rule.Every`: what holds of all parts of a rule.
* `Rule.size`: how large a rule is, so that a rule is not reached again below itself.
-/

namespace ThriftSchema

variable {V E : Type}

/-- A rule on a state, where references nest down to a depth. -/
structure Invocation (V E : Type) where
  depth : Nat
  rule : Rule V E
  state : State V

/-- What an invocation ends with. -/
def Invocation.result (rules : Rules V E) (i : Invocation V E) : Result V E :=
  i.rule.run (rules.call i.depth) i.state

/-- From the start of one round of a repetition to the start of a later one. -/
inductive Rounds (step : State V → Result V E) : State V → State V → Prop
  | here (s : State V) : Rounds step s s
  | next {s t : State V} (hmatched : (step s).outcome = .matched)
      (hmoves : (step s).state.pos ≠ s.pos) (hrest : Rounds step (step s).state t) :
      Rounds step s t

/-- While the first invocation runs, the second one does. -/
inductive Invokes (rules : Rules V E) : Invocation V E → Invocation V E → Prop
  | seqFirst {d : Nat} {first rest : Rule V E} {s : State V} :
      Invokes rules ⟨d, .seq first rest, s⟩ ⟨d, first, s⟩
  | seqRest {d : Nat} {first rest : Rule V E} {s : State V}
      (h : (first.run (rules.call d) s).outcome = .matched) :
      Invokes rules ⟨d, .seq first rest, s⟩ ⟨d, rest, (first.run (rules.call d) s).state⟩
  | altFirst {d : Nat} {first rest : Rule V E} {s : State V} :
      Invokes rules ⟨d, .alt first rest, s⟩ ⟨d, first, s⟩
  | altRest {d : Nat} {first rest : Rule V E} {s : State V}
      (h : (first.run (rules.call d) s).outcome = .failed) :
      Invokes rules ⟨d, .alt first rest, s⟩ ⟨d, rest, (first.run (rules.call d) s).state⟩
  | star {d : Nat} {rule : Rule V E} {s t : State V}
      (h : Rounds (rule.run (rules.call d)) s t) : Invokes rules ⟨d, .star rule, s⟩ ⟨d, rule, t⟩
  | plusFirst {d : Nat} {rule : Rule V E} {s : State V} :
      Invokes rules ⟨d, .plus rule, s⟩ ⟨d, rule, s⟩
  | plusRest {d : Nat} {rule : Rule V E} {s t : State V}
      (hmatched : (rule.run (rules.call d) s).outcome = .matched)
      (h : Rounds (rule.run (rules.call d)) (rule.run (rules.call d) s).state t) :
      Invokes rules ⟨d, .plus rule, s⟩ ⟨d, rule, t⟩
  | opt {d : Nat} {rule : Rule V E} {s : State V} : Invokes rules ⟨d, .opt rule, s⟩ ⟨d, rule, s⟩
  | absent {d : Nat} {rule : Rule V E} {s : State V} :
      Invokes rules ⟨d, .absent rule, s⟩ ⟨d, rule, s.hush⟩
  | ref {d : Nat} {name : String} {rule : Rule V E} {s : State V}
      (h : rules.find? name = some rule) : Invokes rules ⟨d + 1, .ref name, s⟩ ⟨d, rule, s⟩
  | token {d : Nat} {label : String} {rule : Rule V E} {s : State V} :
      Invokes rules ⟨d, .token label rule, s⟩ ⟨d, rule, s.hush⟩
  | leaf {d : Nat} {build : String → Except E V} {rule : Rule V E} {s : State V} :
      Invokes rules ⟨d, .leaf build rule, s⟩ ⟨d, rule, s⟩
  | capture {d : Nat} {slot : String} {rule : Rule V E} {s : State V} :
      Invokes rules ⟨d, .capture slot rule, s⟩ ⟨d, rule, s⟩
  | scope {d : Nat} {rule : Rule V E} {s : State V} :
      Invokes rules ⟨d, .scope rule, s⟩ ⟨d, rule, { s with frame := [] }⟩

/-- The invocations that one comes to. -/
def Reached (rules : Rules V E) : Invocation V E → Invocation V E → Prop :=
  Relation.ReflTransGen (Invokes rules)

/-! ## Parts -/

/-- A rule and all its parts have a property. -/
def Rule.Every (P : Rule V E → Prop) : Rule V E → Prop
  | seq first rest => P (seq first rest) ∧ first.Every P ∧ rest.Every P
  | alt first rest => P (alt first rest) ∧ first.Every P ∧ rest.Every P
  | star rule => P (star rule) ∧ rule.Every P
  | plus rule => P (plus rule) ∧ rule.Every P
  | opt rule => P (opt rule) ∧ rule.Every P
  | absent rule => P (absent rule) ∧ rule.Every P
  | token label rule => P (token label rule) ∧ rule.Every P
  | leaf build rule => P (leaf build rule) ∧ rule.Every P
  | capture slot rule => P (capture slot rule) ∧ rule.Every P
  | scope rule => P (scope rule) ∧ rule.Every P
  | rule => P rule

namespace Rule.Every

variable {P Q : Rule V E → Prop} {rule : Rule V E}

theorem self (h : rule.Every P) : P rule := by
  cases rule with
  | seq | alt | star | plus | opt | absent | token | leaf | capture | scope => exact h.1
  | _ => exact h

theorem mono (hPQ : ∀ rule, P rule → Q rule) (h : rule.Every P) : rule.Every Q := by
  induction rule with
  | seq first rest ihFirst ihRest => exact ⟨hPQ _ h.1, ihFirst h.2.1, ihRest h.2.2⟩
  | alt first rest ihFirst ihRest => exact ⟨hPQ _ h.1, ihFirst h.2.1, ihRest h.2.2⟩
  | star rule ih | plus rule ih | opt rule ih | absent rule ih | token label rule ih
  | leaf build rule ih | capture slot rule ih | scope rule ih => exact ⟨hPQ _ h.1, ih h.2⟩
  | _ => exact hPQ _ h

theorem and (hP : rule.Every P) (hQ : rule.Every Q) : rule.Every fun part => P part ∧ Q part := by
  induction rule with
  | seq first rest ihFirst ihRest | alt first rest ihFirst ihRest =>
      exact ⟨⟨hP.1, hQ.1⟩, ihFirst hP.2.1 hQ.2.1, ihRest hP.2.2 hQ.2.2⟩
  | star rule ih | plus rule ih | opt rule ih | absent rule ih | token label rule ih
  | leaf build rule ih | capture slot rule ih | scope rule ih => exact ⟨⟨hP.1, hQ.1⟩, ih hP.2 hQ.2⟩
  | _ => exact ⟨hP, hQ⟩

end Rule.Every

/-- What holds of all parts of a rule and of the rules with names holds of what is invoked. -/
theorem Invokes.every {rules : Rules V E} {P : Rule V E → Prop}
    (hnamed : ∀ name rule, rules.find? name = some rule → rule.Every P) {i j : Invocation V E}
    (hi : i.rule.Every P) (h : Invokes rules i j) : j.rule.Every P := by
  cases h with
  | seqFirst | altFirst => exact hi.2.1
  | seqRest | altRest => exact hi.2.2
  | ref h => exact hnamed _ _ h
  | star | plusFirst | plusRest | opt | absent | token | leaf | capture | scope => exact hi.2

theorem Reached.every {rules : Rules V E} {P : Rule V E → Prop}
    (hnamed : ∀ name rule, rules.find? name = some rule → rule.Every P) {i j : Invocation V E}
    (hi : i.rule.Every P) (h : Reached rules i j) : j.rule.Every P := by
  induction h with
  | refl => exact hi
  | tail _ hstep ih => exact hstep.every hnamed ih

/-! ## Depth -/

theorem Invokes.depth_le {rules : Rules V E} {i j : Invocation V E} (h : Invokes rules i j) :
    j.depth ≤ i.depth := by
  cases h with
  | ref h => exact Nat.le_succ _
  | _ => exact Nat.le_refl _

theorem Reached.depth_le {rules : Rules V E} {i j : Invocation V E} (h : Reached rules i j) :
    j.depth ≤ i.depth := by
  induction h with
  | refl => exact Nat.le_refl _
  | tail _ hstep ih => exact Nat.le_trans hstep.depth_le ih

/-- How many parts a rule is put together from. -/
def Rule.size : Rule V E → Nat
  | seq first rest | alt first rest => first.size + rest.size + 1
  | star rule | plus rule | opt rule | absent rule | token _ rule | leaf _ rule
  | capture _ rule | scope rule => rule.size + 1
  | _ => 0

/-- A part is smaller, or has a name. -/
theorem Invokes.size_lt {rules : Rules V E} {i j : Invocation V E} (h : Invokes rules i j) :
    j.rule.size < i.rule.size ∨ ∃ name, rules.find? name = some j.rule := by
  cases h with
  | ref h => exact .inr ⟨_, h⟩
  | _ =>
      left
      simp only [Rule.size]
      omega

/-- A rule that is larger than those with names is not reached again below itself, nor is
another one of its size. -/
theorem Reached.eq_or_size_lt {rules : Rules V E} {i j : Invocation V E} {bound : Nat}
    (hnamed : ∀ name rule, rules.find? name = some rule → rule.size < bound)
    (hi : i.rule.size ≤ bound) (h : Reached rules i j) : j = i ∨ j.rule.size < bound := by
  induction h with
  | refl => exact .inl rfl
  | tail _ hstep ih =>
      right
      rcases hstep.size_lt with hlt | ⟨name, hname⟩
      · rcases ih with rfl | ih
        · exact Nat.lt_of_lt_of_le hlt hi
        · exact Nat.lt_trans hlt ih
      · exact hnamed name _ hname

section Descent

variable {rules : Rules V E} {d bound : Nat} {first rest rule : Rule V E} {s : State V}
  {j : Invocation V E} (hnamed : ∀ name rule, rules.find? name = some rule → rule.size < bound)

include hnamed

theorem not_reached_of_size_lt (hrule : rule.size < bound) (hj : j.rule.size = bound) :
    ¬Reached rules ⟨d, rule, s⟩ j := by
  intro h
  rcases h.eq_or_size_lt hnamed (Nat.le_of_lt hrule) with rfl | hlt
  · exact absurd hj (Nat.ne_of_lt hrule)
  · exact absurd hj (Nat.ne_of_lt hlt)

/-- What is too large for the first part of a sequence is reached behind it. -/
theorem Reached.seq_rest (h : Reached rules ⟨d, .seq first rest, s⟩ j) (hj : j.rule.size = bound)
    (hfirst : first.size < bound) (hwhole : bound < (Rule.seq first rest).size) :
    (first.run (rules.call d) s).outcome = .matched ∧
      Reached rules ⟨d, rest, (first.run (rules.call d) s).state⟩ j := by
  rcases h.cases_head with rfl | ⟨i, hstep, hrest⟩
  · exact absurd hj (Nat.ne_of_gt hwhole)
  · cases hstep with
    | seqFirst => exact absurd hrest (not_reached_of_size_lt hnamed hfirst hj)
    | seqRest hmatched => exact ⟨hmatched, hrest⟩

/-- What is too large for the rest of a sequence is reached in its first part. -/
theorem Reached.seq_first (h : Reached rules ⟨d, .seq first rest, s⟩ j) (hj : j.rule.size = bound)
    (hrest : rest.size < bound) (hwhole : bound < (Rule.seq first rest).size) :
    Reached rules ⟨d, first, s⟩ j := by
  rcases h.cases_head with rfl | ⟨i, hstep, hreached⟩
  · exact absurd hj (Nat.ne_of_gt hwhole)
  · cases hstep with
    | seqFirst => exact hreached
    | seqRest hmatched => exact absurd hreached (not_reached_of_size_lt hnamed hrest hj)

/-- What is as large as the rule of a repetition is one of its rounds. -/
theorem Reached.star_round (h : Reached rules ⟨d, .star rule, s⟩ j) (hj : j.rule.size = bound)
    (hrule : rule.size = bound) :
    ∃ t, Rounds (rule.run (rules.call d)) s t ∧ j = ⟨d, rule, t⟩ := by
  rcases h.cases_head with rfl | ⟨i, hstep, hrest⟩
  · have hsize : rule.size + 1 = bound := hj
    omega
  · cases hstep with
    | star hrounds =>
        have hreached : Reached rules ⟨d, rule, _⟩ j := hrest
        rcases hreached.eq_or_size_lt hnamed (Nat.le_of_eq hrule) with rfl | hlt
        · exact ⟨_, hrounds, rfl⟩
        · exact absurd hj (Nat.ne_of_lt hlt)

end Descent

/-! ## Breaking off -/

/-- A round that breaks off breaks the repetition off, unless there were too many rounds
before it. -/
theorem Rounds.stopped {step : State V → Result V E} {s t : State V} (h : Rounds step s t)
    {stop : Stop E} (hstop : (step t).outcome = .stopped stop) (bound : List Char) :
    (repeatStep step bound s).outcome = .stopped stop ∨
      (repeatStep step bound s).outcome = .stopped .endless := by
  induction h generalizing bound with
  | here s =>
      cases bound with
      | nil => exact .inr rfl
      | cons c bound =>
          rw [repeatStep]
          simp only [hstop]
          exact .inl trivial
  | next hmatched hmoves hrest ih =>
      cases bound with
      | nil => exact .inr rfl
      | cons c bound =>
          rw [repeatStep]
          simp only [hmatched, if_neg hmoves]
          exact ih hstop bound

/-- A part that breaks off breaks the whole off. -/
theorem Invokes.stopped {rules : Rules V E} {i j : Invocation V E} (h : Invokes rules i j)
    {stop : Stop E} (hstop : (j.result rules).outcome = .stopped stop) :
    (i.result rules).outcome = .stopped stop ∨ (i.result rules).outcome = .stopped .endless := by
  cases h with
  | star h => exact h.stopped hstop _
  | plusRest hmatched h =>
      simp only [Invocation.result, Rule.run, Result.andThen, hmatched]
      exact h.stopped hstop _
  | ref h =>
      left
      simp only [Invocation.result, Rule.run, Rules.call, h]
      exact hstop
  | seqRest h | altRest h =>
      left
      simp only [Invocation.result] at hstop
      simp only [Invocation.result, Rule.run, Result.andThen, Result.orElse, h, hstop]
  | seqFirst | altFirst | plusFirst | opt | absent | token | leaf | capture | scope =>
      left
      simp only [Invocation.result] at hstop
      simp only [Invocation.result, Rule.run, Result.andThen, Result.orElse, Result.onState, hstop]

/-- Where the whole breaks off only for reasons of a kind that too many rounds are not of, so
does every part. -/
theorem Reached.stopped {rules : Rules V E} {i j : Invocation V E} {P : Stop E → Prop}
    (hendless : ¬P .endless)
    (hwhole : ∀ stop, (i.result rules).outcome = .stopped stop → P stop)
    (h : Reached rules i j) (stop : Stop E) (hstop : (j.result rules).outcome = .stopped stop) :
    P stop := by
  induction h generalizing stop with
  | refl => exact hwhole stop hstop
  | tail _ hstep ih =>
      rcases hstep.stopped hstop with hstop | hstop
      · exact ih stop hstop
      · exact absurd (ih .endless hstop) hendless

end ThriftSchema
