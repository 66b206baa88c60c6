import ThriftSchema.Proofs.Rule.Ahead
import ThriftSchema.Proofs.Rule.Level

set_option autoImplicit false

/-! # Rules that move on

A rule that needs at least one token has consumed something wherever it matches. If that is so of
the rule of a repetition, every round of it leaves less of the text.

* `Rule.Moves`: a rule that needs a token.
* `Rules.length_lt_of_run`: it consumes something.
* `Rule.RoundsConsume`: a repetition whose rounds do.
-/

namespace ThriftSchema

variable {V E : Type}

/-- A pattern whose lexemes are ahead and not empty. -/
def Pattern.Moves (p : Pattern) : Prop :=
  ∀ {cs count}, p.measure cs = some count → 0 < count ∧ count ≤ cs.length

/-- A rule that needs a token, if names stand for such rules. -/
def Rule.Moves : Rule V E → Prop
  | literal text | keyword text => text ≠ ""
  | pattern _ p => p.Moves
  | seq first rest => first.Moves ∨ rest.Moves
  | alt first rest => first.Moves ∧ rest.Moves
  | plus rule | token _ rule | leaf _ rule | capture _ rule | scope rule => rule.Moves
  | never | ref _ => True
  | done | star _ | opt _ | absent _ | finish | setSlot _ _ | action _ _ | probe _ => False

/-- A state has more ahead than another one. -/
def State.Precedes (s t : State V) : Prop := t.cursor.rest.length < s.cursor.rest.length

/-- A match that consumes something. -/
def Result.Consumes (r : Result V E) (s : State V) : Prop :=
  r.outcome = .matched → s.Precedes r.state

theorem State.precedes_advance {s : State V} {count : Nat} (hpos : 0 < count)
    (hcount : count ≤ s.cursor.rest.length) : s.Precedes (s.advance count) := by
  show (s.cursor.rest.drop count).length < s.cursor.rest.length
  rw [List.length_drop]
  omega

theorem State.precedes_advance_text {s : State V} {text : String} (htext : text ≠ "")
    (hstarts : text.toList.isPrefixOf s.cursor.rest = true) :
    s.Precedes (s.advance text.length) := by
  have hle := (List.isPrefixOf_iff_prefix.1 hstarts).length_le
  rw [String.length_toList] at hle
  refine precedes_advance (Nat.pos_of_ne_zero fun hzero => htext ?_) hle
  exact String.toList_eq_nil_iff.1
    (List.eq_nil_of_length_eq_zero (String.length_toList.trans hzero))

/-- A rule that needs a token consumes something, if references do. -/
theorem Rule.consumes_run {call : String → State V → Result V E}
    (hrest : ∀ name s, (call name s).Within s) (hcall : ∀ name s, (call name s).Consumes s)
    (rule : Rule V E) (hstays : rule.Every Rule.Stays) (hmoves : rule.Moves) (s : State V) :
    (rule.run call s).Consumes s := by
  induction rule generalizing s with
  | literal text =>
      intro hmatched
      rw [Rule.run] at hmatched ⊢
      split at hmatched
      · next hprefix =>
        rw [if_pos hprefix]
        exact State.precedes_advance_text hmoves hprefix
      · cases hmatched
  | keyword word =>
      intro hmatched
      rw [Rule.run] at hmatched ⊢
      split at hmatched
      · next hword =>
        rw [if_pos hword]
        exact State.precedes_advance_text hmoves (Bool.and_eq_true_iff.1 hword).1
      · cases hmatched
  | pattern label p =>
      intro hmatched
      rw [Rule.run] at hmatched ⊢
      cases hmeasure : p.measure s.cursor.rest with
      | none =>
          rw [hmeasure] at hmatched
          cases hmatched
      | some count => exact State.precedes_advance (hmoves hmeasure).1 (hmoves hmeasure).2
  | never =>
      intro hmatched
      cases hmatched
  | ref name => exact hcall name s
  | seq first rest ihFirst ihRest =>
      intro hmatched
      rcases Result.matched_of_orElse hmatched with ⟨hboth, heq⟩ | ⟨-, hback, -⟩
      · obtain ⟨hdone, hmore, hlast⟩ := Result.matched_of_andThen hboth
        have hfirst := (Rule.run_rest hrest first hstays.2.1 s).length_le
        have hsecond := (Rule.run_rest hrest rest hstays.2.2 (first.run call s).state).length_le
        rw [Rule.run, heq, hlast]
        -- one of the two consumes something, and the other one does not go back
        rcases hmoves with hmoves | hmoves
        · exact Nat.lt_of_le_of_lt hsecond (ihFirst hstays.2.1 hmoves s hdone)
        · exact Nat.lt_of_lt_of_le (ihRest hstays.2.2 hmoves _ hmore) hfirst
      · cases hback
  | alt first rest ihFirst ihRest =>
      intro hmatched
      rcases Result.matched_of_orElse hmatched with ⟨hdone, heq⟩ | ⟨-, hmore, heq⟩
      · rw [Rule.run, heq]
        exact ihFirst hstays.2.1 hmoves.1 s hdone
      · have hfirst := (Rule.run_rest hrest first hstays.2.1 s).length_le
        rw [Rule.run, heq]
        exact Nat.lt_of_lt_of_le (ihRest hstays.2.2 hmoves.2 _ hmore) hfirst
  | plus rule ih =>
      intro hmatched
      obtain ⟨hdone, hmore, hlast⟩ := Result.matched_of_andThen hmatched
      have hrounds := (Result.Within.repeatStep (Rule.run_rest hrest rule hstays.2)
        (rule.run call s).state.roundBound (rule.run call s).state).length_le
      rw [Rule.run, hlast]
      exact Nat.lt_of_le_of_lt hrounds (ih hstays.2 hmoves s hdone)
  | token label rule ih =>
      intro hmatched
      rcases Result.matched_of_orElse hmatched with ⟨hdone, heq⟩ | ⟨-, hback, -⟩
      · rw [Rule.run, heq]
        exact ih hstays.2 hmoves s.hush hdone
      · cases hback
  | leaf build rule ih =>
      intro hmatched
      obtain ⟨hdone, -, hlast⟩ := Result.matched_of_andThen hmatched
      rw [Rule.run, hlast, State.Precedes, State.rest_pushBuilt]
      exact ih hstays.2 hmoves s hdone
  | capture slot rule ih =>
      intro hmatched
      obtain ⟨hdone, -, hlast⟩ := Result.matched_of_andThen hmatched
      rw [Rule.run, hlast, State.Precedes, State.rest_captureTop]
      exact ih hstays.2 hmoves s hdone
  | scope rule ih => exact ih hstays.2 hmoves { s with frame := [] }
  | done | star | opt | absent | finish | setSlot | action | probe => exact hmoves.elim

section Named

variable {rules : Rules V E}
  (hstays : ∀ name rule, rules.find? name = some rule → rule.Every Rule.Stays)
  (hmoves : ∀ name rule, rules.find? name = some rule → rule.Moves)

include hstays hmoves

theorem Rules.consumes_call (depth : Nat) (name : String) (s : State V) :
    (rules.call depth name s).Consumes s := by
  induction depth generalizing name s with
  | zero =>
      intro hmatched
      cases hmatched
  | succ depth ih =>
      rw [Rules.call]
      split
      · intro hmatched
        cases hmatched
      · next rule hfind =>
        exact Rule.consumes_run (Rules.call_rest hstays depth) ih rule (hstays name rule hfind)
          (hmoves name rule hfind) s

end Named

/-- If the part is a repetition, its rule consumes something wherever it matches, however deep
references may nest. -/
def Rule.RoundsConsume (rules : Rules V E) (part : Rule V E) : Prop :=
  ∀ body, part = .star body ∨ part = .plus body → ∀ depth s,
    (body.run (rules.call depth) s).Consumes s

/-- If the part is a repetition, its rule needs a token. -/
def Rule.RoundsMove : Rule V E → Prop
  | star body | plus body => body.Moves
  | _ => True

/-- Where the rules of repetitions need tokens, they consume something. -/
theorem Rule.every_roundsConsume {rules : Rules V E}
    (hstays : ∀ name rule, rules.find? name = some rule → rule.Every Rule.Stays)
    (hmoves : ∀ name rule, rules.find? name = some rule → rule.Moves) {rule : Rule V E}
    (hrule : rule.Every Rule.Stays) (hrounds : rule.Every Rule.RoundsMove) :
    rule.Every (Rule.RoundsConsume rules) := by
  have hbody : ∀ {body : Rule V E}, body.Every Rule.Stays → body.Moves → ∀ depth s,
      (body.run (rules.call depth) s).Consumes s := fun hbody hmove depth s =>
    Rule.consumes_run (Rules.call_rest hstays depth) (Rules.consumes_call hstays hmoves depth) _
      hbody hmove s
  have hother : ∀ {part : Rule V E}, (∀ body, part ≠ .star body ∧ part ≠ .plus body) →
      part.RoundsConsume rules := fun hpart body h =>
    (h.elim (hpart body).1 (hpart body).2).elim
  induction rule with
  | seq first rest ihFirst ihRest | alt first rest ihFirst ihRest =>
      exact ⟨hother fun _ => ⟨nofun, nofun⟩, ihFirst hrule.2.1 hrounds.2.1,
        ihRest hrule.2.2 hrounds.2.2⟩
  | star rule ih =>
      refine ⟨fun body h => ?_, ih hrule.2 hrounds.2⟩
      rcases h with h | h
      · obtain rfl := Rule.star.inj h
        exact hbody hrule.2 hrounds.1
      · cases h
  | plus rule ih =>
      refine ⟨fun body h => ?_, ih hrule.2 hrounds.2⟩
      rcases h with h | h
      · cases h
      · obtain rfl := Rule.plus.inj h
        exact hbody hrule.2 hrounds.1
  | opt rule ih | absent rule ih | token label rule ih | leaf build rule ih
  | capture slot rule ih | scope rule ih =>
      exact ⟨hother fun _ => ⟨nofun, nofun⟩, ih hrule.2 hrounds.2⟩
  | _ => exact hother fun _ => ⟨nofun, nofun⟩

end ThriftSchema
