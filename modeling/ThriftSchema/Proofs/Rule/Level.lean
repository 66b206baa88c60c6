import ThriftSchema.Proofs.Rule.Backtracking
import ThriftSchema.Proofs.Rule.Bare
import ThriftSchema.Proofs.Rule.Invocation
import ThriftSchema.Proofs.Text.Balance

set_option autoImplicit false

/-! # References behind brackets

In some rules every reference stands behind a bracket that opens, or goes to a name of a lower
rank. The brackets that are open at a part of such a rule can be told from the rule. So a name that
is come to again below itself is come to behind a bracket that was opened in between and is still
open.

* `Rule.level`, `Rule.Levelled`: how many brackets are open behind a rule, and that its references
  stand behind enough of them.
* `Ends.climbs`: what such a rule consumes opens and closes as many brackets as the rule says.
* `OpenSince`: the brackets that are open at an invocation and were not when another one started.
* `exists_open_of_reentry`: a name below itself.
-/

namespace ThriftSchema

variable {V E : Type}

/-! ## Levels of rules -/

/-- A pattern whose lexemes leave open what was. -/
def Pattern.IsNeutral (p : Pattern) : Prop :=
  ∀ {cs count}, p.measure cs = some count → ∀ n, Climbs n (cs.take count) n

namespace Rule

/-- Whether a text is one character of a list. -/
def isOneOf (cs : List Char) (text : String) : Bool := cs.any fun c => text.toList == [c]

theorem isOneOf_iff {cs : List Char} {text : String} :
    isOneOf cs text = true ↔ ∃ c ∈ cs, text.toList = [c] := by
  simp only [isOneOf, List.any_eq_true, beq_iff_eq]

/-- How many brackets are open behind a rule, if `n` are in front of it; alternatives, repetitions
and references leave as many. -/
def level : Rule V E → Nat → Nat
  | literal text, n =>
    if isOneOf openings text then n + 1
    else if isOneOf closings text then n - 1
    else n
  | seq first rest, n => rest.level (first.level n)
  | token _ rule, n | leaf _ rule, n | capture _ rule, n | scope rule, n => rule.level n
  | _, n => n

/-- A text that is one bracket, or holds none. -/
def IsMark (text : String) (n : Nat) : Prop :=
  isOneOf openings text = true ∨ isOneOf closings text = true ∧ 0 < n ∨
    ∀ c ∈ text.toList, IsUnmarked c

/-- With `n` open brackets in front, a rule of the rank `here` closes no more than these, and refers
to names of no higher rank than there are open brackets, or of a rank below its own. -/
def Levelled (rank : String → Nat) (here : Nat) : Nat → Rule V E → Prop
  | n, literal text => IsMark text n
  | _, keyword word => ∀ c ∈ word.toList, IsUnmarked c
  | _, pattern _ p => p.IsNeutral
  | n, seq first rest => first.Levelled rank here n ∧ rest.Levelled rank here (first.level n)
  | n, alt first rest =>
    (first.Levelled rank here n ∧ first.level n = n) ∧
      rest.Levelled rank here n ∧ rest.level n = n
  | n, star rule | n, plus rule | n, opt rule | n, absent rule =>
    rule.Levelled rank here n ∧ rule.level n = n
  | n, ref name => rank name < n + here
  | n, token _ rule | n, leaf _ rule | n, capture _ rule | n, scope rule =>
    rule.Levelled rank here n
  | _, action _ run => run.Stays
  | _, done | _, never | _, finish | _, setSlot _ _ | _, probe _ => True

end Rule

/-! ## What a match consumes -/

/-- Between two states a text was consumed that leads from `n` open brackets to `m`. -/
def Climbed (n : Nat) (s t : State V) (m : Nat) : Prop :=
  ∃ taken, s.cursor.rest = taken ++ t.cursor.rest ∧ Climbs n taken m

namespace Climbed

variable {n m k : Nat} {s t u : State V}

theorem of_rest (h : t.cursor.rest = s.cursor.rest) : Climbed n s t n :=
  ⟨[], h.symm, Climbs.nil_iff.2 rfl⟩

theorem trans (h : Climbed n s t m) (hnext : Climbed m t u k) : Climbed n s u k := by
  obtain ⟨taken, hs, htaken⟩ := h
  obtain ⟨more, ht, hmore⟩ := hnext
  exact ⟨taken ++ more, by rw [hs, ht, List.append_assoc], htaken.append hmore⟩

theorem shift (h : Climbed n s t m) (k : Nat) : Climbed (n + k) s t (m + k) := by
  obtain ⟨taken, hs, htaken⟩ := h
  exact ⟨taken, hs, htaken.shift k⟩

theorem advance {count : Nat} (h : Climbs n (s.cursor.rest.take count) m) :
    Climbed n s (s.advance count) m :=
  ⟨_, (List.take_append_drop ..).symm, h⟩

end Climbed

namespace Result

variable {r : Result V E} {next : State V → Result V E}

theorem matched_of_andThen (h : (r.andThen next).outcome = .matched) :
    r.outcome = .matched ∧ (next r.state).outcome = .matched ∧ r.andThen next = next r.state := by
  cases hr : r.outcome with
  | matched =>
      simp only [andThen, hr] at h ⊢
      exact ⟨trivial, h, trivial⟩
  | failed | stopped stop =>
      simp only [andThen, hr] at h
      cases h

theorem matched_of_orElse (h : (r.orElse next).outcome = .matched) :
    r.outcome = .matched ∧ r.orElse next = r ∨
      r.outcome = .failed ∧ (next r.state).outcome = .matched ∧ r.orElse next = next r.state := by
  cases hr : r.outcome with
  | matched =>
      simp only [orElse, hr]
      exact .inl ⟨trivial, trivial⟩
  | failed =>
      simp only [orElse, hr] at h ⊢
      exact .inr ⟨trivial, h, trivial⟩
  | stopped stop =>
      simp only [orElse, hr] at h
      cases h

end Result

theorem State.rest_pushBuilt {s : State V} {build : String → Except E V} {first : Cursor} :
    (s.pushBuilt build first).state.cursor.rest = s.cursor.rest := by
  unfold State.pushBuilt
  split <;> rfl

theorem State.rest_captureTop {s : State V} {slot : String} :
    (s.captureTop slot : Result V E).state.cursor.rest = s.cursor.rest := by
  unfold State.captureTop
  split <;> rfl

/-- A rule that fails has consumed nothing. -/
theorem Ends.rest_of_failed {rules : Rules V E} {rule : Rule V E} {s : State V} {r : Result V E}
    (h : Ends rules rule s r) (hr : r.outcome = .failed) :
    r.state.cursor.rest = s.cursor.rest :=
  congrArg (fun m : Mark V => m.cursor.rest) (h.undoes.mark hr)

/-- A bracket opens or closes one, and a text without brackets does neither. -/
theorem Rule.IsMark.climbs {text : String} {n : Nat} (h : IsMark text n) :
    Climbs n text.toList ((literal text : Rule V E).level n) := by
  have hopening : ∀ c ∈ openings, ¬IsUnmarked c := by decide
  have hclosing : ∀ c ∈ closings, ¬IsUnmarked c ∧ c ∉ openings := by decide
  rw [level]
  rcases h with hopens | ⟨hcloses, hpos⟩ | hunmarked
  · obtain ⟨c, hc, htext⟩ := isOneOf_iff.1 hopens
    rw [if_pos hopens, htext]
    exact .opening hc
  · obtain ⟨c, hc, htext⟩ := isOneOf_iff.1 hcloses
    have hother : ¬isOneOf openings text = true := by
      rw [isOneOf_iff]
      rintro ⟨d, hd, hsame⟩
      obtain rfl : c = d := by simpa [htext] using hsame
      exact (hclosing c hc).2 hd
    obtain ⟨n, rfl⟩ := Nat.exists_eq_succ_of_ne_zero (Nat.pos_iff_ne_zero.1 hpos)
    rw [if_neg hother, if_pos hcloses, htext]
    exact .closing hc
  · have hno : ∀ cs : List Char, (∀ c ∈ cs, ¬IsUnmarked c) → ¬isOneOf cs text = true := by
      intro cs hcs h
      obtain ⟨c, hc, htext⟩ := isOneOf_iff.1 h
      exact hcs c hc (hunmarked c (htext ▸ List.mem_singleton_self c))
    rw [if_neg (hno _ hopening), if_neg (hno _ fun c hc => (hclosing c hc).1)]
    exact .unmarked hunmarked

theorem Rule.IsAtom.climbs {rank : String → Nat} {here n : Nat} {rule : Rule V E} (h : rule.IsAtom)
    (hrule : rule.Levelled rank here n) (call : String → State V → Result V E) (s : State V)
    (hmatched : (rule.run call s).outcome = .matched) :
    Climbed n s (rule.run call s).state (rule.level n) := by
  have hahead : ∀ {text : String} {m : Nat}, Climbs n text.toList m →
      text.toList.isPrefixOf s.cursor.rest = true → Climbed n s (s.advance text.length) m := by
    intro text m hclimbs hprefix
    have htake := List.prefix_iff_eq_take.1 (List.isPrefixOf_iff_prefix.1 hprefix)
    rw [String.length_toList] at htake
    exact .advance (htake ▸ hclimbs)
  cases rule with
  | literal text =>
      rw [Rule.run] at hmatched ⊢
      split at hmatched
      · next hprefix =>
        rw [if_pos hprefix]
        exact hahead hrule.climbs hprefix
      · cases hmatched
  | keyword word =>
      rw [Rule.run] at hmatched ⊢
      split at hmatched
      · next hword =>
        rw [if_pos hword]
        exact hahead (.unmarked hrule) (Bool.and_eq_true_iff.1 hword).1
      · cases hmatched
  | pattern label p =>
      rw [Rule.run] at hmatched ⊢
      cases hmeasure : p.measure s.cursor.rest with
      | none =>
          rw [hmeasure] at hmatched
          cases hmatched
      | some count => exact .advance (hrule hmeasure n)
  | finish =>
      rw [Rule.run] at hmatched ⊢
      split at hmatched
      · next hempty =>
        rw [if_pos hempty]
        exact .of_rest rfl
      · cases hmatched
  | done | never | setSlot | probe => exact .of_rest rfl
  | action name run =>
      have hcursor := congrArg Cursor.rest (hrule.cursor s.mark)
      rw [Rule.run, State.act]
      generalize run.runOn s.mark = outcome at hcursor
      obtain ⟨stop | ⟨⟩, m⟩ := outcome
      · exact .of_rest hcursor
      · exact .of_rest hcursor
  | seq | alt | star | plus | opt | absent | ref | token | leaf | capture | scope => exact h.elim

section Named

variable {rules : Rules V E} {rank : String → Nat}
  (hnamed : ∀ name rule, rules.find? name = some rule →
    rule.Levelled rank (rank name) 0 ∧ rule.level 0 = 0)

include hnamed

/-- What a rule consumes opens and closes as many brackets as the rule says. -/
theorem Ends.climbs {rule : Rule V E} {s : State V} {r : Result V E} (h : Ends rules rule s r)
    {here n : Nat} (hrule : rule.Levelled rank here n) (hmatched : r.outcome = .matched) :
    Climbed n s r.state (rule.level n) := by
  induction h generalizing here n with
  | atom h => exact h.climbs hrule _ _ hmatched
  | seq hfirst hrest ihFirst ihRest =>
      rcases Result.matched_of_orElse hmatched with ⟨hboth, heq⟩ | ⟨-, hback, -⟩
      · obtain ⟨hdone, hmore, hlast⟩ := Result.matched_of_andThen hboth
        rw [heq, hlast]
        exact (ihFirst hrule.1 hdone).trans (ihRest hdone hrule.2 hmore)
      · cases hback
  | alt hfirst hrest ihFirst ihRest =>
      rcases Result.matched_of_orElse hmatched with ⟨hdone, heq⟩ | ⟨hfailed, hmore, heq⟩
      · have hclimbed := ihFirst hrule.1.1 hdone
        rw [hrule.1.2] at hclimbed
        rw [heq]
        exact hclimbed
      · have hclimbed := ihRest hfailed hrule.2.1 hmore
        rw [hrule.2.2] at hclimbed
        rw [heq]
        exact (Climbed.of_rest (hfirst.rest_of_failed hfailed)).trans hclimbed
  | starDone h hfailed ih => exact .of_rest (h.rest_of_failed hfailed)
  | starStalled h hdone hpos ih =>
      have hclimbed := ih hrule.1 hdone
      rwa [hrule.2] at hclimbed
  | starBroken h hstop ih =>
      rw [hstop] at hmatched
      cases hmatched
  | starNext h hdone hpos hrest ih ihRest =>
      have hclimbed := ih hrule.1 hdone
      rw [hrule.2] at hclimbed
      exact hclimbed.trans (ihRest hrule hmatched)
  | starEndless => cases hmatched
  | plus hfirst hrest ihFirst ihRest =>
      obtain ⟨hdone, hmore, hlast⟩ := Result.matched_of_andThen hmatched
      have hclimbed := ihFirst hrule.1 hdone
      rw [hrule.2] at hclimbed
      rw [hlast]
      exact hclimbed.trans (ihRest hdone hrule hmore)
  | opt h ih =>
      rcases Result.matched_of_orElse hmatched with ⟨hdone, heq⟩ | ⟨hfailed, -, heq⟩
      · have hclimbed := ih hrule.1 hdone
        rw [hrule.2] at hclimbed
        rw [heq]
        exact hclimbed
      · rw [heq]
        exact .of_rest (h.rest_of_failed hfailed)
  | absent h ih =>
      -- where an absence matches, it has gone back
      refine .of_rest ?_
      unfold Result.absence at hmatched ⊢
      split at hmatched
      · cases hmatched
      · rfl
      · next stop hstop =>
        rw [hstop] at hmatched
        cases hmatched
  | refTooDeep => cases hmatched
  | refUndefined hfind => cases hmatched
  | ref hfind h ih =>
      obtain ⟨hlevelled, hlevel⟩ := hnamed _ _ hfind
      have hclimbed := (ih hlevelled hmatched).shift n
      rwa [hlevel, Nat.zero_add] at hclimbed
  | token h ih =>
      rcases Result.matched_of_orElse hmatched with ⟨hdone, heq⟩ | ⟨-, hback, -⟩
      · rw [heq]
        exact ih hrule hdone
      · cases hback
  | leaf h ih =>
      obtain ⟨hdone, -, hlast⟩ := Result.matched_of_andThen hmatched
      rw [hlast]
      exact (ih hrule hdone).trans (.of_rest State.rest_pushBuilt)
  | capture h ih =>
      obtain ⟨hdone, -, hlast⟩ := Result.matched_of_andThen hmatched
      rw [hlast]
      exact (ih hrule hdone).trans (.of_rest State.rest_captureTop)
  | scope h ih => exact ih hrule hmatched

/-- The rounds of a repetition leave open what was. -/
theorem Rounds.climbs {depth here n : Nat} {rule : Rule V E} (hrule : rule.Levelled rank here n)
    (hlevel : rule.level n = n) {s t : State V}
    (h : Rounds (rule.run (rules.call depth)) s t) : Climbed n s t n := by
  induction h with
  | here s => exact .of_rest rfl
  | next hmatched hmoves hrest ih =>
      have hround := (Rule.ends_run rules depth rule _).climbs hnamed hrule hmatched
      rw [hlevel] at hround
      exact hround.trans ih

end Named

/-! ## Brackets that were opened since -/

/-- Since one invocation brackets were opened that are still open at another one: `n` in its own
rule, and others outside of it. That rule is of no higher rank than `before`, or than so many more
as there are others. -/
def OpenSince (rank : String → Nat) (before : Nat) (i j : Invocation V E) : Prop :=
  ∃ outer n here, Climbed 0 i.state j.state (n + outer) ∧ j.rule.Levelled rank here n ∧
    here ≤ before + outer

section Named

variable {rules : Rules V E} {rank : String → Nat}
  (hnamed : ∀ name rule, rules.find? name = some rule →
    rule.Levelled rank (rank name) 0 ∧ rule.level 0 = 0)

include hnamed

/-- What an invocation runs starts behind what was opened in front of it. -/
theorem OpenSince.step {before : Nat} {i j k : Invocation V E} (h : OpenSince rank before i j)
    (hstep : Invokes rules j k) : OpenSince rank before i k := by
  obtain ⟨outer, n, here, hclimbed, hrule, hrank⟩ := h
  have hruns : ∀ {d : Nat} {rule : Rule V E} {s : State V}, rule.Levelled rank here n →
      (rule.run (rules.call d) s).outcome = .matched →
      Climbed (n + outer) s (rule.run (rules.call d) s).state (rule.level n + outer) :=
    fun hlevelled hmatched => ((Rule.ends_run _ _ _ _).climbs hnamed hlevelled hmatched).shift outer
  cases hstep with
  | seqFirst => exact ⟨outer, n, here, hclimbed, hrule.1, hrank⟩
  | seqRest hmatched =>
      exact ⟨outer, _, here, hclimbed.trans (hruns hrule.1 hmatched), hrule.2, hrank⟩
  | altFirst => exact ⟨outer, n, here, hclimbed, hrule.1.1, hrank⟩
  | altRest hfailed =>
      have hback := Climbed.of_rest (n := n + outer)
        ((Rule.ends_run rules _ _ _).rest_of_failed hfailed)
      exact ⟨outer, n, here, hclimbed.trans hback, hrule.2.1, hrank⟩
  | star hrounds =>
      have hround := (hrounds.climbs hnamed hrule.1 hrule.2).shift outer
      exact ⟨outer, n, here, hclimbed.trans hround, hrule.1, hrank⟩
  | plusRest hmatched hrounds =>
      have hfirst := hruns hrule.1 hmatched
      rw [hrule.2] at hfirst
      have hround := (hrounds.climbs hnamed hrule.1 hrule.2).shift outer
      exact ⟨outer, n, here, hclimbed.trans (hfirst.trans hround), hrule.1, hrank⟩
  | plusFirst | opt | absent => exact ⟨outer, n, here, hclimbed, hrule.1, hrank⟩
  | ref hfind =>
      -- all brackets that are open here are outside of the rule of the name
      have hbelow : rank _ < n + here := hrule
      refine ⟨n + outer, 0, rank _, ?_, (hnamed _ _ hfind).1, by omega⟩
      rwa [Nat.zero_add]
  | token | leaf | capture | scope => exact ⟨outer, n, here, hclimbed, hrule, hrank⟩

/-- A name that is come to below itself is come to behind a bracket that was opened since and is
still open. -/
theorem exists_open_of_reentry {i j : Invocation V E} {name : String} (hi : i.rule = .ref name)
    (hj : j.rule = .ref name) (h : Relation.TransGen (Invokes rules) i j) :
    ∃ m, Climbed 0 i.state j.state (m + 1) := by
  obtain ⟨first, hfirst, hrest⟩ := Relation.TransGen.head'_iff.1 h
  have hentered : OpenSince rank (rank name) i first := by
    obtain ⟨depth, rule, s⟩ := i
    obtain rfl : rule = .ref name := hi
    cases hfirst with
    | ref hfind => exact ⟨0, 0, rank name, .of_rest rfl, (hnamed _ _ hfind).1, Nat.le_refl _⟩
  have hsince : ∀ {k}, Reached rules first k → OpenSince rank (rank name) i k := by
    intro k hreached
    induction hreached with
    | refl => exact hentered
    | tail _ hstep ih => exact ih.step hnamed hstep
  obtain ⟨outer, n, here, hclimbed, hrule, hrank⟩ := hsince hrest
  rw [hj] at hrule
  have hopen : rank name < n + here := hrule
  exact ⟨n + outer - 1, by rwa [Nat.sub_add_cancel (by omega)]⟩

end Named

end ThriftSchema
