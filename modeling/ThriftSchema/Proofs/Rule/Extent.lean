import ThriftSchema.Proofs.Rule.Backtracking
import ThriftSchema.Proofs.Rule.Bare
import ThriftSchema.Proofs.Text.Numeral

set_option autoImplicit false

/-! # A match stays in its text

What a match accepts stands in the text. So the cursor never leaves the text, and no failure is
noted behind its end.

* `Rule.Fits`: a part that accepts nothing behind the end of the text.
* `State.Inside`: a state of a match against a text so long.
* `Ends.inside`: a match goes from such states to such states.
-/

namespace ThriftSchema

variable {V E : Type}

/-- A part that accepts only what is ahead if it is a pattern. -/
def Rule.Measures : Rule V E → Prop
  | pattern _ p => p.Fits
  | _ => True

/-- A part that accepts only what is ahead, and leaves the cursor if it is an action. -/
def Rule.Fits (rule : Rule V E) : Prop := rule.Measures ∧ rule.Stays

/-- The cursor is within a text of `total` characters, and the failures noted so far are. -/
structure State.Inside (total : Nat) (s : State V) : Prop where
  ahead : s.pos + s.cursor.rest.length = total
  furthest_le : s.furthest ≤ total

namespace State.Inside

variable {total : Nat} {s t : State V}

theorem initial (text : List Char) : (State.initial text : State V).Inside text.length where
  ahead := Nat.zero_add _
  furthest_le := Nat.zero_le _

theorem pos_le (h : s.Inside total) : s.pos ≤ total := h.ahead ▸ Nat.le_add_right _ _

/-- Accepting what is ahead. -/
theorem advance (h : s.Inside total) {count : Nat} (hcount : count ≤ s.cursor.rest.length) :
    (s.advance count).Inside total where
  ahead := by
    have hahead := h.ahead
    show s.pos + count + (s.cursor.rest.drop count).length = total
    rw [List.length_drop]
    omega
  furthest_le := h.furthest_le

theorem failAt (h : s.Inside total) (label : String) {pos : Nat} (hpos : pos ≤ total) :
    (s.failAt label pos).Inside total := by
  unfold State.failAt
  split
  · exact h
  · split
    · exact ⟨h.ahead, hpos⟩
    · split
      · exact ⟨h.ahead, h.furthest_le⟩
      · exact h

theorem hush (h : s.Inside total) : s.hush.Inside total := ⟨h.ahead, h.furthest_le⟩

theorem unhush (h : s.Inside total) : s.unhush.Inside total := ⟨h.ahead, h.furthest_le⟩

/-- Going back to where the cursor has been. -/
theorem reset (h : t.Inside total) {m : Mark V} (hm : m.cursor.pos + m.cursor.rest.length = total) :
    (t.reset m).Inside total := ⟨hm, h.furthest_le⟩

end State.Inside

section Results

variable {total : Nat} {r : Result V E} {next : State V → Result V E}

theorem Result.inside_andThen (h : r.state.Inside total)
    (hnext : r.outcome = .matched → (next r.state).state.Inside total) :
    (r.andThen next).state.Inside total := by
  unfold Result.andThen
  split
  · next hmatched => exact hnext hmatched
  · exact h

theorem Result.inside_orElse (h : r.state.Inside total)
    (hnext : r.outcome = .failed → (next r.state).state.Inside total) :
    (r.orElse next).state.Inside total := by
  unfold Result.orElse
  split
  · next hfailed => exact hnext hfailed
  · exact h

theorem Result.inside_absence {s : State V} (h : r.state.Inside total) (hs : s.Inside total) :
    (r.absence s).state.Inside total := by
  unfold Result.absence
  split
  · exact h.reset hs.ahead
  · exact h.reset hs.ahead
  · exact h

end Results

variable {total : Nat} {s : State V}

theorem Rule.IsAtom.inside {rule : Rule V E} (h : rule.IsAtom) (hrule : rule.Fits)
    (hs : s.Inside total) (call : String → State V → Result V E) :
    (rule.run call s).state.Inside total := by
  have hrefused : ∀ label, (s.refuse label : Result V E).state.Inside total := fun label =>
    hs.failAt label hs.pos_le
  cases rule with
  | literal text =>
      rw [Rule.run]
      split
      · next hprefix =>
        exact hs.advance (String.length_toList ▸ (List.isPrefixOf_iff_prefix.1 hprefix).length_le)
      · exact hrefused _
  | keyword word =>
      rw [Rule.run]
      split
      · next hword =>
        have hprefix := (Bool.and_eq_true_iff.1 hword).1
        exact hs.advance (String.length_toList ▸ (List.isPrefixOf_iff_prefix.1 hprefix).length_le)
      · exact hrefused _
  | pattern label p =>
      rw [Rule.run]
      split
      · next count hcount => exact hs.advance (hrule.1 _ _ hcount)
      · exact hrefused _
  | finish =>
      rw [Rule.run]
      split
      · exact hs
      · exact hrefused _
  | done | never | setSlot | probe => exact ⟨hs.ahead, hs.furthest_le⟩
  | action name run =>
      have hcursor := hrule.2.cursor s.mark
      have hmark : (run.runOn s.mark).2.cursor.pos + (run.runOn s.mark).2.cursor.rest.length =
          total := hcursor ▸ hs.ahead
      rw [Rule.run, State.act]
      generalize run.runOn s.mark = outcome at hmark
      obtain ⟨stop | ⟨⟩, m⟩ := outcome
      · exact hs.reset hmark
      · exact hs.reset hmark
  | seq | alt | star | plus | opt | absent | ref | token | leaf | capture | scope => exact h.elim

/-- However a rule ends, its match has stayed in the text. -/
theorem Ends.inside {rules : Rules V E}
    (hnamed : ∀ name rule, rules.find? name = some rule → rule.Every Rule.Fits)
    {rule : Rule V E} {r : Result V E} (h : Ends rules rule s r) (hrule : rule.Every Rule.Fits)
    (hs : s.Inside total) : r.state.Inside total := by
  induction h with
  | atom h => exact h.inside hrule.self hs _
  | seq hfirst hrest ihFirst ihRest =>
      have hwhole := Result.inside_andThen (ihFirst hrule.2.1 hs)
        fun hmatched => ihRest hmatched hrule.2.2 (ihFirst hrule.2.1 hs)
      exact Result.inside_orElse hwhole fun _ => hwhole.reset hs.ahead
  | alt hfirst hrest ihFirst ihRest =>
      exact Result.inside_orElse (ihFirst hrule.2.1 hs)
        fun hfailed => ihRest hfailed hrule.2.2 (ihFirst hrule.2.1 hs)
  | starDone h hfailed ih => exact ih hrule.2 hs
  | starStalled h hmatched hpos ih => exact ih hrule.2 hs
  | starBroken h hstop ih => exact ih hrule.2 hs
  | starNext h hmatched hpos hrest ih ihRest => exact ihRest hrule (ih hrule.2 hs)
  | starEndless => exact hs
  | plus hfirst hrest ihFirst ihRest =>
      exact Result.inside_andThen (ihFirst hrule.2 hs)
        fun hmatched => ihRest hmatched ⟨⟨trivial, trivial⟩, hrule.2⟩ (ihFirst hrule.2 hs)
  | opt h ih => exact Result.inside_orElse (ih hrule.2 hs) fun _ => ih hrule.2 hs
  | absent h ih => exact Result.inside_absence (ih hrule.2 hs.hush).unhush hs
  | refTooDeep => exact hs
  | refUndefined hfind => exact hs
  | ref hfind h ih => exact ih (hnamed _ _ hfind) hs
  | token h ih =>
      have hpart := (ih hrule.2 hs.hush).unhush
      exact Result.inside_orElse hpart fun _ => hpart.failAt _ hs.pos_le
  | leaf h ih =>
      refine Result.inside_andThen (ih hrule.2 hs) fun _ => ?_
      have hpart := ih hrule.2 hs
      unfold State.pushBuilt
      split
      · exact ⟨hpart.ahead, hpart.furthest_le⟩
      · exact hpart
  | capture h ih =>
      refine Result.inside_andThen (ih hrule.2 hs) fun _ => ?_
      have hpart := ih hrule.2 hs
      unfold State.captureTop
      split
      · exact hpart
      · exact ⟨hpart.ahead, hpart.furthest_le⟩
  | scope h ih =>
      have hpart := ih hrule.2 ⟨hs.ahead, hs.furthest_le⟩
      exact ⟨hpart.ahead, hpart.furthest_le⟩

end ThriftSchema
