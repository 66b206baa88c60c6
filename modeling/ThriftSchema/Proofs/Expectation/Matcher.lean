import ThriftSchema.Proofs.Expectation.Shape
import ThriftSchema.Proofs.Expectation.Walk

set_option autoImplicit false

/-! # The matcher walks

The rule of a form ends as a walk of the form ends, and leaves a state in which the notes of the
walk have been made.

* `Runs`: a rule that ends in such a way on every state with the text ahead.
* `Walks.runs`: the rule of a form does as the form walks.
-/

namespace ThriftSchema

/-! ## The matcher on tokens -/

section Run

variable {call : String → State Entry → Result Entry BuildError}

/-- On some states a rule moves over what a measure measures, or fails and is missed under a
label. -/
def Measures (P : State Entry → Prop) (call : String → State Entry → Result Entry BuildError)
    (rule : Production) (label : String) (measure : List Char → Option Nat) : Prop :=
  ∀ s, P s → rule.run call s =
    match measure s.cursor.rest with
    | some count => s.accept count
    | none => s.refuse label

/-- Nothing is noted in a quiet state. -/
theorem State.failAt_of_quiet {s : State Entry} (h : s.quiet ≠ 0) (label : String) (pos : Nat) :
    s.failAt label pos = s := if_pos h

theorem State.reset_failAt (s : State Entry) (label : String) (pos : Nat) :
    (s.failAt label pos).reset s.mark = s.failAt label pos := by
  have hmark := s.toMark_failAt label pos
  generalize s.failAt label pos = t at hmark ⊢
  rw [State.mark, ← hmark]
  rfl

/-- The length of what a measure measures together with the layout behind it. -/
def withLayout (measure : List Char → Option Nat) (cs : List Char) : Option Nat :=
  (measure cs).map fun n => n + Pattern.spanLength Pattern.isLayout (cs.drop n)

namespace Measures

variable {P : State Entry → Prop} {rule : Production} {label : String}
  {measure : List Char → Option Nat}

theorem keyword (text : String) :
    Measures P call (.keyword text) (Text.quote text) (Terminal.wordMeasure text) := by
  intro s _
  rw [Rule.run, Terminal.wordMeasure]
  split <;> rfl

theorem literal (text : String) :
    Measures P call (Rule.literal text) (Text.quote text) (Terminal.mark text).measure := by
  intro s _
  rw [Rule.run, Terminal.measure]
  split <;> rfl

theorem pattern (label : String) (p : Pattern) :
    Measures P call (.pattern label p) label p.measure := by
  intro s _
  unfold Rule.run
  cases p.measure s.cursor.rest <;> rfl

/-- In quiet states it does not matter which of some words is missed. -/
theorem firstOf (words : List String) (label : String) :
    Measures (fun s => s.quiet ≠ 0) call (.firstOf (words.map .keyword)) label
      (Terminal.oneOf label words).measure := by
  intro s hquiet
  have hrefuse : ∀ label, (s.refuse label : Result Entry BuildError) = ⟨s, .failed⟩ := by
    intro label
    rw [State.refuse, State.failAt_of_quiet hquiet]
  induction words with
  | nil => exact (hrefuse label).symm
  | cons text words ih =>
      have hword : (Rule.keyword text).run call s = _ :=
        keyword (P := fun s => s.quiet ≠ 0) text s hquiet
      show ((Rule.keyword text).run call s).orElse ((Rule.firstOf _).run call) = _
      rw [hword, Terminal.measure, List.findSome?_cons]
      cases Terminal.wordMeasure text s.cursor.rest with
      | some count => rfl
      | none =>
          rw [hrefuse]
          exact ih

theorem spaced (h : Measures P call rule label measure) :
    Measures P call (Production.spaced rule) label (withLayout measure) := by
  intro s hs
  show ((rule.run call s).andThen fun t => _).orElse _ = _
  rw [h s hs, withLayout]
  cases measure s.cursor.rest with
  | some count =>
      -- layout is always there
      let blanks := Pattern.spanLength Pattern.isLayout (s.cursor.rest.drop count)
      show (⟨(s.advance count).advance blanks, .matched⟩ : Result Entry BuildError) =
        ⟨s.advance (count + blanks), .matched⟩
      simp only [State.advance, Cursor.advance, List.drop_drop, Nat.add_assoc]
  | none =>
      show (⟨(s.failAt label s.pos).reset s.mark, .failed⟩ : Result Entry BuildError) = _
      rw [State.reset_failAt]
      rfl

theorem token (h : Measures (fun s => s.quiet ≠ 0) call rule label measure) :
    Measures P call (Rule.token label rule) label measure := by
  intro s _
  have hquiet : s.hush.quiet ≠ 0 := Nat.succ_ne_zero _
  have hrest : s.hush.cursor.rest = s.cursor.rest := rfl
  rw [Rule.run, h s.hush hquiet, hrest]
  cases measure s.cursor.rest with
  | some count => rfl
  | none =>
      rw [State.refuse, State.failAt_of_quiet hquiet]
      rfl

end Measures

theorem Terminal.measures (t : Terminal) :
    Measures (fun _ => True) call t.rule t.label (withLayout t.measure) := by
  cases t with
  | word text => exact .spaced (.keyword text)
  | mark text => exact .spaced (.literal text)
  | lexeme label kind => exact .token (.spaced (.pattern label kind.pattern))
  | oneOf label words => exact .token (.spaced (.firstOf words label))
  | separator label => exact .spaced (.pattern label Pattern.separator)

end Run

/-! ## States along a walk -/

namespace State

/-- A state in which some more notes are made, in a text of `total` characters. -/
def noting (s : State Entry) (total : Nat) (notes : List Note) : State Entry :=
  notes.foldl (fun s note => s.failAt note.terminal.label (total - note.ahead)) s

/-- The state that a walk from `s` comes to with `rest` ahead. -/
def along (s : State Entry) (total : Nat) (rest : List Char) (notes : List Note) : State Entry :=
  { s.noting total notes with cursor := ⟨total - rest.length, rest⟩ }

variable {s : State Entry} {total : Nat} {rest middle : List Char} {notes others : List Note}

theorem failAt_cursor (s : State Entry) (cursor : Cursor) (label : String) (pos : Nat) :
    ({ s with cursor := cursor } : State Entry).failAt label pos =
      { s.failAt label pos with cursor := cursor } := by
  unfold failAt
  show (if s.quiet ≠ 0 then _ else if s.furthest < pos then _ else if pos = s.furthest then _
    else _ : State Entry) = _
  split
  · rfl
  · split
    · rfl
    · split <;> rfl

theorem failAt_along (note : Note) :
    (s.along total rest notes).failAt note.terminal.label (total - note.ahead) =
      s.along total rest (notes ++ [note]) := by
  rw [along, failAt_cursor, along, noting, noting, List.foldl_append]
  rfl

theorem toMark_noting : (s.noting total notes).toMark = s.toMark := by
  rw [noting]
  induction notes generalizing s with
  | nil => rfl
  | cons note notes ih => rw [List.foldl_cons, ih, toMark_failAt]

theorem reset_along :
    (s.along total middle others).reset (s.along total rest notes).mark =
      s.along total rest others := by
  have hmark : ∀ notes, (s.along total rest notes).mark =
      ⟨⟨total - rest.length, rest⟩, s.stack, s.frame⟩ := by
    intro notes
    have hsame : (s.noting total notes).toMark = s.toMark := toMark_noting
    rw [mark, along, hsame]
  rw [hmark, ← hmark others]
  rfl

end State

/-! ## The matcher walks -/

/-- How a form ended that left a text, or none. -/
def verdict : Option (List Char) → Outcome BuildError
  | some _ => .matched
  | none => .failed

section Run

variable {call : String → State Entry → Result Entry BuildError} {s : State Entry} {total : Nat}
  {input : List Char} {notes : List Note}

theorem Terminal.le_of_measure {t : Terminal} {cs : List Char} {n : Nat}
    (h : t.measure cs = some n) : n ≤ cs.length := by
  have hword : ∀ {text : String}, wordMeasure text cs = some n → n ≤ cs.length := by
    intro text hmeasure
    obtain ⟨rest, rfl, -, rfl⟩ := wordMeasure_eq_some.1 hmeasure
    exact (List.prefix_append ..).length_le
  cases t with
  | word text => exact hword h
  | mark text =>
      simp only [measure] at h
      split at h
      · next hprefix =>
        rw [← Option.some.inj h, ← String.length_toList]
        exact (List.isPrefixOf_iff_prefix.1 hprefix).length_le
      · cases h
  | lexeme label kind =>
      obtain ⟨lexeme, rest, rfl, rfl, -⟩ := LexemeKind.exists_shape h
      exact (List.prefix_append ..).length_le
  | oneOf label words =>
      obtain ⟨text, -, hmeasure⟩ := List.exists_of_findSome?_eq_some h
      exact hword hmeasure
  | separator label =>
      obtain ⟨c, rest, rfl, -, rfl⟩ := separator_eq_some h
      exact Nat.succ_le_succ (Nat.zero_le _)

theorem Reader.skipLayout_eq_drop (cs : List Char) :
    Reader.skipLayout cs = cs.drop (Pattern.spanLength Pattern.isLayout cs) := by
  conv => rhs; arg 2; rw [← List.takeWhile_append_dropWhile (p := Pattern.isLayout) (l := cs)]
  exact (List.drop_left ..).symm

theorem Terminal.run_along (t : Terminal) (head : Head) (hinput : input.length ≤ total) :
    t.rule.run call (s.along total input notes) =
      match t.read input with
      | some rest => ⟨s.along total rest notes, .matched⟩
      | none => ⟨s.along total input (notes ++ [⟨t, head, input.length⟩]), .failed⟩ := by
  have hrest : (s.along total input notes).cursor.rest = input := rfl
  rw [t.measures _ trivial, hrest, withLayout, read]
  cases hmeasure : t.measure input with
  | none =>
      show (⟨(s.along total input notes).failAt t.label (total - input.length), .failed⟩ :
        Result Entry BuildError) = _
      rw [s.failAt_along ⟨t, head, input.length⟩]
      rfl
  | some n =>
      have hn : n ≤ input.length := le_of_measure hmeasure
      let blanks := Pattern.spanLength Pattern.isLayout (input.drop n)
      have hblanks : blanks ≤ (input.drop n).length := (List.takeWhile_prefix _).length_le
      have hskip : Reader.skipLayout (input.drop n) = input.drop (n + blanks) := by
        rw [Reader.skipLayout_eq_drop, List.drop_drop]
      have hcursor : (⟨total - input.length, input⟩ : Cursor).advance (n + blanks) =
          ⟨total - (input.drop (n + blanks)).length, input.drop (n + blanks)⟩ := by
        rw [List.length_drop] at hblanks
        have hpos : total - input.length + (n + blanks) =
            total - (input.drop (n + blanks)).length := by
          rw [List.length_drop]
          omega
        rw [Cursor.advance, hpos]
      show (⟨{ s.noting total notes with
          cursor := (⟨total - input.length, input⟩ : Cursor).advance (n + blanks) }, .matched⟩ :
        Result Entry BuildError) =
          ⟨s.along total (Reader.skipLayout (input.drop n)) notes, .matched⟩
      rw [hcursor, hskip, State.along]

theorem Result.orElse_assoc (r : Result Entry BuildError)
    (f g : State Entry → Result Entry BuildError) :
    (r.orElse f).orElse g = r.orElse fun t => (f t).orElse g := by
  obtain ⟨t, outcome⟩ := r
  cases outcome <;> rfl

theorem Result.orElse_never (r : Result Entry BuildError) :
    r.orElse (Rule.never.run call) = r := by
  obtain ⟨t, outcome⟩ := r
  cases outcome <;> rfl

/-- In front of the rest of a choice a head is tried as it is by itself. -/
theorem Head.run_before (head : Head) (rest : Production) (t : State Entry) :
    (head.before rest).run call t = (head.rule.run call t).orElse (rest.run call) := by
  have hchoice : ∀ (ts : List Terminal) (t : State Entry), ((choice ts).before rest).run call t =
      (((choice ts).before .never).run call t).orElse (rest.run call) := by
    intro ts t
    induction ts generalizing t with
    | nil => rfl
    | cons u ts ih =>
        show (u.rule.run call t).orElse (((choice ts).before rest).run call) =
          ((u.rule.run call t).orElse (((choice ts).before .never).run call)).orElse _
        rw [Result.orElse_assoc, funext ih]
  cases head with
  | choice ts =>
      rcases ts with _ | ⟨u, _ | ⟨v, ts⟩⟩
      · exact hchoice [] t
      · rfl
      · exact hchoice (u :: v :: ts) t
  | pair first second => rfl

theorem Head.run_tryEach {head : Head} {ts : List Terminal} {left : Option (List Char)}
    {more : List Note} (h : head.tryEach ts input = (left, more)) (hinput : input.length ≤ total) :
    ((choice ts).before .never).run call (s.along total input notes) =
      ⟨s.along total (left.getD input) (notes ++ more), verdict left⟩ := by
  induction ts generalizing notes left more with
  | nil =>
      cases h
      rw [List.append_nil]
      rfl
  | cons t ts ih =>
      rw [tryEach] at h
      show (t.rule.run call (s.along total input notes)).orElse
        (((choice ts).before .never).run call) = _
      rw [t.run_along head hinput]
      cases hread : t.read input with
      | some last =>
          rw [hread] at h
          cases h
          rw [List.append_nil]
          rfl
      | none =>
          rw [hread] at h
          cases h
          show ((choice ts).before .never).run call (s.along total input _) = _
          rw [ih rfl, List.append_assoc, List.singleton_append]

theorem Head.run_attempt {head : Head} {left : Option (List Char)} {more : List Note}
    (h : head.attempt input = (left, more)) (hinput : input.length ≤ total) :
    head.rule.run call (s.along total input notes) =
      ⟨s.along total (left.getD input) (notes ++ more), verdict left⟩ := by
  cases head with
  | choice ts =>
      have hchoice : ((choice ts).before .never).run call (s.along total input notes) = _ :=
        run_before (choice ts) .never _
      rw [Result.orElse_never] at hchoice
      rw [← hchoice]
      exact run_tryEach h hinput
  | pair first second =>
      rw [attempt] at h
      show ((first.rule.run call (s.along total input notes)).andThen
        ((Rule.seq second.rule .done).run call)).orElse _ = _
      rw [first.run_along (.pair first second) hinput]
      cases hfirst : first.read input with
      | none =>
          rw [hfirst] at h
          cases h
          show (⟨(s.along total input _).reset (s.along total input notes).mark, .failed⟩ :
            Result Entry BuildError) = _
          rw [State.reset_along]
          rfl
      | some middle =>
          rw [hfirst] at h
          have hmiddle := Nat.le_trans (Terminal.length_le_of_read hfirst) hinput
          have hseq : (Rule.seq second.rule .done).run call (s.along total middle notes) =
              ((second.rule.run call (s.along total middle notes)).andThen
                (Rule.done.run call)).orElse
                  fun t => ⟨t.reset (s.along total middle notes).mark, .failed⟩ := rfl
          show ((Rule.seq second.rule .done).run call (s.along total middle notes)).orElse _ = _
          rw [hseq, second.run_along (.choice [second]) hmiddle]
          cases hsecond : second.read middle with
          | none =>
              simp only [hsecond] at h
              cases h
              show (⟨((s.along total middle _).reset (s.along total middle notes).mark).reset
                (s.along total input notes).mark, .failed⟩ : Result Entry BuildError) = _
              rw [State.reset_along, State.reset_along]
              rfl
          | some last =>
              simp only [hsecond] at h
              cases h
              rw [List.append_nil]
              rfl

/-- The first part of a choice is tried by itself. -/
theorem Form.run_alt (first rest : Form) (t : State Entry) :
    (alt first rest).rule.run call t = (first.rule.run call t).orElse (rest.rule.run call) := by
  cases first with
  | lead head => exact head.run_before rest.rule t
  | _ => rfl

/-! ## The matcher on forms -/

/-- A rule on a text leaves a text, or fails, and makes some notes. -/
def Runs (call : String → State Entry → Result Entry BuildError) (rule : Production)
    (input : List Char) (left : Option (List Char)) (more : List Note) : Prop :=
  ∀ (s : State Entry) (total : Nat) (notes : List Note), input.length ≤ total →
    rule.run call (s.along total input notes) =
      ⟨s.along total (left.getD input) (notes ++ more), verdict left⟩

/-- The rounds of a rule on a text leave a text, whatever bounds them, if that is enough. -/
def Repeats (call : String → State Entry → Result Entry BuildError) (rule : Production)
    (input last : List Char) (more : List Note) : Prop :=
  ∀ (s : State Entry) (total : Nat) (notes : List Note) (bound : List Char),
    input.length ≤ total → input.length < bound.length →
    repeatStep (rule.run call) bound (s.along total input notes) =
      ⟨s.along total last (notes ++ more), .matched⟩

section Runs

variable {first rest body : Production} {middle last : List Char} {left : Option (List Char)}
  {tried more : List Note}

theorem Runs.seq (hfirst : Runs call first input (some middle) tried)
    (hrest : Runs call rest middle left more) (hmiddle : middle.length ≤ input.length) :
    Runs call (.seq first rest) input left (tried ++ more) := by
  intro s total notes hinput
  show ((first.run call (s.along total input notes)).andThen (rest.run call)).orElse _ = _
  rw [hfirst s total notes hinput]
  show (rest.run call (s.along total middle (notes ++ tried))).orElse _ = _
  rw [hrest s total _ (Nat.le_trans hmiddle hinput), List.append_assoc]
  cases left with
  | some last => rfl
  | none =>
      show (⟨(s.along total middle _).reset (s.along total input notes).mark, .failed⟩ :
        Result Entry BuildError) = _
      rw [State.reset_along]
      rfl

theorem Runs.seqFailed (hfirst : Runs call first input none tried) (rest : Production) :
    Runs call (.seq first rest) input none tried := by
  intro s total notes hinput
  show ((first.run call (s.along total input notes)).andThen _).orElse _ = _
  rw [hfirst s total notes hinput]
  show (⟨(s.along total input _).reset (s.along total input notes).mark, .failed⟩ :
    Result Entry BuildError) = _
  rw [State.reset_along]
  rfl

theorem Runs.opt (h : Runs call body input left tried) :
    Runs call (.opt body) input (some (left.getD input)) tried := by
  intro s total notes hinput
  show (body.run call (s.along total input notes)).orElse _ = _
  rw [h s total notes hinput]
  cases left <;> rfl

theorem Repeats.done (h : Runs call body input none tried) :
    Repeats call body input input tried := by
  intro s total notes bound hinput hbound
  obtain ⟨c, bound, rfl⟩ := List.exists_cons_of_length_pos (Nat.zero_lt_of_lt hbound)
  rw [repeatStep, h s total notes hinput]
  rfl

theorem Repeats.next (h : Runs call body input (some middle) tried)
    (hmoves : middle.length < input.length) (hnext : Repeats call body middle last more) :
    Repeats call body input last (tried ++ more) := by
  intro s total notes bound hinput hbound
  obtain ⟨c, bound, rfl⟩ := List.exists_cons_of_length_pos (Nat.zero_lt_of_lt hbound)
  have hpos : (s.along total middle (notes ++ tried)).pos ≠ (s.along total input notes).pos := by
    show total - middle.length ≠ total - input.length
    omega
  have hmiddle : middle.length < bound.length := by
    rw [List.length_cons] at hbound
    omega
  rw [repeatStep, h s total notes hinput]
  show (if (s.along total middle (notes ++ tried)).pos = (s.along total input notes).pos then _
    else _) = _
  rw [if_neg hpos, ← List.append_assoc]
  exact hnext s total _ bound (Nat.le_trans (Nat.le_of_lt hmoves) hinput) hmiddle

theorem Repeats.runs (h : Repeats call body input last more) :
    Runs call (.star body) input (some last) more := by
  intro s total notes hinput
  refine h s total notes _ hinput ?_
  show input.length < (' ' :: ' ' :: input).length
  simp only [List.length_cons]
  omega

end Runs

end Run

/-- The rule of a form does as the form walks. -/
theorem Walks.runs {depth : Nat} {form : Form} {input : List Char} {left : Option (List Char)}
    {notes : List Note} (h : Walks depth form input left notes) :
    Runs ((Production.rules { }).bare.call depth) form.rule input left notes := by
  -- a repetition goes on as another repetition, whose rounds are bounded by what is left of hers
  suffices hboth : Runs ((Production.rules { }).bare.call depth) form.rule input left notes ∧
      ∀ body last, form = .star body → left = some last →
        Repeats ((Production.rules { }).bare.call depth) body.rule input last notes from hboth.1
  induction h with
  | lead h => exact ⟨fun _ _ _ => Head.run_attempt h, nofun⟩
  | done =>
      refine ⟨fun s total notes _ => ?_, nofun⟩
      rw [List.append_nil]
      rfl
  | never =>
      refine ⟨fun s total notes _ => ?_, nofun⟩
      rw [List.append_nil]
      rfl
  | seq hfirst _ ihFirst ihRest =>
      exact ⟨ihFirst.1.seq ihRest.1 (hfirst.within.left _ rfl), nofun⟩
  | seqFailed _ ih => exact ⟨ih.1.seqFailed _, nofun⟩
  | alt _ ih =>
      refine ⟨fun s total notes hinput => ?_, nofun⟩
      rw [Form.run_alt, ih.1 s total notes hinput]
      rfl
  | altRest _ _ ihFirst ihRest =>
      refine ⟨fun s total notes hinput => ?_, nofun⟩
      rw [Form.run_alt, ihFirst.1 s total notes hinput, ← List.append_assoc]
      exact ihRest.1 s total _ hinput
  | starDone _ ih =>
      refine ⟨(Repeats.done ih.1).runs, ?_⟩
      rintro body last ⟨⟩ ⟨⟩
      exact .done ih.1
  | starNext _ hmoves _ ih ihNext =>
      have hnext := ihNext.2 _ _ rfl rfl
      refine ⟨(Repeats.next ih.1 hmoves hnext).runs, ?_⟩
      rintro body last ⟨⟩ ⟨⟩
      exact .next ih.1 hmoves hnext
  | opt _ ih => exact ⟨ih.1.opt, nofun⟩
  | optAbsent _ ih => exact ⟨ih.1.opt, nofun⟩
  | @ref depth name form input left notes hfind _ ih =>
      refine ⟨fun s total notes hinput => ?_, nofun⟩
      have hrule : (Production.rules { }).bare.find? name = some form.rule := by
        rw [Form.find?_rules, hfind]
        rfl
      show (Production.rules { }).bare.call (depth + 1) name _ = _
      rw [Rules.call, hrule]
      exact ih.1 s total notes hinput

end ThriftSchema
