import ThriftSchema.Proofs.Number.Spelling
import ThriftSchema.Proofs.Reader.Production

set_option autoImplicit false

/-! # Rules that perform readers

A rule of the matcher works on stack and frame; a reader gives a value. `Performs` relates the
two: from a store, which is a stack and a frame, the rule ends as the reader does on the text
ahead, and where the reader gives a value, the rule has moved over the same text and left the
store that belongs to the value. A rule that fails leaves no trace in cursor, stack and frame.

There is one lemma for each way of putting rules together, so that a production is followed
part by part, in the order of its parts.
-/

namespace ThriftSchema

variable {α β : Type}

namespace Bindings

/-- Binds a name to a value if there is one. -/
def fill {V : Type} (bindings : Bindings V) (name : String) : Option V → Bindings V
  | none => bindings
  | some value => bindings.set name value

@[simp] theorem get?_nil {V : Type} (name : String) : get? ([] : Bindings V) name = none := rfl

theorem get?_fill {V : Type} (bindings : Bindings V) (name name' : String) (value : Option V) :
    (bindings.fill name value).get? name' =
      if name' = name then value.or (bindings.get? name') else bindings.get? name' := by
  cases value with
  | none => simp [fill]
  | some value => simp [fill, get?_set]

end Bindings

/-- A stack and a frame. -/
abbrev Store := List Entry × Frame Entry

/-- What a match is run with: the outcome of every reference. -/
abbrev Calls := String → State Entry → Result Entry BuildError

/-- The reasons to break off that lie in the text: it nests too deep, or a decimal integer in it
is too long. -/
def Stop.IsOfText : Stop BuildError → Prop
  | .nestingTooDeep => True
  | .raised (.integerTooLong _) => True
  | _ => False

/-- A result of a rule on `s` that is as an attempt on the text ahead says. -/
def Agrees (s : State Entry) (r : Result Entry BuildError) (after : α → Store) :
    Attempt BuildError α → Prop
  | .failed => r.outcome = .failed ∧ r.state.toMark = s.toMark
  | .stopped stop => r.outcome = .stopped stop ∧ stop.IsOfText
  | .read a rest => r.outcome = .matched ∧ ∃ text, s.cursor.rest = text ++ rest ∧
      r.state.toMark = ⟨⟨s.cursor.pos + text.length, rest⟩, (after a).1, (after a).2⟩

/-- From a store, a rule ends as a reader does, and with a value of the reader it leaves the
store `after` that value. -/
def Performs (call : Calls) (rule : Production) (store : Store) (p : PartReader α)
    (after : α → Store) : Prop :=
  ∀ s : State Entry, s.stack = store.1 → s.frame = store.2 →
    Agrees s (rule.run call s) after (p s.cursor.rest)

/-- From one state to another one over a part of the text ahead, onto a store. -/
def Moves (s t : State Entry) (store : Store) (rest : List Char) : Prop :=
  ∃ text, s.cursor.rest = text ++ rest ∧
    t.toMark = ⟨⟨s.cursor.pos + text.length, rest⟩, store.1, store.2⟩

namespace Moves

variable {s t u : State Entry} {store last : Store} {middle rest : List Char}

theorem stay (hstack : s.stack = store.1) (hframe : s.frame = store.2)
    (hmark : t.toMark = s.toMark) : Moves s t store s.cursor.rest := by
  refine ⟨[], rfl, ?_⟩
  rw [hmark, ← hstack, ← hframe]
  rfl

theorem rest_eq (h : Moves s t store rest) : t.cursor.rest = rest := by
  obtain ⟨text, -, hmark⟩ := h
  exact congrArg (fun m : Mark Entry => m.cursor.rest) hmark

theorem stack_eq (h : Moves s t store rest) : t.stack = store.1 := by
  obtain ⟨text, -, hmark⟩ := h
  exact congrArg Mark.stack hmark

theorem frame_eq (h : Moves s t store rest) : t.frame = store.2 := by
  obtain ⟨text, -, hmark⟩ := h
  exact congrArg Mark.frame hmark

/-- How far the cursor went is told by its positions. -/
theorem pos_eq_iff (h : Moves s t store rest) :
    t.cursor.pos = s.cursor.pos ↔ rest.length = s.cursor.rest.length := by
  obtain ⟨text, htext, hmark⟩ := h
  have hpos : t.cursor.pos = s.cursor.pos + text.length :=
    congrArg (fun m : Mark Entry => m.cursor.pos) hmark
  rw [htext, List.length_append]
  omega

theorem length_le (h : Moves s t store rest) : rest.length ≤ s.cursor.rest.length := by
  obtain ⟨text, htext, -⟩ := h
  rw [htext, List.length_append]
  omega

theorem trans (h : Moves s t store middle) (h' : Moves t u last rest) : Moves s u last rest := by
  obtain ⟨text, htext, hmark⟩ := h
  obtain ⟨text', htext', hmark'⟩ := h'
  have hcursor : t.cursor = ⟨s.cursor.pos + text.length, middle⟩ := congrArg Mark.cursor hmark
  rw [hcursor] at htext' hmark'
  dsimp only at htext'
  refine ⟨text ++ text', ?_, ?_⟩
  · rw [htext, htext', List.append_assoc]
  · rw [List.length_append, ← Nat.add_assoc]
    exact hmark'

/-- Only the store of the place that is come to counts. -/
theorem onto (h : Moves s t store rest) (hcursor : u.cursor = t.cursor)
    (hstack : u.stack = last.1) (hframe : u.frame = last.2) : Moves s u last rest := by
  obtain ⟨text, htext, hmark⟩ := h
  have hplace : t.cursor = ⟨s.cursor.pos + text.length, rest⟩ := congrArg Mark.cursor hmark
  refine ⟨text, htext, ?_⟩
  rw [← hstack, ← hframe, ← hplace, ← hcursor]

end Moves

/-! ## Results put together -/

namespace Agrees

variable {s : State Entry} {r : Result Entry BuildError} {after : α → Store}
  {then' : β → Store} {a other : Attempt BuildError α}

theorem of_moves {t : State Entry} {v : α} {rest : List Char} (h : Moves s t (after v) rest) :
    Agrees s ⟨t, .matched⟩ after (.read v rest) := ⟨rfl, h⟩

/-- A rule that matched took what the reader takes. -/
theorem read (h : Agrees s r after a) (hmatched : r.outcome = .matched) :
    ∃ v, a = .read v r.state.cursor.rest ∧ Moves s r.state (after v) r.state.cursor.rest := by
  cases a with
  | failed => rw [h.1] at hmatched; cases hmatched
  | stopped stop => rw [h.1] at hmatched; cases hmatched
  | read v rest =>
      have hmoves : Moves s r.state (after v) rest := h.2
      obtain rfl := hmoves.rest_eq
      exact ⟨v, rfl, hmoves⟩

/-- A rule that broke off did so for the text, as the reader does. -/
theorem stopped (h : Agrees s r after a) {stop : Stop BuildError}
    (hstop : r.outcome = .stopped stop) : a = .stopped stop ∧ stop.IsOfText := by
  cases a with
  | failed => rw [h.1] at hstop; cases hstop
  | stopped why =>
      rw [h.1] at hstop
      cases hstop
      exact ⟨rfl, h.2⟩
  | read v rest => rw [h.1] at hstop; cases hstop

/-- Going on behind a match, if it is not gone back from there. -/
theorem andThen {next : State Entry → Result Entry BuildError} {f : α → PartReader β}
    (h : Agrees s r after a)
    (hnext : ∀ v rest, a = .read v rest → Moves s r.state (after v) rest →
      Agrees s (next r.state) then' (f v rest)) :
    Agrees s (r.andThen next) then' (a.andThen f) := by
  obtain ⟨t, outcome⟩ := r
  cases a with
  | failed =>
      obtain ⟨rfl, hmark⟩ := h
      exact ⟨rfl, hmark⟩
  | stopped stop =>
      obtain ⟨rfl, hstop⟩ := h
      exact ⟨rfl, hstop⟩
  | read v rest =>
      obtain ⟨rfl, hmoves⟩ := h
      exact hnext v rest rfl hmoves

/-- Another try behind a failure, which has left no trace. -/
theorem orElse {next : State Entry → Result Entry BuildError} (h : Agrees s r after a)
    (hnext : ∀ t : State Entry, t.toMark = s.toMark → Agrees s (next t) after other) :
    Agrees s (r.orElse next) after (a.orElse other) := by
  obtain ⟨t, outcome⟩ := r
  cases a with
  | failed =>
      obtain ⟨rfl, hmark⟩ := h
      exact hnext t hmark
  | stopped stop =>
      obtain ⟨rfl, hstop⟩ := h
      exact ⟨rfl, hstop⟩
  | read v rest =>
      obtain ⟨rfl, hmoves⟩ := h
      exact ⟨rfl, hmoves⟩

/-- A value that is put through a function. -/
theorem map {f : α → β} (h : Agrees s r after a) (hafter : ∀ v, after v = then' (f v)) :
    Agrees s r then' (a.andThen fun v rest => .read (f v) rest) := by
  cases a with
  | failed => exact h
  | stopped stop => exact h
  | read v rest =>
      obtain ⟨ho, hmoves⟩ := h
      rw [hafter] at hmoves
      exact ⟨ho, hmoves⟩

/-- The same attempt from another state with the same mark. -/
theorem of_toMark {t : State Entry} (hmark : t.toMark = s.toMark) (h : Agrees t r after a) :
    Agrees s r after a := by
  have hcursor : t.cursor = s.cursor := congrArg Mark.cursor hmark
  cases a with
  | failed => exact ⟨h.1, h.2.trans hmark⟩
  | stopped stop => exact h
  | read v rest =>
      unfold Agrees at h
      rwa [hcursor] at h

end Agrees

namespace Performs

variable {call : Calls} {rule first rest : Production} {store : Store} {p q : PartReader α}
  {after : α → Store}

/-! ## Sequences -/

theorem done {a : α} (h : after a = store) : Performs call .done store (pure a) after := by
  intro s hstack hframe
  exact .of_moves (.stay (by rw [h, hstack]) (by rw [h, hframe]) rfl)

/-- One rule after another on one state: the second starts where the first one ends. -/
theorem agrees_seq {f : α → PartReader β} {then' : β → Store} {s : State Entry}
    {r₁ : Result Entry BuildError} (hr : first.run call s = r₁)
    (h₁ : Agrees s r₁ after (p s.cursor.rest))
    (hrest : ∀ a, p s.cursor.rest = .read a r₁.state.cursor.rest →
      r₁.state.stack = (after a).1 → r₁.state.frame = (after a).2 →
      Agrees r₁.state (rest.run call r₁.state) then' (f a r₁.state.cursor.rest)) :
    Agrees s ((Rule.seq first rest).run call s) then' ((p >>= f) s.cursor.rest) := by
  rw [Reader.bind_apply, Rule.run, hr]
  obtain ⟨s₁, o₁⟩ := r₁
  cases hp : p s.cursor.rest with
  | failed =>
      rw [hp] at h₁
      obtain ⟨rfl, -⟩ := h₁
      exact ⟨rfl, rfl⟩
  | stopped stop =>
      rw [hp] at h₁
      obtain ⟨rfl, hstop⟩ := h₁
      exact ⟨rfl, hstop⟩
  | read a middle =>
      rw [hp] at h₁
      obtain ⟨rfl, hmoves⟩ : o₁ = .matched ∧ Moves s s₁ (after a) middle := h₁
      have h₂ := hrest a (by rw [hp, hmoves.rest_eq]) hmoves.stack_eq hmoves.frame_eq
      dsimp only at h₂
      rw [hmoves.rest_eq] at h₂
      simp only [Result.andThen, Attempt.andThen]
      generalize rest.run call s₁ = r₂ at h₂ ⊢
      obtain ⟨s₂, o₂⟩ := r₂
      cases hf : f a middle with
      -- the second rule may fail behind the first one: then the sequence goes back
      | failed =>
          rw [hf] at h₂
          obtain ⟨rfl, -⟩ := h₂
          exact ⟨rfl, rfl⟩
      | stopped stop =>
          rw [hf] at h₂
          obtain ⟨rfl, hstop⟩ := h₂
          exact ⟨rfl, hstop⟩
      | read b last =>
          rw [hf] at h₂
          obtain ⟨rfl, hmoves'⟩ : o₂ = .matched ∧ Moves s₁ s₂ (then' b) last := h₂
          exact .of_moves (hmoves.trans hmoves')

theorem seq {f : α → PartReader β} {then' : β → Store} (hfirst : Performs call first store p after)
    (hrest : ∀ a, Performs call rest (after a) (f a) then') :
    Performs call (.seq first rest) store (p >>= f) then' := by
  intro s hstack hframe
  exact agrees_seq rfl (hfirst s hstack hframe) fun a _ hstack₁ hframe₁ =>
    hrest a _ hstack₁ hframe₁

/-! ## Choices -/

theorem never : Performs call .never store (Reader.fail : PartReader α) after :=
  fun _ _ _ => ⟨rfl, rfl⟩

theorem alt (hfirst : Performs call first store p after)
    (hrest : Performs call rest store q after) :
    Performs call (.alt first rest) store (p <|> q) after := by
  intro s hstack hframe
  rw [Reader.orElse_apply, Rule.run]
  refine (hfirst s hstack hframe).orElse fun t hmark => .of_toMark hmark ?_
  have hsecond := hrest t (by rw [hmark]; exact hstack) (by rw [hmark]; exact hframe)
  rwa [show t.cursor = s.cursor from congrArg Mark.cursor hmark] at hsecond

theorem opt (h : Performs call rule store p after) :
    Performs call (.opt rule) store (Reader.optional p) (fun o => o.elim store after) := by
  intro s hstack hframe
  rw [Reader.optional, Rule.run]
  have hsome : Agrees s (rule.run call s) (fun o : Option α => o.elim store after)
      ((p s.cursor.rest).andThen fun a rest => .read (some a) rest) :=
    (h s hstack hframe).map fun a => rfl
  exact hsome.orElse fun t hmark => .of_moves (.stay hstack hframe hmark)

/-! ## Repetitions -/

/-- The rounds of a repetition, after values that are on the store already. -/
theorem rounds {after : List α → Store}
    (h : ∀ as, Performs call rule (after as) p (fun a => after (as ++ [a])))
    (bound : List Char) (as : List α) (s : State Entry) (hstack : s.stack = (after as).1)
    (hframe : s.frame = (after as).2) (hbound : s.cursor.rest.length < bound.length) :
    Agrees s (repeatStep (rule.run call) bound s) (fun bs => after (as ++ bs))
      (Reader.manyWithin p bound s.cursor.rest) := by
  induction bound generalizing as s with
  | nil => exact absurd hbound (Nat.not_lt_zero _)
  | cons c bound ih =>
      have h₁ := h as s hstack hframe
      rw [repeatStep, Reader.manyWithin]
      generalize rule.run call s = r₁ at h₁ ⊢
      obtain ⟨s₁, o₁⟩ := r₁
      cases hp : p s.cursor.rest with
      | failed =>
          rw [hp] at h₁
          obtain ⟨rfl, hmark⟩ := h₁
          exact .of_moves (.stay (by rw [List.append_nil]; exact hstack)
            (by rw [List.append_nil]; exact hframe) hmark)
      | stopped stop =>
          rw [hp] at h₁
          obtain ⟨rfl, hstop⟩ := h₁
          exact ⟨rfl, hstop⟩
      | read a rest =>
          rw [hp] at h₁
          obtain ⟨rfl, hmoves⟩ : o₁ = .matched ∧ Moves s s₁ (after (as ++ [a])) rest := h₁
          simp only [Attempt.andThen, State.pos, hmoves.pos_eq_iff]
          by_cases hstall : rest.length = s.cursor.rest.length
          · rw [if_pos hstall, if_pos hstall]
            exact .of_moves hmoves
          · rw [if_neg hstall, if_neg hstall]
            -- a round that moves on leaves less text than rounds
            have hshorter : s₁.cursor.rest.length < bound.length := by
              have hle := hmoves.length_le
              rw [List.length_cons] at hbound
              rw [hmoves.rest_eq]
              omega
            have h₂ := ih (as ++ [a]) s₁ hmoves.stack_eq hmoves.frame_eq hshorter
            rw [hmoves.rest_eq] at h₂
            generalize repeatStep (rule.run call) bound s₁ = r₂ at h₂ ⊢
            obtain ⟨s₂, o₂⟩ := r₂
            cases hm : Reader.manyWithin p bound rest with
            | failed =>
                exact absurd hm (Reader.manyWithin_ne_failed p bound rest)
            | stopped stop =>
                rw [hm] at h₂
                exact h₂
            | read bs last =>
                rw [hm] at h₂
                obtain ⟨rfl, hmoves'⟩ :
                  o₂ = .matched ∧ Moves s₁ s₂ (after (as ++ [a] ++ bs)) last := h₂
                rw [List.append_assoc, List.singleton_append] at hmoves'
                exact .of_moves (hmoves.trans hmoves')

/-- The values of a repetition come on the store one by one. -/
theorem star {after : List α → Store}
    (h : ∀ as, Performs call rule (after as) p (fun a => after (as ++ [a]))) :
    Performs call (.star rule) (after []) (Reader.many p) after := by
  intro s hstack hframe
  have hbound : s.cursor.rest.length < s.roundBound.length := by
    simp only [State.roundBound, List.length_cons]
    omega
  have hrounds := rounds h s.roundBound [] s hstack hframe hbound
  simp only [List.nil_append] at hrounds
  exact hrounds

/-! ## The last part of a sequence -/

theorem last (h : Performs call first store p after) :
    Performs call (.seq first .done) store p after := by
  have hdone : ∀ a, Performs call .done (after a) (pure a) after := fun _ => done rfl
  have hseq := seq h hdone
  rwa [Reader.bind_pure] at hseq

/-! ## Characters -/

/-- A rule that moves the cursor over characters that are ahead. -/
theorem agrees_accept {s : State Entry} {count : Nat} (hcount : count ≤ s.cursor.rest.length)
    (a : α) : Agrees s (s.accept count) (fun _ => (s.stack, s.frame))
      (.read a (s.cursor.rest.drop count)) := by
  refine ⟨rfl, s.cursor.rest.take count, (List.take_append_drop ..).symm, ?_⟩
  rw [List.length_take_of_le hcount]
  rfl

theorem eq_store {s : State Entry} (hstack : s.stack = store.1) (hframe : s.frame = store.2) :
    (s.stack, s.frame) = store := by
  rw [hstack, hframe]

theorem agrees_refuse (s : State Entry) (label : String) :
    Agrees s (s.refuse label) after .failed := by
  refine ⟨rfl, ?_⟩
  show (s.failAt label s.pos).toMark = s.toMark
  exact State.toMark_failAt s label s.pos

theorem keyword (text : String) :
    Performs call (.keyword text) store (Reader.keyword text) (fun _ => store) := by
  intro s hstack hframe
  rw [← eq_store hstack hframe]
  rw [Reader.keyword, Rule.run]
  split
  · next h =>
    rw [startsWithWord, Bool.and_eq_true, List.isPrefixOf_iff_prefix] at h
    exact agrees_accept h.1.length_le ()
  · exact agrees_refuse s _

theorem characters (text : String) :
    Performs call (Rule.literal text) store (Reader.characters text) (fun _ => store) := by
  intro s hstack hframe
  rw [← eq_store hstack hframe]
  rw [Reader.characters, Rule.run]
  split
  · next h =>
    rw [List.isPrefixOf_iff_prefix] at h
    exact agrees_accept h.length_le ()
  · exact agrees_refuse s _

theorem measured {pattern : Pattern} (hfits : pattern.Fits) (label : String) :
    Performs call (.pattern label pattern) store (Reader.measured pattern) (fun _ => store) := by
  intro s hstack hframe
  rw [← eq_store hstack hframe]
  rw [Reader.measured, Rule.run]
  cases h : pattern.measure s.cursor.rest with
  | none => exact agrees_refuse s _
  | some count => exact agrees_accept (hfits _ _ h) _

theorem layout : Performs call Production.layout store Reader.layout (fun _ => store) := by
  intro s hstack hframe
  rw [← eq_store hstack hframe]
  have hcount : Pattern.spanLength Pattern.isLayout s.cursor.rest ≤ s.cursor.rest.length :=
    (List.takeWhile_prefix _).length_le
  have haccept := agrees_accept hcount ()
  have hskip : s.cursor.rest.drop (Pattern.spanLength Pattern.isLayout s.cursor.rest)
      = Reader.skipLayout s.cursor.rest := by
    conv_lhs => arg 2; rw [← List.takeWhile_append_dropWhile (p := Pattern.isLayout)
      (l := s.cursor.rest)]
    exact List.drop_left
  rwa [hskip] at haccept

/-- The layout behind what a rule takes. -/
theorem spaced (h : Performs call rule store p after) :
    Performs call (Production.spaced rule) store (Reader.spaced p) after := by
  refine seq h fun a => ?_
  exact seq layout fun _ => done rfl

theorem token (h : Performs call rule store p after) (label : String) :
    Performs call (Rule.token label rule) store p after := by
  intro s hstack hframe
  have hquiet : Agrees s ((rule.run call s.hush).onState State.unhush) after (p s.cursor.rest) := by
    have h₁ := h s.hush hstack hframe
    change Agrees s (rule.run call s.hush) after (p s.cursor.rest) at h₁
    generalize rule.run call s.hush = r₁ at h₁ ⊢
    cases hp : p s.cursor.rest <;> rw [hp] at h₁ <;> exact h₁
  rw [Rule.run, ← Attempt.orElse_failed (p s.cursor.rest)]
  exact hquiet.orElse fun t hmark => ⟨rfl, (State.toMark_failAt ..).trans hmark⟩

/-! ## Leaves -/

/-- What is built of a text is what a reader makes of it without reading on. It is stated of
builders applied to texts, which are not to be computed wherever it is used. -/
@[irreducible]
def Builds (built : Except BuildError Entry) (p : PartReader β) (entry : β → Entry) : Prop :=
  match built with
  | .ok e => ∃ b, p = pure b ∧ e = entry b
  | .error error => p = Reader.stop (.raised error) ∧ (Stop.raised error).IsOfText

theorem builds_pure {built : Except BuildError Entry} {b : β} {entry : β → Entry}
    (h : built = .ok (entry b)) : Builds built (pure b) entry := by
  subst h
  unfold Builds
  exact ⟨b, rfl, rfl⟩

theorem builds_stop {built : Except BuildError Entry} {error : BuildError} {entry : β → Entry}
    (h : built = .error error) (htext : (Stop.raised error).IsOfText) :
    Builds built (Reader.stop (.raised error)) entry := by
  subst h
  unfold Builds
  exact ⟨rfl, htext⟩

theorem textTo_append {first last : Cursor} {text rest : List Char}
    (h : first.rest = text ++ rest) (hpos : last.pos = first.pos + text.length) :
    first.textTo last = text := by
  rw [Cursor.textTo, h, hpos, Nat.add_sub_cancel_left, List.take_left]

theorem leaf {build : Leaf.Builder} {f : α → PartReader β} {entry : β → Entry}
    (h : Performs call rule store p (fun _ => store))
    (hbuild : ∀ {lexeme rest a}, p (lexeme ++ rest) = .read a rest →
      ∀ blanks : List Char, (∀ c ∈ blanks, Pattern.isLayout c = true) →
        Builds (build (String.ofList (lexeme ++ blanks))) (f a) entry) :
    Performs call (.leaf build (Production.spaced rule)) store (Reader.spaced p >>= f)
      (fun b => (entry b :: store.1, store.2)) := by
  intro s hstack hframe
  have h₀ := h s hstack hframe
  rw [Reader.bind_apply, Rule.run]
  refine (spaced h s hstack hframe).andThen fun a rest hp hmoves => ?_
  generalize ((Production.spaced rule).run call s).state = t at hmoves ⊢
  -- the text that was moved over is a lexeme and the layout behind it
  obtain ⟨middle, hread, rfl⟩ := Reader.spaced_eq_read.1 hp
  rw [hread] at h₀
  obtain ⟨-, lexeme, hlexeme, -⟩ := h₀
  obtain ⟨blanks, hblanks, hlayout⟩ := Reader.exists_layout middle
  obtain ⟨text, htext, hmark⟩ := id hmoves
  have hwhole : text ++ Reader.skipLayout middle
      = (lexeme ++ blanks) ++ Reader.skipLayout middle := by
    rw [← htext, hlexeme, List.append_assoc, ← hblanks]
  have hsplit : text = lexeme ++ blanks := List.append_cancel_right hwhole
  have htextTo : s.cursor.textTo t.cursor = lexeme ++ blanks := by
    rw [textTo_append htext (congrArg (fun m : Mark Entry => m.cursor.pos) hmark), hsplit]
  rw [hlexeme] at hread
  have hbuilt := hbuild hread blanks hlayout
  simp only [State.pushBuilt, htextTo]
  unfold Builds at hbuilt
  cases hb : build (String.ofList (lexeme ++ blanks)) with
  | ok e =>
      rw [hb] at hbuilt
      obtain ⟨b, hf, rfl⟩ := hbuilt
      rw [hf, Reader.pure_apply]
      exact .of_moves (hmoves.onto rfl (congrArg (entry b :: ·) hmoves.stack_eq) hmoves.frame_eq)
  | error error =>
      rw [hb] at hbuilt
      rw [hbuilt.1]
      exact ⟨rfl, hbuilt.2⟩

/-! ## The frame -/

/-- A rule that takes what the rule in it pushed into a slot. -/
theorem capture {stack : List Entry} {frame : Frame Entry} {entry : α → Entry}
    (h : Performs call rule (stack, frame) p (fun a => (entry a :: stack, frame)))
    (slot : String) :
    Performs call (.capture slot rule) (stack, frame) p
      (fun a => (stack, Bindings.set frame slot (entry a))) := by
  intro s hstack hframe
  rw [Rule.run, ← Reader.bind_pure p, Reader.bind_apply]
  refine (h s hstack hframe).andThen fun a rest _ hmoves => ?_
  have hstack₁ : (rule.run call s).state.stack = entry a :: stack := hmoves.stack_eq
  simp only [State.captureTop, hstack₁]
  exact .of_moves (hmoves.onto rfl rfl (congrArg (Bindings.set · slot (entry a)) hmoves.frame_eq))

theorem setSlot {stack : List Entry} {frame : Frame Entry} (slot : String) (value : Entry) :
    Performs call (.setSlot slot value) (stack, frame) (pure ())
      (fun _ => (stack, Bindings.set frame slot value)) := by
  intro s hstack hframe
  have hhere : Moves s s (stack, frame) s.cursor.rest := .stay hstack hframe rfl
  exact .of_moves (hhere.onto rfl hstack (congrArg (Bindings.set · slot value) hframe))

/-- A value of a reader, put through a function. -/
theorem map {f : α → β} {then' : β → Store} (h : Performs call rule store p after)
    (hafter : ∀ a, after a = then' (f a)) :
    Performs call rule store (p >>= fun a => pure (f a)) then' := by
  intro s hstack hframe
  rw [Reader.bind_apply]
  exact (h s hstack hframe).map hafter

/-- A rule that fills a slot, or does nothing. -/
theorem optFill {stack : List Entry} {frame : Frame Entry} {entry : α → Entry} {slot : String}
    (h : Performs call rule (stack, frame) p
      (fun a => (stack, Bindings.set frame slot (entry a)))) :
    Performs call (.opt rule) (stack, frame) (Reader.optional p)
      (fun o => (stack, Bindings.fill frame slot (o.map entry))) := by
  have hopt := opt h
  have hafter : (fun o : Option α => o.elim (stack, frame)
      fun a => (stack, Bindings.set frame slot (entry a)))
      = fun o => (stack, Bindings.fill frame slot (o.map entry)) := by
    funext o
    cases o <;> rfl
  rwa [hafter] at hopt

/-- A word that sets its flag, or nothing. -/
theorem flagWord (stack : List Entry) (frame : Frame Entry) (text : String) :
    Performs call (Production.flagWord text) (stack, frame) (Reader.flag text)
      (fun b => (stack, Bindings.fill frame text (if b then some .flag else none))) := by
  have hword : Performs call (Production.word text) (stack, frame) (Reader.word text)
      (fun _ => (stack, frame)) := spaced (keyword text)
  have hset := seq hword fun _ => last (setSlot text .flag)
  rw [Reader.bind_pure_unit] at hset
  refine map (optFill hset) fun o => ?_
  cases o <;> rfl

/-! ## Actions and references -/

theorem act {run : Assembly Unit} {a : α}
    (h : ∀ c, run.runOn ⟨c, store.1, store.2⟩ = (.ok (), ⟨c, (after a).1, (after a).2⟩))
    (name : String) :
    Performs call (.action name run) store (pure a) after := by
  intro s hstack hframe
  have hmark : s.mark = ⟨s.cursor, store.1, store.2⟩ := by
    rw [← hstack, ← hframe]
    rfl
  rw [Rule.run, State.act, hmark, h s.cursor]
  exact ⟨rfl, [], rfl, rfl⟩

theorem ref {rules : Rules Entry BuildError} {name : String} {depth : Nat}
    (hfind : rules.find? name = some rule)
    (h : Performs (rules.call depth) rule store p after) :
    Performs (rules.call (depth + 1)) (.ref name) store p after := by
  intro s hstack hframe
  have h₁ := h s hstack hframe
  rw [Rule.run, Rules.call, hfind]
  exact h₁

theorem ref_zero (rules : Rules Entry BuildError) (name : String) :
    Performs (rules.call 0) (.ref name) store (Reader.stop .nestingTooDeep : PartReader α)
      after := fun _ _ _ => ⟨rfl, trivial⟩

/-- The end of a production. -/
theorem ending {run : Assembly Unit} {a : α}
    (h : ∀ c, run.runOn ⟨c, store.1, store.2⟩ = (.ok (), ⟨c, (after a).1, (after a).2⟩))
    (name : String) :
    Performs call (.seq (Production.ending name run) .done) store (pure a) after :=
  last (act h name)

end Performs

/-! ## Scopes -/

/-- From a store, a rule ends as a reader does, and with a value of the reader it leaves the
stack `after` that value and some frame. -/
def Leaves (call : Calls) (rule : Production) (store : Store) (p : PartReader α)
    (after : α → List Entry) : Prop :=
  ∀ s : State Entry, s.stack = store.1 → s.frame = store.2 →
    ∃ frame, Agrees s (rule.run call s) (fun a => (after a, frame)) (p s.cursor.rest)

namespace Leaves

variable {call : Calls} {rule first rest : Production} {stack : List Entry}
  {frame : Frame Entry}

theorem seq {store : Store} {p : PartReader α} {after : α → Store} {f : α → PartReader β}
    {then' : β → List Entry} (hfirst : Performs call first store p after)
    (hrest : ∀ a, Leaves call rest (after a) (f a) then') :
    Leaves call (.seq first rest) store (p >>= f) then' := by
  intro s hstack hframe
  have h₁ := hfirst s hstack hframe
  -- the frame is the one that the second rule leaves, if it is reached
  by_cases hread : ∃ a, p s.cursor.rest = .read a (first.run call s).state.cursor.rest ∧
      (first.run call s).state.stack = (after a).1 ∧ (first.run call s).state.frame = (after a).2
  · obtain ⟨a, hp, hstack₁, hframe₁⟩ := hread
    obtain ⟨last, h₂⟩ := hrest a _ hstack₁ hframe₁
    refine ⟨last, Performs.agrees_seq rfl h₁ fun b hb _ _ => ?_⟩
    obtain ⟨rfl, -⟩ : a = b ∧ True := by simpa [hp] using hb
    exact h₂
  · refine ⟨[], Performs.agrees_seq rfl h₁ fun b hb hstack₁ hframe₁ => ?_⟩
    exact absurd ⟨b, hb, hstack₁, hframe₁⟩ hread

theorem ending {run : Assembly Unit} {a : α} {after : α → List Entry} {last : Frame Entry}
    (h : ∀ c, run.runOn ⟨c, stack, frame⟩ = (.ok (), ⟨c, after a, last⟩)) (name : String) :
    Leaves call (.seq (Production.ending name run) .done) (stack, frame) (pure a) after := by
  intro s hstack hframe
  have hact : Performs call (.seq (Production.ending name run) .done) (stack, frame) (pure a)
      fun b => (after b, last) := Performs.ending h name
  exact ⟨last, hact s hstack hframe⟩

end Leaves

/-- The frame in a scope is the rule's own. -/
theorem Performs.scope {call : Calls} {rule : Production} {stack : List Entry}
    {frame : Frame Entry} {p : PartReader α} {after : α → List Entry}
    (h : Leaves call rule (stack, []) p after) :
    Performs call (.scope rule) (stack, frame) p (fun a => (after a, frame)) := by
  intro s hstack hframe
  obtain ⟨last, h₁⟩ := h { s with frame := [] } hstack rfl
  rw [Rule.run]
  dsimp only at h₁
  generalize rule.run call { s with frame := [] } = r₁ at h₁ ⊢
  obtain ⟨s₁, o₁⟩ := r₁
  cases hp : p s.cursor.rest with
  | failed =>
      rw [hp] at h₁
      obtain ⟨rfl, hmark⟩ := h₁
      have hmark₁ : s₁.toMark = ⟨s.cursor, s.stack, []⟩ := hmark
      have hcursor : s₁.cursor = s.cursor := by rw [hmark₁]
      have hstack₁ : s₁.stack = s.stack := by rw [hmark₁]
      refine ⟨rfl, ?_⟩
      simp only [Result.onState, hcursor, hstack₁]
  | stopped stop =>
      rw [hp] at h₁
      obtain ⟨rfl, hstop⟩ := h₁
      exact ⟨rfl, hstop⟩
  | read a rest =>
      rw [hp] at h₁
      -- the frame of the scope is dropped, and the one around it comes back
      obtain ⟨rfl, hmoves⟩ : o₁ = .matched ∧ Moves s s₁ (after a, last) rest := h₁
      exact .of_moves (hmoves.onto rfl hmoves.stack_eq hframe)

end ThriftSchema
