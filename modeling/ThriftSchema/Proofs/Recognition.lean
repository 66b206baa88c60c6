import ThriftSchema.Proofs.Assembly.Discipline
import ThriftSchema.Proofs.Canonical.Roundtrip
import ThriftSchema.Proofs.Reader.Nesting
import ThriftSchema.Proofs.Rule.Ahead
import ThriftSchema.Proofs.Rule.Origin

set_option autoImplicit false

/-! # Recognizing a text

The recognizer is the production of a document without what it builds. It goes through a text as
the production does; the production goes no further only where it cannot build a decimal integer.
So on a text without such an integer, and that does not nest too deep, the two come to the same
places and end alike.

* `ShortIntegers`: the integers that the recognizer comes to can be built.
* `shortIntegers_of_runs`: they can be where no run of digits is too long.
* `EndAlike`: two matches that end at the same place, or with the same rejection.
* `recognizer_keeps_step`: production and recognizer go together, and end alike.
-/

namespace ThriftSchema

open Number (digitLimit)

variable {limit : Nat}

/-! ## Integers ahead -/

/-- How many digits stand behind the sign at the head of a text, which may be missing. -/
def digitsAhead (cs : List Char) : Nat :=
  Pattern.spanLength Char.isDigit (cs.drop (Pattern.signLength cs))

/-- The invocation that a text is recognized with. -/
def Invocation.toRecognize (limit : Nat) (text : String) : Invocation Entry BuildError :=
  ⟨limit, (Production.document { }).bare, State.initial (stripComments text).toList⟩

/-- Every decimal integer that the recognizer comes to has no more digits than can be read. -/
def ShortIntegers (limit : Nat) (text : String) : Prop :=
  ∀ i, Reached (Production.rules { }).bare (Invocation.toRecognize limit text) i →
    i.rule = .pattern "integer" Pattern.integer → digitsAhead i.state.cursor.rest ≤ digitLimit

/-- The digits ahead are a run of digits of the text. -/
theorem exists_run_ahead (cs : List Char) :
    ∃ run, run <:+: cs ∧ (∀ c ∈ run, c.isDigit = true) ∧ digitsAhead cs = run.length :=
  ⟨(cs.drop (Pattern.signLength cs)).takeWhile Char.isDigit,
    (List.takeWhile_prefix _).isInfix.trans (List.drop_suffix _ _).isInfix,
    List.all_eq_true.1 List.all_takeWhile, rfl⟩

/-- A text where no run of digits is too long has no integer that is. -/
theorem shortIntegers_of_runs {text : String}
    (h : ∀ run, run <:+: (stripComments text).toList → (∀ c ∈ run, c.isDigit = true) →
      run.length ≤ digitLimit) : ShortIntegers limit text := by
  intro i hreached _
  have hnamed : ∀ name rule, (Production.rules { }).bare.find? name = some rule →
      rule.Every Rule.Stays := by
    intro name rule hfind
    obtain ⟨built, -, rfl⟩ := Option.map_eq_some_iff.1 hfind
    exact built.every_stays_bare
  have hrest : i.state.cursor.rest <:+ (stripComments text).toList :=
    Reached.rest hnamed (Rule.every_stays_bare _) hreached
  obtain ⟨run, hpart, hdigits, hlength⟩ := exists_run_ahead i.state.cursor.rest
  rw [hlength]
  exact h run (hpart.trans hrest.isInfix) hdigits

/-- A text that is no longer than an integer may be. -/
theorem shortIntegers_of_length {text : String}
    (h : (stripComments text).toList.length ≤ digitLimit) : ShortIntegers limit text :=
  shortIntegers_of_runs fun _ hrun _ => Nat.le_trans hrun.length_le h

/-! ## Where reading an integer breaks off -/

theorem Reader.lexeme_ne_stopped (pattern : Pattern) (input : List Char) (why : Stop BuildError) :
    Reader.lexeme pattern input ≠ .stopped why := by
  unfold Reader.lexeme Reader.spaced
  rw [Reader.bind_apply]
  unfold Reader.measured
  split <;> exact fun h => by cases h

theorem digitsAhead_append {sign digits rest : List Char} {negative : Bool}
    (hsign : IsSign sign negative) (hdigits : IsRun Char.isDigit digits)
    (hrest : NotAhead Char.isDigit rest) :
    digitsAhead (sign ++ digits ++ rest) = digits.length := by
  rw [digitsAhead, List.append_assoc,
    Pattern.signLength_append hsign (Pattern.notAhead_sign_of_digits hdigits rest), List.drop_left,
    Pattern.spanLength_append hdigits.2 hrest]

/-- An integer breaks reading off only where it has too many digits. -/
theorem lt_digitsAhead_of_stopped {input : List Char} {why : Stop BuildError}
    (h : Reader.integer input = .stopped why) : digitLimit < digitsAhead input := by
  rw [Reader.integer, Reader.bind_eq_stopped] at h
  rcases h with h | ⟨cs, rest, hread, h⟩
  · exact absurd h (Reader.lexeme_ne_stopped _ _ _)
  · obtain ⟨middle, hmeasured, rfl⟩ := Reader.spaced_eq_read.1 hread
    obtain ⟨rfl, ⟨value, hvalue⟩, hmiddle⟩ := Reader.integer_measured.1 hmeasured
    cases hvalue with
    | intro hsign hdigits =>
        rw [digitsAhead_append hsign hdigits hmiddle]
        by_contra hshort
        -- an integer that is not too long has a value
        simp only [Reader.decimalValue, Number.readDecimal_append hsign hdigits,
          if_neg hshort] at h
        cases h

section Building

variable {options : BuildOptions} {i : Invocation Entry BuildError}

/-- A production that breaks off at an integer has come to one with too many digits. -/
theorem exists_long_integer (hi : i.rule.Every Production.IsTame) {digits : Nat}
    (h : (i.result (Production.rules options)).outcome =
      .stopped (.raised (.integerTooLong digits))) :
    ∃ j, Reached (Production.rules options) i j ∧
      j.rule = .pattern "integer" Pattern.integer ∧
      digitLimit < digitsAhead j.state.cursor.rest := by
  obtain ⟨j, hreached, hstop, hown⟩ := i.exists_breaksOff h
  have htame := (Reached.every (fun _ _ => Production.tame_find?) hi hreached).self
  cases hown with
  | action hrun => exact absurd trivial (htame.blames _ _ hrun)
  | @leaf d build rule s text error hbuild =>
      rcases htame with hmild | ⟨rfl, rfl⟩
      · exact absurd trivial (hmild _ _ hbuild)
      -- the leaf of integers, which breaks off where its reader does
      · have hperforms : Performs ((Production.rules options).call d)
            (.leaf Leaf.integer (Production.spaced (.pattern "integer" Pattern.integer)))
            (s.stack, s.frame) Reader.integer (fun n => (.integer n :: s.stack, s.frame)) :=
          Performs.leaf (Performs.measured Pattern.fits_integer _)
            fun h _ hblanks => Performs.builds_integer h hblanks
        have hread := ((hperforms s rfl rfl).stopped hstop).1
        exact ⟨⟨d, .pattern "integer" Pattern.integer, s⟩,
          (hreached.tail .leaf).tail .seqFirst, rfl, lt_digitsAhead_of_stopped hread⟩

end Building

/-! ## Production and recognizer -/

namespace Production

theorem bare_field (options : BuildOptions) : (field options).bare = (field { }).bare := by
  simp only [field, Rule.sequence, List.foldr_cons, List.foldr_nil, ending, Rule.bare]

theorem bare_document (options : BuildOptions) :
    (document options).bare = (document { }).bare := by
  simp only [document, definition, enum, Rule.sequence, Rule.firstOf, List.foldr_cons,
    List.foldr_nil, ending, Rule.bare]

/-- The options do not change what is recognized. -/
theorem bare_rules (options : BuildOptions) : (rules options).bare = (rules { }).bare := by
  refine congrArg Rules.mk (funext fun name => ?_)
  show (find? options name).map Rule.bare = (find? { } name).map Rule.bare
  unfold find?
  split
  · rfl
  · rfl
  · exact congrArg some (bare_field options)
  · rfl

theorem stays_document (options : BuildOptions) : (document options).Every Rule.Stays :=
  (tame_document options).mono fun _ h => h.stays

theorem stays_find? {options : BuildOptions} {name : String} {rule : Production}
    (h : (rules options).find? name = some rule) : rule.Every Rule.Stays :=
  (tame_find? h).mono fun _ h => h.stays

end Production

theorem Invocation.bare_ofText (options : BuildOptions) (text : String) :
    (Invocation.ofText limit options text).bare = Invocation.toRecognize limit text := by
  rw [Invocation.bare, Invocation.ofText, Invocation.toRecognize, Production.bare_document]
  rfl

/-- Whatever the production comes to, the recognizer comes to. -/
theorem recognizer_reaches {options : BuildOptions} {text : String}
    {i : Invocation Entry BuildError}
    (h : Reached (Production.rules options) (Invocation.ofText limit options text) i) :
    Reached (Production.rules { }).bare (Invocation.toRecognize limit text) i.bare := by
  have hbare := h.bare (fun _ _ => Production.stays_find?) (Production.stays_document options)
  rwa [Production.bare_rules, Invocation.bare_ofText] at hbare

/-- Two matches that end in the same way: at the same cursor, or with the same place and the
same expectations, which the first one gives the name of the text. -/
inductive EndAlike (source : Option String) :
    Except (MatchError BuildError) (State Entry) → Except (MatchError BuildError) (State Entry) →
      Prop
  | matched {s b : State Entry} (hcursor : s.cursor = b.cursor) : EndAlike source (.ok s) (.ok b)
  | rejected (rejection : Rejection) : EndAlike source
      (.error (.rejected { rejection with source := source })) (.error (.rejected rejection))

theorem Document.ofText?_of_ok {options : BuildOptions} {text : String} {source : Option String}
    {d : Document} (h : Document.ofText limit options text source = .ok d) :
    Document.ofText? limit options text source = .ok (some d) := by
  unfold Document.ofText?
  simp only [h]

section Recognizing

variable {options : BuildOptions} {text : String} {source : Option String}
  (hshort : ShortIntegers limit text) (hnesting : nesting (stripComments text).toList < limit)

include hshort hnesting

/-- A match does not break off. -/
theorem ne_stopped_of_short (stop : Stop BuildError) :
    ((Invocation.ofText limit options text).result (Production.rules options)).outcome ≠
      .stopped stop := by
  intro hstop
  obtain ⟨hread, htext⟩ :=
    (agrees_document limit options (stripComments text).toList).stopped hstop
  cases stop with
  | nestingTooDeep =>
      have hdocument : Nests (nesting (stripComments text).toList)
          (Reader.document options limit) _ := .document hnesting
      exact hdocument.shallow le_rfl hread
  | emptyStack => exact htext
  | undefinedRule name => exact htext
  | endless => exact htext
  | raised error =>
      cases error with
      | integerTooLong digits =>
          -- the recognizer comes to the integer as well, which is short there
          obtain ⟨j, hreached, hrule, hlong⟩ :=
            exists_long_integer (Production.tame_document options) hstop
          have hpattern : j.bare.rule = .pattern "integer" Pattern.integer := by
            rw [Invocation.bare, hrule]
            rfl
          exact absurd (hshort j.bare (recognizer_reaches hreached) hpattern)
            (Nat.not_le_of_lt hlong)
      | _ => exact htext

/-- Where the production comes, the recognizer ends as it does. -/
theorem result_bare_of_short {i : Invocation Entry BuildError}
    (h : Reached (Production.rules options) (Invocation.ofText limit options text) i) :
    i.bare.result (Production.rules { }).bare = (i.result (Production.rules options)).bare := by
  have hnamed : ∀ name rule, (Production.rules options).find? name = some rule →
      rule.Every Rule.Stays := fun _ _ => Production.stays_find?
  have hgoes : ∀ stop, (i.result (Production.rules options)).outcome = .stopped stop → False :=
    h.stopped (P := fun _ => False) (fun h => h) fun stop =>
      ne_stopped_of_short hshort hnesting stop
  rw [← Production.bare_rules options]
  exact (i.result_bare hnamed (h.every hnamed (Production.stays_document options))).outcome
    fun stop hstop => (hgoes stop hstop).elim

theorem endAlike_of_short :
    EndAlike source (matchDocument limit options text source) (recognize limit text) := by
  have hgoes : ∀ stop, ((Invocation.ofText limit options text).result
      (Production.rules options)).outcome ≠ .stopped stop := ne_stopped_of_short hshort hnesting
  have hsame := result_bare_of_short hshort hnesting
    (.refl : Reached (Production.rules options) (Invocation.ofText limit options text) _)
  rw [Invocation.bare_ofText] at hsame
  have hrun : (Production.rules options).run limit (Production.document options)
      (State.initial (stripComments text).toList) =
        (Invocation.ofText limit options text).result (Production.rules options) := rfl
  have hbare : (Production.rules { }).bare.run limit (Production.document { }).bare
      (State.initial (stripComments text).toList) =
        ((Invocation.ofText limit options text).result (Production.rules options)).bare := hsame
  rw [matchDocument, recognize, Rules.matchText, Rules.matchText, hrun, hbare]
  -- now both are told by one result, with and without what it builds
  generalize (Invocation.ofText limit options text).result (Production.rules options) = r at hgoes ⊢
  obtain ⟨state, outcome⟩ := r
  cases outcome with
  | matched => exact .matched rfl
  | failed => exact .rejected (state.bare.rejection (stripComments text).toList none)
  | stopped stop => exact absurd rfl (hgoes stop)

/-- A text is read as a document or not at all, and the match shows which. -/
theorem ofText?_of_short :
    (∃ state d, matchDocument limit options text source = .ok state ∧
      Document.ofText? limit options text source = .ok (some d)) ∨
    ∃ rejection, matchDocument limit options text source = .error (.rejected rejection) ∧
      Document.ofText? limit options text source = .ok none := by
  have halike : EndAlike source (matchDocument limit options text source) (recognize limit text) :=
    endAlike_of_short hshort hnesting
  have hmatch := matchEnds_document limit options text source
  have hends := readingEnds_ofText limit options text source
  unfold Document.ofText?
  generalize Reader.document options limit (stripComments text).toList = p
    at hmatch hends
  generalize Document.ofText limit options text source = r at hends ⊢
  generalize matchDocument limit options text source = m at hmatch halike ⊢
  cases hmatch with
  | read hstack hframe hcursor =>
      cases hends
      exact .inl ⟨_, _, rfl, rfl⟩
  | failed state =>
      cases hends
      exact .inr ⟨_, rfl, rfl⟩
  | tooDeep place => cases halike
  | tooLong digits => cases halike

end Recognizing

/-- On a text with short integers that nests less deep than references may, production and
recognizer keep step: wherever the production comes, the recognizer comes, and ends there in the
same place, with the same notes on failures; both match, and end at the same cursor, or both reject
the text at the same place with the same expectations. So the recognizer accepts exactly the texts
that are read as a document, whatever the options. -/
theorem recognizer_keeps_step (options : BuildOptions) (text : String) (source : Option String)
    (hshort : ShortIntegers limit text) (hnesting : nesting (stripComments text).toList < limit) :
    (∀ i, Reached (Production.rules options) (Invocation.ofText limit options text) i →
      Reached (Production.rules { }).bare (Invocation.toRecognize limit text) i.bare ∧
        i.bare.result (Production.rules { }).bare = (i.result (Production.rules options)).bare) ∧
    EndAlike source (matchDocument limit options text source) (recognize limit text) ∧
    (recognizes limit text = true ↔
      ∃ d, Document.ofText? limit options text source = .ok (some d)) ∧
    (recognizes limit text = false ↔ Document.ofText? limit options text source = .ok none) := by
  have halike : EndAlike source (matchDocument limit options text source) (recognize limit text) :=
    endAlike_of_short hshort hnesting
  have hread : (∃ state d, matchDocument limit options text source = .ok state ∧
      Document.ofText? limit options text source = .ok (some d)) ∨ ∃ rejection,
      matchDocument limit options text source = .error (.rejected rejection) ∧
        Document.ofText? limit options text source = .ok none := ofText?_of_short hshort hnesting
  refine ⟨fun i hi => ⟨recognizer_reaches hi, result_bare_of_short hshort hnesting hi⟩, halike, ?_⟩
  unfold recognizes
  rcases hread with ⟨state, d, hmatch, hread⟩ | ⟨rejection, hmatch, hread⟩
  · rw [hmatch] at halike
    rw [hread]
    generalize recognize limit text = b at halike
    cases halike with
    | matched hcursor => simp
  · rw [hmatch] at halike
    rw [hread]
    generalize recognize limit text = b at halike
    cases halike with
    | rejected rejection => simp

theorem recognizer_keeps_step_sample :
    ShortIntegers 60 (Spelling.usual.text Canonical.sample) ∧
      nesting (stripComments (Spelling.usual.text Canonical.sample)).toList < 60 ∧
      EndAlike none (matchDocument 60 ⟨true, false⟩ (Spelling.usual.text Canonical.sample) none)
        (recognize 60 (Spelling.usual.text Canonical.sample)) ∧
      recognizes 60 (Spelling.usual.text Canonical.sample) = true := by
  have htext := Canonical.stripComments_text Canonical.documentFits_sample
  have hshort : ShortIntegers 60 (Spelling.usual.text Canonical.sample) :=
    shortIntegers_of_length (by
      rw [htext]
      decide +kernel)
  have hnesting : nesting (stripComments (Spelling.usual.text Canonical.sample)).toList < 60 := by
    rw [htext]
    decide +kernel
  have h := recognizer_keeps_step ⟨true, false⟩ _ none hshort hnesting
  have hread : Document.ofText 60 ⟨true, false⟩ (Spelling.usual.text Canonical.sample) none =
      .ok Canonical.sample :=
    Canonical.ofText_of_fits rfl rfl (by decide) Canonical.documentFits_sample none
  exact ⟨hshort, hnesting, h.2.1, h.2.2.1.2 ⟨_, Document.ofText?_of_ok hread⟩⟩

end ThriftSchema
