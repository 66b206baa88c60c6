import ThriftSchema.Proofs.Expectation.Document

set_option autoImplicit false

/-! # Every run is a walk or goes too deep

A form walks through every text, unless the references in it nest deeper than may be. So a run of
its rule that is not broken off for that is what the walk tells.

* `Overdeep`, `OverdeepRounds`: a rule, or the rounds of one, that goes too deep on a text.
* `Form.walks_or_overdeep`: a form walks or its rule goes too deep.
* `exists_walk_of_outcome`: what a text that is not too deep is recognized by.
-/

namespace ThriftSchema

open Reader (skipLayout)

variable {limit : Nat}

/-! ## Runs that go too deep -/

section Run

variable {call : String → State Entry → Result Entry BuildError}
  {first rest body : Production} {input middle : List Char} {notes more : List Note}

/-- A rule goes too deep on a text. -/
def Overdeep (call : String → State Entry → Result Entry BuildError) (rule : Production)
    (input : List Char) : Prop :=
  ∀ (s : State Entry) (total : Nat) (notes : List Note), input.length ≤ total →
    (rule.run call (s.along total input notes)).outcome = .stopped .nestingTooDeep

/-- The rounds of a rule go too deep on a text, whatever bounds them, if that is enough. -/
def OverdeepRounds (call : String → State Entry → Result Entry BuildError) (rule : Production)
    (input : List Char) : Prop :=
  ∀ (s : State Entry) (total : Nat) (notes : List Note) (bound : List Char),
    input.length ≤ total → input.length < bound.length →
    (repeatStep (rule.run call) bound (s.along total input notes)).outcome =
      .stopped .nestingTooDeep

theorem Result.outcome_andThen_of_stopped {r : Result Entry BuildError} {why : Stop BuildError}
    (h : r.outcome = .stopped why) (next : State Entry → Result Entry BuildError) :
    (r.andThen next).outcome = .stopped why := by
  simp only [Result.andThen, h]

theorem Result.outcome_orElse_of_stopped {r : Result Entry BuildError} {why : Stop BuildError}
    (h : r.outcome = .stopped why) (next : State Entry → Result Entry BuildError) :
    (r.orElse next).outcome = .stopped why := by
  simp only [Result.orElse, h]

namespace Overdeep

theorem seq (h : Overdeep call first input) (rest : Production) :
    Overdeep call (.seq first rest) input := fun s total notes hinput =>
  Result.outcome_orElse_of_stopped (Result.outcome_andThen_of_stopped (h s total notes hinput) _) _

theorem seqRest (hfirst : Runs call first input (some middle) more)
    (hmiddle : middle.length ≤ input.length) (h : Overdeep call rest middle) :
    Overdeep call (.seq first rest) input := by
  intro s total notes hinput
  refine Result.outcome_orElse_of_stopped ?_ _
  rw [hfirst s total notes hinput]
  exact h s total _ (Nat.le_trans hmiddle hinput)

theorem opt (h : Overdeep call body input) : Overdeep call (.opt body) input :=
  fun s total notes hinput => Result.outcome_orElse_of_stopped (h s total notes hinput) _

theorem rounds (h : Overdeep call body input) : OverdeepRounds call body input := by
  intro s total notes bound hinput hbound
  obtain ⟨c, bound, rfl⟩ := List.exists_cons_of_length_pos (Nat.zero_lt_of_lt hbound)
  simp only [repeatStep, h s total notes hinput]

end Overdeep

namespace OverdeepRounds

theorem next (h : Runs call body input (some middle) more) (hmoves : middle.length < input.length)
    (hnext : OverdeepRounds call body middle) : OverdeepRounds call body input := by
  intro s total notes bound hinput hbound
  obtain ⟨c, bound, rfl⟩ := List.exists_cons_of_length_pos (Nat.zero_lt_of_lt hbound)
  have hpos : (s.along total middle (notes ++ more)).pos ≠ (s.along total input notes).pos := by
    show total - middle.length ≠ total - input.length
    omega
  rw [List.length_cons] at hbound
  rw [repeatStep, h s total notes hinput]
  show (if (s.along total middle (notes ++ more)).pos = (s.along total input notes).pos then _
    else _ : Result Entry BuildError).outcome = _
  rw [if_neg hpos]
  exact hnext s total _ bound (by omega) (by omega)

theorem star (h : OverdeepRounds call body input) : Overdeep call (.star body) input := by
  intro s total notes hinput
  refine h s total notes _ hinput ?_
  show input.length < (' ' :: ' ' :: input).length
  simp only [List.length_cons]
  omega

end OverdeepRounds

end Run

/-! ## Forms -/

/-- What references do, down to a depth. -/
abbrev bareCall (depth : Nat) : String → State Entry → Result Entry BuildError :=
  (Production.rules { }).bare.call depth

/-- The rounds of a form walk or go too deep, if the form does. -/
theorem Form.rounds_or_overdeep {depth : Nat} {body : Form} (hform : (star body).wellFormed = true)
    (h : ∀ input, (∃ left notes, Walks depth body input left notes) ∨
      Overdeep (bareCall depth) body.rule input) (input : List Char) :
    (∃ last notes, Walks depth (.star body) input (some last) notes) ∨
      OverdeepRounds (bareCall depth) body.rule input := by
  simp only [wellFormed, Bool.and_eq_true, Bool.not_eq_true'] at hform
  induction hn : input.length using Nat.strong_induction_on generalizing input with
  | _ n ih =>
    rcases h input with ⟨_ | middle, notes, hwalk⟩ | hdeep
    · exact .inl ⟨_, _, .starDone hwalk⟩
    · have hmoves := hwalk.length_lt hform.1 hform.2
      rcases ih middle.length (by omega) middle rfl with ⟨last, more, hmore⟩ | hdeep
      · exact .inl ⟨_, _, .starNext hwalk hmoves hmore⟩
      · exact .inr (.next hwalk.runs hmoves hdeep)
    · exact .inr hdeep.rounds

/-- A form walks, or its rule goes too deep, if that is so of references. -/
theorem Form.walks_or_overdeep_of_ref {depth : Nat}
    (href : ∀ name, (named? name).isSome = true → ∀ input,
      (∃ left notes, Walks depth (.ref name) input left notes) ∨
        Overdeep (bareCall depth) (ref name).rule input)
    (form : Form) (hform : form.wellFormed = true) (input : List Char) :
    (∃ left notes, Walks depth form input left notes) ∨
      Overdeep (bareCall depth) form.rule input := by
  induction form generalizing input with
  | lead head => exact .inl ⟨_, _, .lead rfl⟩
  | done => exact .inl ⟨_, _, .done⟩
  | never => exact .inl ⟨_, _, .never⟩
  | ref name => exact href name hform input
  | seq first rest ihFirst ihRest =>
      simp only [wellFormed, Bool.and_eq_true] at hform
      rcases ihFirst hform.1 input with ⟨_ | middle, notes, hwalk⟩ | hdeep
      · exact .inl ⟨_, _, .seqFailed hwalk⟩
      · rcases ihRest hform.2 middle with ⟨left, more, hmore⟩ | hdeep
        · exact .inl ⟨_, _, .seq hwalk hmore⟩
        · exact .inr (.seqRest hwalk.runs (hwalk.within.left middle rfl) hdeep)
      · exact .inr (hdeep.seq _)
  | alt first rest ihFirst ihRest =>
      simp only [wellFormed, Bool.and_eq_true] at hform
      rcases ihFirst hform.1 input with ⟨_ | last, notes, hwalk⟩ | hdeep
      · rcases ihRest hform.2 input with ⟨left, more, hmore⟩ | hdeep
        · exact .inl ⟨_, _, .altRest hwalk hmore⟩
        · refine .inr fun s total others hinput => ?_
          rw [run_alt, hwalk.runs s total others hinput]
          exact hdeep s total _ hinput
      · exact .inl ⟨_, _, .alt hwalk⟩
      · refine .inr fun s total others hinput => ?_
        rw [run_alt]
        exact Result.outcome_orElse_of_stopped (hdeep s total others hinput) _
  | star body ih =>
      have hbody := hform
      simp only [wellFormed, Bool.and_eq_true] at hbody
      rcases rounds_or_overdeep hform (ih hbody.1) input with ⟨last, notes, hwalk⟩ | hdeep
      · exact .inl ⟨_, _, hwalk⟩
      · exact .inr hdeep.star
  | opt body ih =>
      simp only [wellFormed, Bool.and_eq_true] at hform
      rcases ih hform.1 input with ⟨_ | last, notes, hwalk⟩ | hdeep
      · exact .inl ⟨_, _, .optAbsent hwalk⟩
      · exact .inl ⟨_, _, .opt hwalk⟩
      · exact .inr hdeep.opt

/-- A form walks, or its rule goes too deep. -/
theorem Form.walks_or_overdeep (depth : Nat) (form : Form) (hform : form.wellFormed = true)
    (input : List Char) :
    (∃ left notes, Walks depth form input left notes) ∨
      Overdeep (bareCall depth) form.rule input := by
  induction depth generalizing form input with
  | zero => exact walks_or_overdeep_of_ref (fun _ _ _ => .inr fun _ _ _ _ => rfl) form hform input
  | succ depth ih =>
      refine walks_or_overdeep_of_ref (fun name hname input => ?_) form hform input
      obtain ⟨named, hfind⟩ := Option.isSome_iff_exists.1 hname
      rcases ih named (wellFormed_named hfind).1 input with ⟨left, notes, hwalk⟩ | hdeep
      · exact .inl ⟨_, _, .ref hfind hwalk⟩
      · have hrule : (Production.rules { }).bare.find? name = some named.rule := by
          rw [find?_rules, hfind]
          rfl
        refine .inr fun s total notes hinput => ?_
        show ((Production.rules { }).bare.call (depth + 1) name _).outcome = _
        rw [Rules.call, hrule]
        exact hdeep s total notes hinput

/-! ## Documents -/

/-- A text is walked through, or its recognizer goes too deep. -/
theorem exists_walk_of_outcome {cs : List Char}
    (h : ((Production.document { }).bare.run (bareCall limit)
      (State.initial cs)).outcome ≠ .stopped .nestingTooDeep) :
    ∃ last notes, Walks limit Form.body (skipLayout cs) (some last) notes := by
  let call := bareCall limit
  have hstart : (skipLayout cs).length ≤ cs.length := (List.dropWhile_suffix _).length_le
  have hheader : (Form.star Form.header).wellFormed = true := by decide +kernel
  have hdefinition : (Form.star Form.definition).wellFormed = true := by decide +kernel
  have hdeep : ∀ {rest : Production}, Overdeep call rest (skipLayout cs) →
      (Rule.run call (.seq Production.layout rest) (State.initial cs)).outcome =
        .stopped .nestingTooDeep := by
    intro rest hrest
    rw [Rule.run_seq_of_matched (run_layout call cs)]
    exact Result.outcome_orElse_of_stopped (hrest _ _ _ hstart) _
  have hdocument : (Production.document { }).bare =
      .seq Production.layout (.seq (.star Form.header.rule)
        (.seq (.star Form.definition.rule) (.seq .finish (.seq .done .done)))) := by
    rw [Form.rule_header, Form.rule_definition]
    rfl
  rw [hdocument] at h
  rcases Form.walks_or_overdeep limit _ hheader (skipLayout cs) with
    ⟨_ | middle, notes, hheaders⟩ | hoverdeep
  · cases hheaders
  · rcases Form.walks_or_overdeep limit _ hdefinition middle with
      ⟨_ | last, more, hdefinitions⟩ | hoverdeep
    · cases hdefinitions
    · exact ⟨_, _, .seq hheaders hdefinitions⟩
    · have hrest : Overdeep call (.seq (.star Form.definition.rule)
          (.seq .finish (.seq .done .done))) middle := Overdeep.seq hoverdeep _
      exact absurd (hdeep (.seqRest hheaders.runs (hheaders.within.left middle rfl) hrest)) h
  · exact absurd (hdeep (Overdeep.seq hoverdeep _)) h

end ThriftSchema
