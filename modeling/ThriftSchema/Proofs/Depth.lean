import ThriftSchema.Proofs.Expectation.Document
import ThriftSchema.Proofs.Grammar.Levels
import ThriftSchema.Proofs.Reading
import ThriftSchema.Proofs.Recognition
import ThriftSchema.Proofs.Rule.Depth
import ThriftSchema.Proofs.Text.Excess

set_option autoImplicit false

/-! # The depth that a text needs follows its brackets

How deep references nest depends on how deep the brackets of a text nest, not on how long the text
is. With more depth than that every text is read to an end, whether it is a document or not: what
refers to itself does so only behind a bracket that was opened since, and what is repeated consumes
something in each round.

* `Production.stops_of_depth`: a run with enough depth breaks off for no other reason than an
  integer that is too long.
* `depth_follows_brackets`: the result about whole texts.
-/

namespace ThriftSchema

variable {limit : Nat} {options : BuildOptions}

/-! ## Enough depth -/

/-- With more depth than brackets nest, a match breaks off only at an integer that is too long. -/
theorem Production.stops_of_depth {depth : Nat} {cs : List Char} (h : nesting cs < depth)
    {stop : Stop BuildError}
    (hstop : ((rules options).run depth (document options) (State.initial cs)).outcome =
      .stopped stop) : ∃ digits, stop = .raised (.integerTooLong digits) := by
  have hagrees : Agrees (State.initial cs)
      ((document options).run ((rules options).call depth) (State.initial cs))
      (fun d => ([.document d], [])) (Reader.document options depth cs) :=
    Performs.document options depth [] (State.initial cs) rfl rfl
  obtain ⟨hread, hreason⟩ := hagrees.stopped hstop
  have hnests : Nests (nesting cs) (Reader.document options depth) (nesting cs) := .document h
  have hshallow := hnests.shallow (Nat.le_refl _)
  cases stop with
  | nestingTooDeep => exact absurd hread hshallow
  | emptyStack => exact hreason.elim
  | undefinedRule name => exact hreason.elim
  | endless => exact hreason.elim
  | raised error =>
      cases error with
      | integerTooLong digits => exact ⟨digits, rfl⟩
      | _ => exact hreason.elim

/-- With more depth than brackets nest, more depth makes no difference. -/
theorem Production.run_eq_of_depth {depth : Nat} {cs : List Char} (h : nesting cs < depth) :
    (rules options).run depth (document options) (State.initial cs) =
      (rules options).run (nesting cs + 1) (document options) (State.initial cs) := by
  rcases Rule.run_extends (fun name s => (rules options).call_extends h name s) (document options)
    (State.initial cs) with hdeep | heq
  · obtain ⟨digits, heq⟩ := stops_of_depth (Nat.lt_succ_self _) hdeep
    cases heq
  · exact heq

/-- A text whose brackets nest less deep than references may is never too deep to be read. -/
theorem ofText_ne_tooDeep {text : String} {source : Option String} {place : Place}
    (h : nesting (stripComments text).toList < limit) :
    Document.ofText limit options text source ≠ .error (.source (.tooDeep place)) := by
  intro hdeep
  have hends := readingEnds_ofText limit options text source
  rw [hdeep] at hends
  have hnests : Nests (nesting (stripComments text).toList) (Reader.document options limit) _ :=
    .document h
  have hshallow := hnests.shallow le_rfl
  generalize Reader.document options limit (stripComments text).toList = read at *
  cases hends with
  | tooDeep place => exact hshallow rfl

/-- Nor is it too deep to be recognized. -/
theorem recognize_ne_nestingTooDeep {text : String} {place : Place}
    (h : nesting (stripComments text).toList < limit) :
    recognize limit text ≠ .error (.nestingTooDeep place) := by
  obtain ⟨last, notes, hwalk⟩ := Form.exists_walk_body (Nat.le_refl _)
  rw [recognize_of_walks rfl (hwalk.mono h)]
  split <;> exact nofun

/-! ## References below themselves -/

/-- What refers to a name does so below the same name only behind a bracket that opened since. -/
theorem Production.exists_opening_of_reentry {name : String} {i j : Invocation Entry BuildError}
    (hi : i.rule = .ref name) (hj : j.rule = .ref name)
    (h : Relation.TransGen (Invokes (rules options)) i j) :
    ∃ taken, i.state.cursor.rest = taken ++ j.state.cursor.rest ∧
      (∃ m, Climbs 0 taken (m + 1)) ∧ ∃ c ∈ taken, c ∈ openings := by
  obtain ⟨m, taken, hrest, hclimbs⟩ :=
    exists_open_of_reentry (fun _ _ => levelled_find?) hi hj h
  exact ⟨taken, hrest, ⟨m, hclimbs⟩, hclimbs.exists_opening (Nat.succ_pos m)⟩

/-! ## Whole texts -/

/-- Brackets, and not length, decide how deep references nest. If brackets nest less deep than
references may, reading and recognizing do not go too deep. One reference more than brackets nest
is enough: with room for more a match goes the same way, and it breaks off only at an integer that
is too long. A name is come to below itself only behind a bracket that opened in between and is
still open, and what is repeated consumes something in each round. -/
theorem depth_follows_brackets (options : BuildOptions) (text : String) (source : Option String) :
    (∀ bound limit, ExceedsBy bound (stripComments text).toList → bound < limit →
      (∀ place, Document.ofText limit options text source ≠ .error (.source (.tooDeep place))) ∧
        ∀ place, recognize limit text ≠ .error (.nestingTooDeep place)) ∧
    (∀ limit, nesting (stripComments text).toList + 1 ≤ limit →
      (Production.rules options).run limit (Production.document options)
          (State.initial (stripComments text).toList) =
        (Production.rules options).run (nesting (stripComments text).toList + 1)
          (Production.document options) (State.initial (stripComments text).toList)) ∧
    (∀ stop, ((Production.rules options).run (nesting (stripComments text).toList + 1)
        (Production.document options) (State.initial (stripComments text).toList)).outcome =
          .stopped stop →
      ∃ digits, stop = .raised (.integerTooLong digits)) ∧
    (∀ (name : String) (i j : Invocation Entry BuildError), i.rule = .ref name →
      j.rule = .ref name → Relation.TransGen (Invokes (Production.rules options)) i j →
      ∃ taken, i.state.cursor.rest = taken ++ j.state.cursor.rest ∧
        (∃ m, Climbs 0 taken (m + 1)) ∧ ∃ c ∈ taken, c ∈ openings) ∧
    (Production.document options).Every (Rule.RoundsConsume (Production.rules options)) ∧
    ∀ name rule, (Production.rules options).find? name = some rule →
      rule.Every (Rule.RoundsConsume (Production.rules options)) := by
  have hstays : ∀ name rule, (Production.rules options).find? name = some rule →
      rule.Every Rule.Stays := fun _ _ => Production.stays_find?
  have hmoves : ∀ name rule, (Production.rules options).find? name = some rule → rule.Moves :=
    fun _ _ => Production.moves_find?
  refine ⟨fun bound limit hexceeds hlimit => ?_, fun _ => Production.run_eq_of_depth,
    fun _ => Production.stops_of_depth (Nat.lt_succ_self _),
    fun _ _ _ hi hj => Production.exists_opening_of_reentry hi hj, ?_, fun name rule hfind => ?_⟩
  · have hnesting := Nat.lt_of_le_of_lt (nesting_le_of_exceedsBy hexceeds) hlimit
    exact ⟨fun _ => ofText_ne_tooDeep hnesting, fun _ => recognize_ne_nestingTooDeep hnesting⟩
  · exact Rule.every_roundsConsume hstays hmoves (Production.stays_document options)
      (Production.roundsMove_document options)
  · exact Rule.every_roundsConsume hstays hmoves (hstays name rule hfind)
      (Production.roundsMove_find? hfind)

/-- Brackets that are never closed, in a text that is no document. -/
theorem depth_follows_brackets_sample :
    ExceedsBy 60 (stripComments "const list<i32> X = [[ \x22]]]\x22").toList ∧ 60 < 61 ∧
      ∀ place,
        recognize 61 "const list<i32> X = [[ \x22]]]\x22" ≠ .error (.nestingTooDeep place) := by
  have hshort :
      (unquoted (stripComments "const list<i32> X = [[ \x22]]]\x22").toList).length ≤ 60 := by
    decide +kernel
  have hexceeds : ExceedsBy 60 (stripComments "const list<i32> X = [[ \x22]]]\x22").toList :=
    fun before hbefore => by
      have hcount := before.countP_le_length (p := (· ∈ openings))
      have hlength := hbefore.length_le
      omega
  exact ⟨hexceeds, by decide,
    ((depth_follows_brackets { } _ none).1 60 61 hexceeds (by decide)).2⟩

end ThriftSchema
