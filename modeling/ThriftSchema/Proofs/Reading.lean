import ThriftSchema.Proofs.Assembly.Production
import ThriftSchema.Proofs.Grammar.Sound
import ThriftSchema.Reading

set_option autoImplicit false

/-! # What reading a document gives

Reading a text matches the production of a document against it, which ends as the reader of
documents does. So a text is read as a document exactly if the reader reads that document, with
nothing behind it, off the text without its comments.
-/

namespace ThriftSchema

variable {limit : Nat} {options : BuildOptions} {text : String} {source : Option String}

/-- Matching a document, from the start of a text. -/
theorem agrees_document (limit : Nat) (options : BuildOptions) (input : List Char) :
    Agrees (State.initial input)
      ((Production.rules options).run limit (Production.document options) (State.initial input))
      (fun d => ([.document d], []))
      (Reader.document options limit input) :=
  Performs.document options limit [] (State.initial input) rfl rfl

/-- Nothing is left behind a document. -/
theorem document_rest {depth : Nat} {input rest : List Char} {d : Document}
    (h : Reader.document options depth input = .read d rest) : rest = [] := by
  simp only [Reader.document, Reader.bind_eq_read, Reader.pure_apply, Attempt.read.injEq] at h
  obtain ⟨_, _, _, _, _, _, _, _, _, _, _, hfinish, _, rfl⟩ := h
  exact (Sound.finish hfinish).2

/-- How a match of a document ends, by what the reader does. -/
inductive MatchEnds (input : List Char) (source : Option String) :
    Attempt BuildError Document → Except (MatchError BuildError) (State Entry) → Prop
  | read {d : Document} {state : State Entry} (hstack : state.stack = [.document d])
      (hframe : state.frame = []) (hcursor : state.cursor = ⟨input.length, []⟩) :
      MatchEnds input source (.read d []) (.ok state)
  | failed (state : State Entry) :
      MatchEnds input source .failed (.error (.rejected (state.rejection input source)))
  | tooDeep (place : Place) :
      MatchEnds input source (.stopped .nestingTooDeep) (.error (.nestingTooDeep place))
  | tooLong (digits : Nat) :
      MatchEnds input source (.stopped (.raised (.integerTooLong digits)))
        (.error (.stopped (.raised (.integerTooLong digits))))

theorem matchEnds_document (limit : Nat) (options : BuildOptions) (text : String)
    (source : Option String) :
    MatchEnds (stripComments text).toList source
      (Reader.document options limit (stripComments text).toList)
      (matchDocument limit options text source) := by
  have h := agrees_document limit options (stripComments text).toList
  rw [matchDocument, Rules.matchText]
  generalize (Production.rules options).run limit (Production.document options)
    (State.initial (stripComments text).toList) = r at h ⊢
  obtain ⟨state, outcome⟩ := r
  cases hread : Reader.document options limit (stripComments text).toList with
  | failed =>
      rw [hread] at h
      obtain ⟨rfl, -⟩ := h
      exact .failed state
  | stopped stop =>
      rw [hread] at h
      obtain ⟨rfl, hstop⟩ := h
      -- only what lies in the text is left of the reasons to break off
      cases stop with
      | nestingTooDeep => exact .tooDeep _
      | emptyStack => exact hstop.elim
      | undefinedRule name => exact hstop.elim
      | endless => exact hstop.elim
      | raised error =>
          cases error with
          | integerTooLong digits => exact .tooLong digits
          | _ => exact hstop.elim
  | read d rest =>
      obtain rfl := document_rest hread
      rw [hread] at h
      obtain ⟨rfl, consumed, hconsumed, hmark⟩ := h
      have hcursor : state.cursor = ⟨0 + consumed.length, []⟩ := congrArg Mark.cursor hmark
      have hinput : (stripComments text).toList = consumed := by
        have : (stripComments text).toList = consumed ++ [] := hconsumed
        rwa [List.append_nil] at this
      refine .read (congrArg Mark.stack hmark) (congrArg Mark.frame hmark) ?_
      rw [hcursor, Nat.zero_add, hinput]

theorem takeDocument_of_stack {state : State Entry} {d : Document}
    (h : state.stack = [.document d]) : takeDocument state = .ok d := by
  have hmark : state.mark = ⟨state.cursor, [.document d], state.frame⟩ := by
    rw [← h]
    rfl
  have hview : Entry.asDocument? (.document d) = some d := rfl
  rw [takeDocument, hmark, Reduction.runOn_takeExpected hview]

theorem ofText_of_matchEnds {input : List Char} {p : Attempt BuildError Document}
    {r : Except (MatchError BuildError) (State Entry)} (h : MatchEnds input source p r)
    (hr : matchDocument limit options text source = r) (d : Document) :
    Document.ofText limit options text source = .ok d ↔ p = .read d [] := by
  unfold Document.ofText
  simp only [hr]
  cases h with
  | read hstack hframe hcursor =>
      simp only [takeDocument_of_stack hstack, Except.ok.injEq, Attempt.read.injEq, and_true]
  | failed state => simp
  | tooDeep place => simp
  | tooLong digits => simp

/-- A text is read as a document exactly if the reader reads it, with nothing behind it, off
the text without its comments. -/
theorem ofText_eq_ok_iff {d : Document} :
    Document.ofText limit options text source = .ok d ↔
      Reader.document options limit (stripComments text).toList = .read d [] :=
  ofText_of_matchEnds (matchEnds_document limit options text source) rfl d

/-! ## How reading ends -/

/-- How reading a text ends, by what the reader does; the name of the text is only in places. -/
inductive ReadingEnds : Attempt BuildError Document → Except Failure Document → Prop
  | read (d : Document) : ReadingEnds (.read d []) (.ok d)
  | rejected (rejection : Rejection) : ReadingEnds .failed (.error (.source (.rejected rejection)))
  | tooDeep (place : Place) :
      ReadingEnds (.stopped .nestingTooDeep) (.error (.source (.tooDeep place)))
  | tooLong (digits : Nat) : ReadingEnds (.stopped (.raised (.integerTooLong digits)))
      (.error (.stopped (.raised (.integerTooLong digits))))

theorem readingEnds_ofText (limit : Nat) (options : BuildOptions) (text : String)
    (source : Option String) :
    ReadingEnds (Reader.document options limit (stripComments text).toList)
      (Document.ofText limit options text source) := by
  have h := matchEnds_document limit options text source
  unfold Document.ofText
  generalize matchDocument limit options text source = r at h ⊢
  generalize Reader.document options limit (stripComments text).toList = p at h ⊢
  cases h with
  | read hstack hframe hcursor =>
      simp only [takeDocument_of_stack hstack]
      exact .read _
  | failed state => exact .rejected _
  | tooDeep place => exact .tooDeep place
  | tooLong digits => exact .tooLong digits

/-! ## Reading by the result of the match -/

/-- The result of matching a document, from the start of a text. -/
def documentResult (limit : Nat) (options : BuildOptions) (input : List Char) :
    Result Entry BuildError :=
  (Production.rules options).run limit (Production.document options) (State.initial input)

theorem agrees_documentResult (limit : Nat) (options : BuildOptions) (input : List Char) :
    Agrees (State.initial input) (documentResult limit options input) (fun d => ([.document d], []))
      (Reader.document options limit input) :=
  agrees_document limit options input

theorem outcome_of_failed {input : List Char}
    (h : Reader.document options limit input = .failed) :
    (documentResult limit options input).outcome = .failed := by
  have hagrees := agrees_documentResult limit options input
  rw [h] at hagrees
  exact hagrees.1

theorem outcome_of_stopped {input : List Char} {stop : Stop BuildError}
    (h : Reader.document options limit input = .stopped stop) :
    (documentResult limit options input).outcome = .stopped stop := by
  have hagrees := agrees_documentResult limit options input
  rw [h] at hagrees
  exact hagrees.1

/-- A text breaks reading off by nesting too deep or by an integer that is too long. -/
theorem stop_of_document {input : List Char} {stop : Stop BuildError}
    (h : Reader.document options limit input = .stopped stop) :
    stop = .nestingTooDeep ∨ ∃ digits, stop = .raised (.integerTooLong digits) := by
  have hagrees := agrees_documentResult limit options input
  rw [h] at hagrees
  obtain ⟨-, hstop⟩ := hagrees
  cases stop with
  | nestingTooDeep => exact .inl rfl
  | emptyStack => exact hstop.elim
  | undefinedRule name => exact hstop.elim
  | endless => exact hstop.elim
  | raised error =>
      cases error with
      | integerTooLong digits => exact .inr ⟨digits, rfl⟩
      | _ => exact hstop.elim

section MatchText

variable {V E : Type} {rules : Rules V E} {rule : Rule V E} {input : List Char}

theorem Rules.matchText_of_failed
    (h : (rules.run limit rule (State.initial input)).outcome = .failed) :
    rules.matchText limit rule input source = .error (.rejected
      ((rules.run limit rule (State.initial input)).state.rejection input source)) := by
  simp only [Rules.matchText, h]

theorem Rules.matchText_of_tooDeep
    (h : (rules.run limit rule (State.initial input)).outcome = .stopped .nestingTooDeep) :
    rules.matchText limit rule input source = .error (.nestingTooDeep
      (.ofOffset input (rules.run limit rule (State.initial input)).state.pos source)) := by
  simp only [Rules.matchText, h]

theorem Rules.matchText_of_raised {error : E}
    (h : (rules.run limit rule (State.initial input)).outcome = .stopped (.raised error)) :
    rules.matchText limit rule input source = .error (.stopped (.raised error)) := by
  simp only [Rules.matchText, h]

end MatchText

theorem ofText_of_matchDocument {error : MatchError BuildError}
    (h : matchDocument limit options text source = .error error) :
    Document.ofText limit options text source = .error (.ofMatch error) := by
  unfold Document.ofText
  rw [h]

theorem ofText_of_failed
    (h : (documentResult limit options (stripComments text).toList).outcome = .failed) :
    Document.ofText limit options text source = .error (.source (.rejected
      ((documentResult limit options (stripComments text).toList).state.rejection
        (stripComments text).toList source))) :=
  ofText_of_matchDocument (Rules.matchText_of_failed h)

theorem ofText_of_tooDeep
    (h : (documentResult limit options (stripComments text).toList).outcome =
      .stopped .nestingTooDeep) :
    Document.ofText limit options text source = .error (.source (.tooDeep
      (.ofOffset (stripComments text).toList
        (documentResult limit options (stripComments text).toList).state.pos source))) :=
  ofText_of_matchDocument (Rules.matchText_of_tooDeep h)

theorem ofText_of_tooLong {digits : Nat}
    (h : (documentResult limit options (stripComments text).toList).outcome =
      .stopped (.raised (.integerTooLong digits))) :
    Document.ofText limit options text source =
      .error (.stopped (.raised (.integerTooLong digits))) :=
  ofText_of_matchDocument (Rules.matchText_of_raised h)

end ThriftSchema
