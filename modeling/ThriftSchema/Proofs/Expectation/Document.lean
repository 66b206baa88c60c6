import ThriftSchema.Proofs.Expectation.Report
import ThriftSchema.Proofs.Expectation.Resumption
import ThriftSchema.Proofs.Expectation.Vocabulary
import ThriftSchema.Reading

set_option autoImplicit false

/-! # Every expectation is a way to go on

A text that is rejected is a document up to the place that is reported, if it is gone on with. Each
label that is reported is a way to do so: the end of the input where the text is a document up to
there, and any other label with a text that it stands for.

* `Form.body`: what a document is, behind the layout at its start.
* `recognize_of_walks`: what is recognized, as a walk tells.
* `ContinuesWith`: a text goes on with a label.
* `expected_goes_on`: it does with every label that is reported.
-/

namespace ThriftSchema

open Reader (skipLayout)

variable {limit : Nat}

/-! ## The recognizer walks -/

/-- The headers and the definitions of a document. -/
def Form.body : Form := .seq (.star header) (.star definition)

theorem Rule.run_seq_of_matched {call : String → State Entry → Result Entry BuildError}
    {first rest : Production} {s t : State Entry} (h : first.run call s = ⟨t, .matched⟩) :
    (Rule.seq first rest).run call s =
      (rest.run call t).orElse fun u => ⟨u.reset s.mark, .failed⟩ := by
  show ((first.run call s).andThen (rest.run call)).orElse _ = _
  rw [h]
  rfl

theorem run_layout (call : String → State Entry → Result Entry BuildError) (text : List Char) :
    Production.layout.run call (State.initial text) =
      ⟨(State.initial text).along text.length (skipLayout text) [], .matched⟩ := by
  have hle : Pattern.spanLength Pattern.isLayout text ≤ text.length :=
    (List.takeWhile_prefix _).length_le
  have hcursor : (⟨0, text⟩ : Cursor).advance (Pattern.spanLength Pattern.isLayout text) =
      ⟨text.length - (skipLayout text).length, skipLayout text⟩ := by
    rw [Reader.skipLayout_eq_drop, Cursor.advance, List.length_drop, Nat.sub_sub_self hle]
    exact congrArg (Cursor.mk · _) (Nat.zero_add _)
  show (⟨{ State.initial text with
      cursor := (⟨0, text⟩ : Cursor).advance (Pattern.spanLength Pattern.isLayout text) },
    .matched⟩ : Result Entry BuildError) = _
  rw [hcursor]
  rfl

/-- The end of a document is the end of the text. -/
theorem run_finish (call : String → State Entry → Result Entry BuildError) (s : State Entry) :
    (Rule.seq .finish (.seq .done .done)).run call s =
      if s.cursor.rest.isEmpty then ⟨s, .matched⟩
      else ⟨(s.failAt "end of input" s.pos).reset s.mark, .failed⟩ := by
  show ((if s.cursor.rest.isEmpty then ⟨s, .matched⟩
    else s.refuse "end of input").andThen _).orElse _ = _
  split <;> rfl

section Recognize

variable {text : String} {cs last : List Char} {notes : List Note}
  (hcs : (stripComments text).toList = cs)
  (hwalk : Walks limit Form.body (skipLayout cs) (some last) notes)

include hcs hwalk

/-- A walk through a text tells what is recognized. -/
theorem recognize_of_walks :
    recognize limit text =
      if last.isEmpty then .ok ((State.initial cs).along cs.length last notes)
      else .error (.rejected ((((State.initial cs).noting cs.length notes).failAt
        "end of input" (cs.length - last.length)).rejection cs none)) := by
  let call := (Production.rules { }).bare.call limit
  cases hwalk with
  | @seq _ _ _ _ middle _ headers definitions hheaders hdefinitions =>
      let s : State Entry := State.initial cs
      have hstart : (skipLayout cs).length ≤ cs.length := (List.dropWhile_suffix _).length_le
      have hmiddle : middle.length ≤ cs.length :=
        Nat.le_trans (hheaders.within.left middle rfl) hstart
      have hfirst : (Rule.star Form.header.rule).run call (s.along cs.length (skipLayout cs) []) =
          ⟨s.along cs.length middle headers, .matched⟩ := hheaders.runs s cs.length [] hstart
      have hsecond : (Rule.star Form.definition.rule).run call (s.along cs.length middle headers) =
          ⟨s.along cs.length last (headers ++ definitions), .matched⟩ :=
        hdefinitions.runs s cs.length headers hmiddle
      have hdocument : (Production.document { }).bare =
          .seq Production.layout (.seq (.star Form.header.rule)
            (.seq (.star Form.definition.rule) (.seq .finish (.seq .done .done)))) := by
        rw [Form.rule_header, Form.rule_definition]
        rfl
      have hrest : (s.along cs.length last (headers ++ definitions)).cursor.rest = last := rfl
      rw [recognize, Rules.matchText, hcs, Rules.run, hdocument,
        Rule.run_seq_of_matched (run_layout call cs), Rule.run_seq_of_matched hfirst,
        Rule.run_seq_of_matched hsecond, run_finish, hrest]
      cases last with
      | nil => rfl
      | cons c rest =>
          -- going back to the start keeps what was learnt about failures
          have hkept : ∀ (label : String) (pos : Nat),
              ((s.along cs.length (c :: rest) (headers ++ definitions)).failAt label pos).rejection
                cs none = ((s.noting cs.length (headers ++ definitions)).failAt label pos).rejection
                cs none := by
            intro label pos
            rw [State.along, State.failAt_cursor]
            rfl
          exact congrArg (fun rejection => Except.error (MatchError.rejected rejection))
            (hkept "end of input" (cs.length - (c :: rest).length))

end Recognize

/-- A text without comments that is walked to its end is a document. -/
theorem recognizes_of_walks {cs : List Char} {notes : List Note} {depth : Nat} (hcs : Plain cs)
    (hdepth : depth ≤ limit)
    (hwalk : Walks depth Form.body (skipLayout cs) (some []) notes) :
    recognizes limit (String.ofList cs) = true := by
  have hstrip : (stripComments (String.ofList cs)).toList = cs := by
    rw [stripComments, String.toList_ofList, String.toList_ofList, Comment.strip_of_plain hcs]
  have hread := recognize_of_walks hstrip (hwalk.mono hdepth)
  rw [if_pos List.isEmpty_nil] at hread
  unfold recognizes
  rw [hread]

/-! ## The body of a document -/

namespace Form

theorem sound_body : body.Sound 2 where
  wellFormed := by decide +kernel
  candid := by decide +kernel
  resumable := by decide +kernel

theorem sound_named {name : String} {form : Form} (h : named? name = some form) :
    form.Sound 2 where
  toSteady := .of_named h
  resumable := of_names (p := fun _ form => form.resumable 2) (by decide +kernel) h

theorem mem_pool_of_body : ∀ head ∈ body.heads, head ∈ pool :=
  fun _ h => List.mem_append_left _ h

/-- At the end of the text a document looks for nothing more. -/
theorem last_body : ∃ heads, body.last 2 = some heads ∧ ∀ head ∈ heads, head.Quits [] := by
  have hall : ((body.last 2).any fun heads => heads.all Head.fits) = true := by decide +kernel
  obtain ⟨heads, hheads, hfits⟩ := (Option.any_eq_true _ _).1 hall
  exact ⟨heads, hheads, fun head hhead => Head.quits_nil (List.all_eq_true.1 hfits head hhead)⟩

/-- A text that does not nest too deep is walked. -/
theorem exists_walk_body {cs : List Char} {bound : Nat} (h : nesting cs ≤ bound) :
    ∃ last notes, Walks (bound + 1) body (skipLayout cs) (some last) notes := by
  have hlevel : body.levelled 1 0 = true := by decide +kernel
  have hnesting : nesting (skipLayout cs) + 0 ≤ bound := by rwa [nesting_skipLayout]
  obtain ⟨left, notes, hwalk, -⟩ :=
    exists_walk sound_body.wellFormed hlevel hnesting (Nat.le_refl (bound + 1))
  cases hwalk with
  | seqFailed hheaders => cases hheaders
  | seq hheaders hdefinitions =>
      cases hdefinitions with
      | starDone h => exact ⟨_, _, .seq hheaders (.starDone h)⟩
      | starNext h hmoves hnext => exact ⟨_, _, .seq hheaders (.starNext h hmoves hnext)⟩

end Form

/-! ## Going on -/

/-- A document begins with a text and goes on with what a label stands for, or is the text, if it
is the label of the end. -/
def ContinuesWith (limit : Nat) (front : List Char) (label : String) : Prop :=
  if label = "end of input" then recognizes limit (String.ofList front) = true
  else ∃ x more, IsTokenOf label x ∧
    recognizes limit (String.ofList (front ++ ' ' :: (x ++ more))) = true

theorem ContinuesWith.exists_append {front : List Char} {label : String}
    (h : ContinuesWith limit front label) :
    ∃ more, recognizes limit (String.ofList (front ++ more)) = true := by
  rw [ContinuesWith] at h
  split at h
  · exact ⟨[], by rwa [List.append_nil]⟩
  · obtain ⟨x, more, -, hmore⟩ := h
    exact ⟨_, hmore⟩

section Furthest

variable {depth : Nat} {front rest last : List Char} {notes : List Note}
  (hseam : Seam front rest)
  (hwalk : Walks depth Form.body (skipLayout (front ++ rest)) (some last) notes)
  (hahead : ∀ note ∈ notes, rest.length ≤ note.ahead) (hdepth : depth + 2 ≤ limit)

include hseam hwalk hahead hdepth

/-- Where the definitions end, and nothing that was looked for goes further, the text is a
document. -/
theorem recognizes_front (hlast : last.length = rest.length) :
    recognizes limit (String.ofList front) = true := by
  have hpool := hwalk.mem_pool Form.mem_pool_of_body
  have hstops : Stops rest [] (some last) notes := by
    refine ⟨fun other hother => ?_, hahead, fun note hnote _ => ?_⟩
    · rw [← Option.some.inj hother]
      exact Nat.le_of_eq hlast.symm
    · exact Head.quits_nil (Head.fits_of_mem (hpool note hnote).1)
  have hend : SetOff [] := fun c hc => nomatch hc
  obtain ⟨left, more, hreplay, hsame⟩ := hwalk.replay Form.sound_body.toSteady hend hstops
    (Swap.of_seam hseam)
  cases hsame with
  | some hswap =>
      rw [hswap.eq_of_length hlast, List.append_nil] at hreplay
      exact recognizes_of_walks hseam.plain (Nat.le_of_add_right_le hdepth) hreplay

/-- Where a token was looked for, it can be put, and a document be made of it. -/
theorem recognizes_resumption {note : Note} (hnote : note ∈ notes)
    (hhere : note.ahead = rest.length) :
    ∃ more, recognizes limit
      (String.ofList (front ++ ' ' :: (note.terminal.sample ++ more))) = true := by
  have hpool := hwalk.mem_pool Form.mem_pool_of_body
  obtain ⟨hhead, hterminal⟩ := hpool note hnote
  obtain ⟨hsampled, -, htakes⟩ := Head.isSampled_of_mem hhead hterminal
  obtain ⟨heads, hheads, hquits⟩ := Form.last_body
  have hdecided : Decided rest note.terminal notes :=
    ⟨hahead, fun other hother _ => Head.takes_or_refuses (hpool other hother).1 hhead hterminal⟩
  obtain ⟨tokens, hresumes⟩ := hwalk.resumes (fun _ _ => Form.sound_named) Form.sound_body hheads
    hsampled hdecided ⟨note, hnote, hhere, htakes⟩
  obtain ⟨more, hresumed⟩ := hresumes.walks rfl hquits (Swap.of_seam hseam)
  have hplain : Plain (front ++ resumption note.terminal tokens []) := by
    have hall : ∀ t ∈ note.terminal :: tokens, t.isSampled = true :=
      List.forall_mem_cons.2 ⟨hsampled, hresumes.sampled⟩
    rw [resumption, List.append_nil]
    exact hseam.plain.append (.cons (by decide) (plain_spell hall))
  refine ⟨' ' :: spell tokens, ?_⟩
  have hrecognized := recognizes_of_walks hplain hdepth hresumed
  rwa [resumption, spell_cons, List.append_nil] at hrecognized

end Furthest

/-! ## What is reported -/

/-- What is noted of a text of `total` characters: the tokens that a walk looked for in vain, and
the end of the text, where the walk left some of it. -/
def Noted (total : Nat) (last : List Char) (notes : List Note) (label : String) (pos : Nat) :
    Prop :=
  (∃ note ∈ notes, label = note.terminal.label ∧ pos = total - note.ahead) ∨
    label = "end of input" ∧ pos = total - last.length

theorem reports_noted (cs last : List Char) (notes : List Note) :
    Reports (((State.initial cs).noting cs.length notes).failAt "end of input"
      (cs.length - last.length)) (Noted cs.length last notes) := by
  have hreports := ((Reports.initial cs).noting cs.length notes).failAt "end of input"
    (cs.length - last.length)
  simp only [false_or] at hreports
  exact hreports

/-- What is noted is noted at a seam. -/
theorem Noted.exists_seam {depth : Nat} {cs last : List Char} {notes : List Note}
    {label : String} {pos : Nat}
    (hwalk : Walks depth Form.body (skipLayout cs) (some last) notes)
    (h : Noted cs.length last notes label pos) :
    ∃ front rest, cs = front ++ rest ∧ front.length = pos ∧ Seam front rest := by
  obtain ⟨blanks, hblanks, -, hstart⟩ := Seam.skip .nil (.inr .nil)
  rw [List.nil_append] at hstart
  have hseams := hwalk.seams Form.sound_body.wellFormed hstart
  have hsplit : ∀ {taken rest}, skipLayout cs = taken ++ rest → Seam (blanks ++ taken) rest →
      pos = cs.length - rest.length →
      ∃ front rest, cs = front ++ rest ∧ front.length = pos ∧ Seam front rest := by
    intro taken rest hinput hseam hpos
    have hfront : cs = blanks ++ taken ++ rest := by
      rw [List.append_assoc, ← hinput]
      exact hblanks
    have hlength := congrArg List.length hfront
    rw [List.length_append] at hlength
    exact ⟨blanks ++ taken, rest, hfront, by omega, hseam⟩
  rcases h with ⟨note, hnote, -, hpos⟩ | ⟨-, hpos⟩
  · obtain ⟨taken, rest, hinput, hlength, hseam⟩ := hseams.notes note hnote
    exact hsplit hinput hseam (hlength ▸ hpos)
  · obtain ⟨taken, hinput, hseam⟩ := hseams.left last rfl
    exact hsplit hinput hseam hpos

/-- Where what is noted is noted furthest, the text goes on with it. -/
theorem Noted.continuesWith {depth : Nat} {front rest last : List Char} {notes : List Note}
    {label : String} (hseam : Seam front rest)
    (hwalk : Walks depth Form.body (skipLayout (front ++ rest)) (some last) notes)
    (hahead : ∀ note ∈ notes, rest.length ≤ note.ahead) (hdepth : depth + 2 ≤ limit)
    (h : Noted (front ++ rest).length last notes label front.length) :
    ContinuesWith limit front label := by
  have hskip : (skipLayout (front ++ rest)).length ≤ (front ++ rest).length :=
    (List.dropWhile_suffix _).length_le
  have hsum : (front ++ rest).length = front.length + rest.length := List.length_append
  rcases h with ⟨note, hnote, rfl, hpos⟩ | ⟨rfl, hpos⟩
  · have hbound := hwalk.within.notes note hnote
    have hhere : note.ahead = rest.length := by omega
    obtain ⟨more, hmore⟩ := recognizes_resumption hseam hwalk hahead hdepth hnote hhere
    obtain ⟨hhead, hterminal⟩ := hwalk.mem_pool Form.mem_pool_of_body note hnote
    obtain ⟨hsampled, hlabelled, -⟩ := Head.isSampled_of_mem hhead hterminal
    have hfits := Terminal.fits_of_isSampled hsampled
    rw [ContinuesWith, if_neg (Terminal.label_ne hlabelled)]
    exact ⟨note.terminal.sample, more, Terminal.isTokenOf_sample hfits hlabelled, hmore⟩
  · have hbound := hwalk.within.left last rfl
    have hlast : last.length = rest.length := by omega
    rw [ContinuesWith, if_pos rfl]
    exact recognizes_front hseam hwalk hahead hdepth hlast

/-- **Every expectation is a way to go on.** A text that nests less deep than the limit, by as much
as going on may nest, and is rejected goes on, at the place that is reported, with every label that
is reported, and there is one. -/
theorem expected_goes_on {text : String} {failure : MatchError BuildError}
    (hnesting : nesting (stripComments text).toList + 3 ≤ limit)
    (h : recognize limit text = .error failure) :
    ∃ (rejection : Rejection) (front rest : List Char), failure = .rejected rejection ∧
      (stripComments text).toList = front ++ rest ∧ rejection.position = front.length ∧
      rejection.expected ≠ [] ∧ (∀ label ∈ rejection.expected, ContinuesWith limit front label) ∧
      ∃ more, recognizes limit (String.ofList (front ++ more)) = true := by
  generalize hcs : (stripComments text).toList = cs at hnesting
  obtain ⟨last, notes, hwalk⟩ := Form.exists_walk_body (Nat.le_refl (nesting cs))
  rw [recognize_of_walks hcs (hwalk.mono (by omega))] at h
  split at h
  · cases h
  obtain rfl := Except.error.inj h
  -- what is reported is what was noted furthest
  have hreports := reports_noted cs last notes
  generalize ((State.initial cs).noting cs.length notes).failAt "end of input"
    (cs.length - last.length) = s at hreports
  have hnonempty : s.expected ≠ [] := hreports.ne_nil (.inr ⟨rfl, rfl⟩)
  obtain ⟨label, hlabel⟩ := List.exists_mem_of_ne_nil _ hnonempty
  obtain ⟨front, rest, rfl, hfurthest, hseam⟩ := (hreports.mem.1 hlabel).exists_seam hwalk
  have hahead : ∀ note ∈ notes, rest.length ≤ note.ahead := by
    intro note hnote
    have hle := hreports.le (.inl ⟨note, hnote, rfl, rfl⟩)
    have hsum : (front ++ rest).length = front.length + rest.length := List.length_append
    omega
  have hreported : ∀ {label}, label ∈ (s.rejection (front ++ rest) none).expected ↔
      label ∈ s.expected := mem_sortLabels
  have hgoes : ∀ label ∈ (s.rejection (front ++ rest) none).expected,
      ContinuesWith limit front label := by
    intro label hlabel
    have hnoted := hreports.mem.1 (hreported.1 hlabel)
    rw [← hfurthest] at hnoted
    exact hnoted.continuesWith hseam hwalk hahead hnesting
  refine ⟨s.rejection (front ++ rest) none, front, rest, rfl, rfl, ?_, ?_, hgoes, ?_⟩
  · exact congrArg Int.ofNat hfurthest.symm
  · exact List.ne_nil_of_mem (hreported.2 hlabel)
  · exact (hgoes label (hreported.2 hlabel)).exists_append

theorem expected_goes_on_sample :
    nesting (stripComments "const map ").toList + 3 ≤ 60 ∧ ∃ rejection : Rejection,
      recognize 60 "const map " = .error (.rejected rejection) ∧ rejection.position = 10 ∧
        rejection.expected = ["'<'", "'cpp_type'", "identifier"] ∧
        ∀ label ∈ rejection.expected, ContinuesWith 60 "const map ".toList label := by
  have hplain : Plain "const map ".toList := .of_forall (by decide)
  have hstrip : stripComments "const map " = "const map " := by
    rw [stripComments, Comment.strip_of_plain hplain, String.ofList_toList]
  have hnesting : nesting (stripComments "const map ").toList + 3 ≤ 60 := by
    rw [hstrip]
    decide +kernel
  have hreported : (match recognize 60 "const map " with
      | .error (.rejected rejection) => decide (rejection.position = 10 ∧
          rejection.expected = ["'<'", "'cpp_type'", "identifier"])
      | _ => false) = true := by
    unfold recognize
    rw [hstrip]
    decide +kernel
  cases hread : recognize 60 "const map " with
  | ok s =>
      rw [hread] at hreported
      cases hreported
  | error failure =>
      obtain ⟨rejection, front, rest, rfl, hsplit, hposition, -, hgoes, -⟩ :=
        expected_goes_on hnesting hread
      rw [hread] at hreported
      obtain ⟨hten, hexpected⟩ := of_decide_eq_true hreported
      have hfront : front = "const map ".toList := by
        have hlength : front.length = 10 := by omega
        rw [hstrip] at hsplit
        have htext : "const map ".toList.length = 10 := by decide
        obtain rfl : rest = [] := by
          have hboth := congrArg List.length hsplit
          rw [List.length_append] at hboth
          exact List.eq_nil_of_length_eq_zero (by omega)
        rw [hsplit, List.append_nil]
      exact ⟨hnesting, rejection, rfl, hten, hexpected, hfront ▸ hgoes⟩

end ThriftSchema
