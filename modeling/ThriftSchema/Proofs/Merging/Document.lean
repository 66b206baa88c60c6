import ThriftSchema.Proofs.Canonical.Roundtrip
import ThriftSchema.Proofs.Merging.Part
import ThriftSchema.Proofs.Quotation.Quotes
import ThriftSchema.Proofs.Reading
import ThriftSchema.Proofs.Text.Append

set_option autoImplicit false

/-! # A document behind another one

The text of a document behind the text of another one, with a newline between them, is the text of
the two merged, unless a header of the second one comes behind a definition of the first: then the
text is rejected. For headers and definitions are read up to the newline as they were, and the
second text is read behind it from its start.

* `Readings`: what a repetition reads, round by round.
* `document_eq_read_iff`: a document is rounds of headers and rounds of definitions.
* `ofText_append`: the result about whole texts.
-/

namespace ThriftSchema

open Reader (skipLayout)

variable {α : Type}

/-! ## Readings -/

/-- The rounds of a repetition: each reads a value and moves on, until there is none. -/
inductive Readings (p : PartReader α) : List Char → List α → List Char → Prop
  | none {input : List Char} (h : p input = .failed) : Readings p input [] input
  | cons {input middle rest : List Char} {a : α} {as : List α} (h : p input = .read a middle)
      (hless : middle.length < input.length) (hmore : Readings p middle as rest) :
      Readings p input (a :: as) rest

namespace Readings

variable {p : PartReader α} {input rest : List Char} {as : List α}

theorem manyWithin_eq (h : Readings p input as rest) {bound : List Char}
    (hbound : input.length < bound.length) : Reader.manyWithin p bound input = .read as rest := by
  induction h generalizing bound with
  | none h =>
      obtain ⟨c, bound, rfl⟩ := List.exists_cons_of_length_pos (Nat.zero_lt_of_lt hbound)
      exact Reader.manyWithin_eq_read.2 (.inl ⟨h, rfl, rfl⟩)
  | cons h hless _ ih =>
      obtain ⟨c, bound, rfl⟩ := List.exists_cons_of_length_pos (Nat.zero_lt_of_lt hbound)
      rw [List.length_cons] at hbound
      exact Reader.manyWithin_eq_read.2
        (.inr ⟨_, _, h, .inr ⟨Nat.ne_of_lt hless, _, ih (by omega), rfl⟩⟩)

section Less

variable (hless : ∀ {input rest a}, p input = .read a rest → rest.length < input.length)

include hless

theorem of_manyWithin {bound : List Char} (h : Reader.manyWithin p bound input = .read as rest) :
    Readings p input as rest := by
  induction bound generalizing input as with
  | nil => cases h
  | cons c bound ih =>
      rcases Reader.manyWithin_eq_read.1 h with
        ⟨hfailed, rfl, rfl⟩ | ⟨a, middle, hread, ⟨hstall, -, -⟩ | ⟨-, others, hmore, rfl⟩⟩
      · exact .none hfailed
      · exact absurd hstall (Nat.ne_of_lt (hless hread))
      · exact .cons hread (hless hread) (ih hmore)

theorem iff_many : Readings p input as rest ↔ Reader.many p input = .read as rest :=
  ⟨fun h => h.manyWithin_eq (by simp only [List.length_cons]; omega), of_manyWithin hless⟩

/-- Readings in front of another text, and the rounds that go on in it. -/
theorem append {r : List Char} (hp : Carried (Joined r 0) p (Joined r 0))
    (h : Readings p input as rest) {other : List Char} (hjoined : Joined r 0 input other) :
    ∃ behind, Joined r 0 rest behind ∧ ∀ {more last}, Readings p behind more last →
      Readings p other (as ++ more) last := by
  induction h generalizing other with
  | none => exact ⟨other, hjoined, fun hmore => hmore⟩
  | cons hread _ _ ih =>
      obtain ⟨middle, hother, hmiddle⟩ := hp hjoined hread
      obtain ⟨behind, hbehind, hall⟩ := ih hmiddle
      exact ⟨behind, hbehind, fun hmore => .cons hother (hless hother) (hall hmore)⟩

end Less

end Readings

/-! ## Headers and definitions -/

variable {options : BuildOptions} {depth : Nat}

theorem length_lt_of_begins {words : List String} {Q : Ahead} {taken rest : List Char}
    (h : Begins words Q taken rest) (hwords : ∀ text ∈ words, text.toList ≠ []) :
    rest.length < (taken ++ rest).length := by
  obtain ⟨text, htext, w, rfl, -⟩ := h
  have hpos := List.length_pos_iff.2 (hwords text htext)
  simp only [List.length_append]
  omega

theorem length_lt_of_definition {input rest : List Char} {d : Definition}
    (h : Reader.definition options depth input = .read d rest) : rest.length < input.length := by
  have hconfined : Confined _ (Reader.definition options depth) Ended := .definition depth
  obtain ⟨taken, rfl⟩ := hconfined.takes h
  exact length_lt_of_begins (hconfined.opens (v := []) rfl h) (by decide)

theorem length_lt_of_header {input rest : List Char} {header : Header}
    (h : Reader.header input = .read header rest) : rest.length < input.length := by
  have hconfined := Confined.header (Q := Ahead.always)
  obtain ⟨taken, rfl⟩ := hconfined.takes h
  exact length_lt_of_begins (hconfined.opens (v := []) trivial h) (by decide)

theorem led_definition (options : BuildOptions) (depth : Nat) :
    Led definitionWords (Reader.definition options depth) :=
  (ByWord.definition (r := []) nofun (.inl rfl) options depth).led

theorem led_header : Led headerWords Reader.header :=
  (ByWord.header (r := []) nofun (.inl rfl)).led

/-- Where a definition begins there is no header. -/
theorem header_failed {input rest : List Char} {d : Definition}
    (h : Reader.definition options depth input = .read d rest) : Reader.header input = .failed :=
  led_header fun text htext => by
    have hall : ∀ text ∈ headerWords, ∀ other ∈ definitionWords,
        wordAhead other.toList ≠ wordAhead text.toList := by decide
    exact (led_definition options depth).word_failed h (hall text htext)

/-- Where a header begins there is no definition. -/
theorem definition_failed {input rest : List Char} {header : Header}
    (h : Reader.header input = .read header rest) :
    Reader.definition options depth input = .failed :=
  led_definition options depth fun text htext => by
    have hall : ∀ text ∈ definitionWords, ∀ other ∈ headerWords,
        wordAhead other.toList ≠ wordAhead text.toList := by decide
    exact led_header.word_failed h (hall text htext)

theorem isLead_of_led {words : List String} {p : PartReader α} (h : Led words p)
    (hwords : ∀ text ∈ words,
      text ∈ headerWords ++ definitionWords ∧ wordAhead text.toList = text.toList)
    {input rest : List Char} {a : α} (hread : p input = .read a rest) : isLead input = true := by
  obtain ⟨text, htext, _, hword⟩ := h.exists_word hread
  refine List.any_eq_true.2 ⟨text, (hwords text htext).1, beq_iff_eq.2 ?_⟩
  rw [(wordAhead_of_word hword).1, (hwords text htext).2]

/-! ## Documents -/

variable {d e : Document}

/-- A document is rounds of headers and behind them rounds of definitions up to the end. -/
theorem document_eq_read_iff {input : List Char} :
    Reader.document options depth input = .read d [] ↔
      ∃ middle, Readings Reader.header (skipLayout input) d.headers middle ∧
        Readings (Reader.definition options depth) middle d.definitions [] := by
  simp only [Readings.iff_many length_lt_of_header, Readings.iff_many length_lt_of_definition,
    Reader.document, Reader.bind_eq_read, Reader.pure_apply, Attempt.read.injEq]
  constructor
  · rintro ⟨_, _, hlayout, headers, middle, hheaders, definitions, last, hdefinitions, _, _,
      hfinish, rfl, rfl⟩
    obtain ⟨-, rfl⟩ := Attempt.read.inj hlayout
    obtain ⟨rfl, -⟩ := Sound.finish hfinish
    exact ⟨middle, hheaders, hdefinitions⟩
  · rintro ⟨middle, hheaders, hdefinitions⟩
    exact ⟨(), _, rfl, _, middle, hheaders, _, [], hdefinitions, (), [], rfl, rfl, rfl⟩

/-- A text is no document if there is more behind the definitions. -/
theorem document_failed {input middle last : List Char} {headers : List Header}
    {definitions : List Definition}
    (hheaders : Readings Reader.header (skipLayout input) headers middle)
    (hdefinitions : Readings (Reader.definition options depth) middle definitions last)
    (hlast : last ≠ []) : Reader.document options depth input = .failed := by
  have hfirst := (Readings.iff_many length_lt_of_header).1 hheaders
  have hsecond := (Readings.iff_many length_lt_of_definition).1 hdefinitions
  have hfinish : Reader.finish last = .failed := by
    obtain ⟨c, cs, rfl⟩ := List.exists_cons_of_ne_nil hlast
    rfl
  rw [Reader.document, Reader.bind_of_read (Reader.layout_eq input), Reader.bind_of_read hfirst,
    Reader.bind_of_read hsecond, Reader.bind_of_failed hfinish]

/-- What is left of a document behind its layout is nothing or begins with a word. -/
theorem isLead_of_document {input : List Char}
    (h : Reader.document options depth input = .read d []) :
    skipLayout input = [] ∨ isLead (skipLayout input) = true := by
  obtain ⟨headers, definitions⟩ := d
  obtain ⟨middle, hheaders, hdefinitions⟩ := document_eq_read_iff.1 h
  generalize skipLayout input = start at hheaders ⊢
  cases hheaders with
  | cons hread => exact .inr (isLead_of_led led_header (by decide) hread)
  | none =>
      cases hdefinitions with
      | none => exact .inl rfl
      | cons hread => exact .inr (isLead_of_led (led_definition options depth) (by decide) hread)

/-! ## One document behind another -/

section Behind

variable {x r : List Char} (hbreak : ∀ c ∈ r.head?, isBreak c = true)
  (hd : Reader.document options depth x = .read d [])
  (he : Reader.document options depth r = .read e [])

include hbreak hd he

/-- Up to the second document all is read as it was: the headers, behind which the headers may go
on, and the definitions, behind which definitions may go on at the start of the second text. -/
theorem exists_behind :
    ∃ behind, (d.definitions = [] → behind = skipLayout r) ∧
      (d.definitions ≠ [] → Reader.header behind = .failed) ∧
      (∀ {more last}, Readings Reader.header behind more last →
        Readings Reader.header (skipLayout (x ++ r)) (d.headers ++ more) last) ∧
      ∀ {more last}, Readings (Reader.definition options depth) (skipLayout r) more last →
        Readings (Reader.definition options depth) behind (d.definitions ++ more) last := by
  obtain ⟨headers, definitions⟩ := d
  have hnext := isLead_of_document he
  have hdefinition := (ByWord.definition hbreak hnext options depth).carried
  obtain ⟨middle, hheaders, hdefinitions⟩ := document_eq_read_iff.1 hd
  obtain ⟨behind, hbehind, hmore⟩ := hheaders.append length_lt_of_header
    (ByWord.header hbreak hnext).carried (Joined.skip (climbs_of_document hd))
  obtain ⟨last, hlast, hrest⟩ := hdefinitions.append length_lt_of_definition hdefinition hbehind
  obtain rfl := hlast.eq_of_nil
  refine ⟨behind, fun hnone => ?_, fun hsome => ?_, hmore, hrest⟩
  · obtain rfl : definitions = [] := hnone
    cases hdefinitions
    exact hbehind.eq_of_nil
  · cases hdefinitions with
    | none => exact absurd rfl hsome
    | cons hread =>
        obtain ⟨_, hother, -⟩ := hdefinition hbehind hread
        exact header_failed hother

theorem document_merge (h : d.definitions = [] ∨ e.headers = []) :
    Reader.document options depth (x ++ r) = .read (d.merge e) [] := by
  obtain ⟨behind, hsame, hnone, hheaders, hdefinitions⟩ := exists_behind hbreak hd he
  obtain ⟨middle, hfirst, hsecond⟩ := document_eq_read_iff.1 he
  refine document_eq_read_iff.2 ?_
  by_cases hd' : d.definitions = []
  · -- the headers go on in the second text
    obtain rfl := hsame hd'
    refine ⟨middle, hheaders hfirst, ?_⟩
    rwa [Document.definitions_merge, hd', List.nil_append]
  · have he' : e.headers = [] := h.resolve_left hd'
    rw [he'] at hfirst
    cases hfirst
    refine ⟨behind, ?_, hdefinitions hsecond⟩
    rw [Document.headers_merge, he']
    exact hheaders (.none (hnone hd'))

theorem document_failed_of_headers (h : ¬(d.definitions = [] ∨ e.headers = [])) :
    Reader.document options depth (x ++ r) = .failed := by
  rw [not_or] at h
  obtain ⟨headers, definitions⟩ := e
  obtain ⟨behind, -, hnone, hheaders, hdefinitions⟩ := exists_behind hbreak hd he
  obtain ⟨middle, hfirst, -⟩ := document_eq_read_iff.1 he
  cases hfirst with
  | none => exact absurd rfl h.2
  | cons hread hless =>
      -- there is a header where a definition would have to be
      refine document_failed (hheaders (.none (hnone h.1)))
        (hdefinitions (.none (definition_failed hread))) ?_
      exact List.length_pos_iff.1 (Nat.zero_lt_of_lt hless)

end Behind

/-! ## Texts -/

variable {limit : Nat} {text : String} {source : Option String}

/-- In a text that is read as a document no slash and no quote opens nothing. -/
theorem ne_stray_of_ofText (h : Document.ofText limit options text source = .ok d) :
    ∀ token ∈ Comment.Token.scan text.toList, token.kind ≠ .stray := by
  obtain ⟨taken, _, htaken, hshows, -⟩ :=
    Quotes.document options limit (ofText_eq_ok_iff.1 h)
  rw [List.append_nil] at htaken
  have hnone := hshows.literals_of_scan.1
  rw [← htaken, ofKind_scan_stripComments (by decide) rfl] at hnone
  intro token htoken hkind
  exact List.filter_eq_nil_iff.1 hnone token htoken (beq_iff_eq.2 hkind)

/-- A newline and another text behind a document: comments are taken out of each text. -/
theorem stripComments_append (h : Document.ofText limit options text source = .ok d)
    (other : String) :
    (stripComments (text ++ "\n" ++ other)).toList =
      (stripComments text).toList ++ '\n' :: (stripComments other).toList := by
  have hsplit : (text ++ "\n" ++ other).toList = text.toList ++ '\n' :: other.toList := by
    rw [String.toList_append, String.toList_append, List.append_assoc]
    rfl
  rw [stripComments, stripComments, stripComments, String.toList_ofList, String.toList_ofList,
    String.toList_ofList, hsplit, Comment.strip_append (ne_stray_of_ofText h)
      fun _ => notAhead_cons.2 (by decide), Comment.strip_cons_of_not_opener (by decide)]

/-- **A text behind another one is read as the merged document**: two texts that are read as
documents, with a newline between them, whatever the first one ends in. Only if there are
definitions in the first one and headers in the second one the whole is rejected. -/
theorem ofText_append (options : BuildOptions) (first second : String)
    (source source' whole : Option String) (d e : Document)
    (hfirst : Document.ofText limit options first source = .ok d)
    (hsecond : Document.ofText limit options second source' = .ok e) :
    (d.definitions = [] ∨ e.headers = [] →
      Document.ofText limit options (first ++ "\n" ++ second) whole = .ok (d.merge e)) ∧
    (¬(d.definitions = [] ∨ e.headers = []) → ∃ rejection : Rejection,
      Document.ofText limit options (first ++ "\n" ++ second) whole =
        .error (.source (.rejected rejection))) := by
  have hbreak : ∀ c ∈ ('\n' :: (stripComments second).toList).head?, isBreak c = true := by
    rintro c ⟨⟩
    decide
  have hd := ofText_eq_ok_iff.1 hfirst
  have he : Reader.document options limit ('\n' :: (stripComments second).toList) =
      .read e [] := ofText_eq_ok_iff.1 hsecond
  have hstrip := stripComments_append hfirst second
  refine ⟨fun h => ?_, fun h => ?_⟩
  · rw [ofText_eq_ok_iff, hstrip]
    exact document_merge hbreak hd he h
  · have hfailed := document_failed_of_headers hbreak hd he h
    rw [← hstrip] at hfailed
    exact ⟨_, ofText_of_failed (outcome_of_failed hfailed)⟩

/-- A text that is a line comment alone is read as an empty document. -/
theorem ofText_of_line {text : String} {after : List Char} (h : text.toList = '/' :: '/' :: after)
    (hafter : '\n' ∉ after) (options : BuildOptions) (source : Option String) :
    Document.ofText limit options text source = .ok ⟨[], []⟩ := by
  have hdrop : after.dropWhile (· != '\n') = [] :=
    List.dropWhile_eq_nil_iff.2 fun c hc => by simpa using fun heq : c = '\n' => hafter (heq ▸ hc)
  rw [ofText_eq_ok_iff, stripComments, String.toList_ofList, h,
    Comment.NextToken.line.strip_of_comment rfl, hdrop, Comment.strip_nil]
  exact document_eq_read_iff.2 ⟨[], .none (StartsIn.header (notAhead_nil _)),
    .none (StartsIn.definition options _ (notAhead_nil _))⟩

theorem ofText_append_sample :
    let text := Spelling.usual.text Canonical.sample
    let commented := text ++ "\n" ++ "// no more headers"
    let others := Spelling.usual.text ⟨[], Canonical.sample.definitions⟩
    Document.ofText 60 ⟨true, false⟩ commented none = .ok Canonical.sample ∧
      Document.ofText 60 ⟨true, false⟩ others none = .ok ⟨[], Canonical.sample.definitions⟩ ∧
      Document.ofText 60 ⟨true, false⟩ (commented ++ "\n" ++ others) none =
        .ok (Canonical.sample.merge ⟨[], Canonical.sample.definitions⟩) ∧
      ∃ rejection : Rejection, Document.ofText 60 ⟨true, false⟩ (commented ++ "\n" ++ text) none =
        .error (.source (.rejected rejection)) := by
  intro text commented others
  have htext : Document.ofText 60 ⟨true, false⟩ text none = .ok Canonical.sample :=
    Canonical.ofText_of_fits rfl rfl (by decide) Canonical.documentFits_sample none
  have hfits : Spelling.usual.DocumentFits 60 ⟨[], Canonical.sample.definitions⟩ :=
    ⟨List.forall_mem_nil _, Canonical.documentFits_sample.definitions⟩
  have hothers : Document.ofText 60 ⟨true, false⟩ others none =
      .ok ⟨[], Canonical.sample.definitions⟩ :=
    Canonical.ofText_of_fits rfl rfl (by decide) hfits none
  have hline : Document.ofText 60 ⟨true, false⟩ "// no more headers" none = .ok ⟨[], []⟩ :=
    ofText_of_line rfl (by decide) _ none
  have hcommented : Document.ofText 60 ⟨true, false⟩ commented none = .ok Canonical.sample :=
    (ofText_append _ text _ none none none Canonical.sample _ htext hline).1 (.inr rfl)
  have hmerged := (ofText_append _ commented others none none none _ _ hcommented hothers).1
  have hrejected := (ofText_append _ commented text none none none _ _ hcommented htext).2
  exact ⟨hcommented, hothers, hmerged (.inr rfl), hrejected (by simp [Canonical.sample])⟩

end ThriftSchema
