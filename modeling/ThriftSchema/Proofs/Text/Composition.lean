import ThriftSchema.Proofs.Text.Append

set_option autoImplicit false

/-! # Comments of a text that is cut

A text can be cut where all that is opened in front of the cut is closed there: then comments are
taken out of the two parts one by one. So what is put in at a cut is stripped on its own, and a
block comment that is put in leaves nothing, whatever it holds, unless a line comment reaches up to
the cut: then the block comment is a part of the line, and only what it holds on that line is
taken out with it.

* `Comment.ClosedAt`: a text that can be cut.
* `Comment.splitAtClose_append_of_unclosed`: a block comment ends at its own closing mark.
* `stripComments_composes`: the law of cuts, and of comments put in at a cut.
-/

namespace ThriftSchema

open Comment (Token)

namespace Comment

/-! ## Cuts -/

/-- No slash and no quote in front of the cut opens nothing, and a line comment that reaches up to
the cut ends there. -/
structure ClosedAt (front rest : List Char) : Prop where
  stray : ∀ token ∈ Token.scan front, token.kind ≠ .stray
  line : EndsOpen front → NotAhead (· != '\n') rest

theorem ClosedAt.strip_append {front rest : List Char} (h : ClosedAt front rest) :
    strip (front ++ rest) = strip front ++ strip rest :=
  Comment.strip_append h.stray h.line

/-! ## Block comments -/

/-- A text has a closing mark in it, or a star stands nowhere in front of a slash. -/
theorem unclosed_iff {content : List Char} : Unclosed content ↔ ¬['*', '/'] <:+: content := by
  unfold Unclosed
  induction content with
  | nil => simp
  | cons c content ih =>
      rw [List.infix_cons_iff, not_or]
      cases content with
      | nil => simp
      | cons d content =>
          rw [List.isChain_cons_cons, ih]
          refine and_congr_left fun _ => not_congr ?_
          simp [List.cons_prefix_cons, eq_comm]

/-- A closing mark behind a text without one is the first. A star at the end of the text makes none
with the star of the mark. -/
theorem splitAtClose_append_of_unclosed {content : List Char} (h : Unclosed content)
    (rest : List Char) : splitAtClose (content ++ '*' :: '/' :: rest) = some (content, rest) := by
  unfold Unclosed at h
  induction content with
  | nil => rfl
  | cons c content ih =>
      rw [List.cons_append, splitAtClose, ih h.of_cons]
      · rfl
      · rintro after rfl heq
        cases content with
        | nil => cases heq
        | cons d content =>
            obtain ⟨rfl, -⟩ := List.cons.inj heq
            exact (List.isChain_cons_cons.1 h).1 ⟨rfl, rfl⟩

/-- A block comment that holds some content. -/
def block (content : List Char) : List Char := '/' :: '*' :: (content ++ ['*', '/'])

theorem nextToken_block {content : List Char} (h : Unclosed content) (rest : List Char) :
    NextToken (block content ++ rest) ⟨.block, block content⟩ rest := by
  have hsplit : block content ++ rest = '/' :: '*' :: (content ++ '*' :: '/' :: rest) := by
    simp [block]
  rw [hsplit]
  exact .block (splitAtClose_append_of_unclosed h rest)

/-- A block comment in front of a text leaves the text. -/
theorem strip_block_append {content : List Char} (h : Unclosed content) (rest : List Char) :
    strip (block content ++ rest) = strip rest :=
  (nextToken_block h rest).strip_of_comment rfl

/-! ## Line comments -/

/-- A run that ends within the first of two texts. -/
theorem takeWhile_append_of_dropWhile_ne {p : Char → Bool} {cs : List Char}
    (h : cs.dropWhile p ≠ []) (ds : List Char) : (cs ++ ds).takeWhile p = cs.takeWhile p := by
  rw [List.takeWhile_append, if_neg]
  intro hlength
  have hall : cs.takeWhile p = cs :=
    (List.takeWhile_sublist p).eq_of_length hlength
  have hsplit := List.takeWhile_append_dropWhile (p := p) (l := cs)
  rw [hall] at hsplit
  exact h (List.append_right_eq_self.1 hsplit)

/-- A token that is followed by others is the same where more is appended. -/
theorem NextToken.append_right {cs rest : List Char} {token : Token}
    (h : NextToken cs token rest) (hrest : rest ≠ []) (hkind : token.kind ≠ .stray)
    (ds : List Char) : NextToken (cs ++ ds) token (rest ++ ds) := by
  cases h with
  | @text c cs hc =>
      have hnext : NextToken (c :: (cs ++ ds)) _ _ := .text hc
      rwa [takeWhile_append_of_dropWhile_ne hrest,
        dropWhile_append_of fun hnil => absurd hnil hrest] at hnext
  | block hclose => exact .block (splitAtClose_append_right hclose ds)
  | @line after =>
      have hnext : NextToken ('/' :: '/' :: (after ++ ds)) _ _ := .line
      rwa [takeWhile_append_of_dropWhile_ne hrest,
        dropWhile_append_of fun hnil => absurd hnil hrest] at hnext
  | @string mark content rest quote absent =>
      have hsplit : mark :: (content ++ mark :: rest) ++ ds =
          mark :: (content ++ mark :: (rest ++ ds)) := by simp
      rw [hsplit]
      exact .string quote absent
  | slash | quote => exact absurd rfl hkind

/-- A line comment at the end of a text goes on over what holds no newline. -/
theorem strip_append_of_endsOpen {front more rest : List Char}
    (hstray : ∀ token ∈ Token.scan front, token.kind ≠ .stray) (hopen : EndsOpen front)
    (hmore : '\n' ∉ more) (hrest : NotAhead (· != '\n') rest) :
    strip (front ++ (more ++ rest)) = strip front ++ strip rest := by
  induction front using scan_induction with
  | nil =>
      obtain ⟨token, htoken, -⟩ := hopen
      simp [Token.scan] at htoken
  | token cs token behind hnext ih =>
      obtain ⟨last, hlast, hline⟩ := hopen
      rw [hnext.scan_eq] at hstray hlast
      have hkind : token.kind ≠ .stray := hstray token (List.mem_cons_self ..)
      by_cases hbehind : behind = []
      · -- the line comment is all there is
        subst hbehind
        obtain rfl : token = last := by simpa [Token.scan] using hlast
        generalize hnil : ([] : List Char) = tail at hnext
        cases hnext with
        | @line after =>
            have hall : ∀ c ∈ after ++ more, (c != '\n') = true := by
              intro c hc
              rcases List.mem_append.1 hc with hc | hc
              · exact List.dropWhile_eq_nil_iff.1 hnil.symm c hc
              · simpa using fun heq : c = '\n' => hmore (heq ▸ hc)
            have hwhole : NextToken ('/' :: '/' :: (after ++ more ++ rest)) _ _ := .line
            rw [dropWhile_append_of_notAhead hall hrest] at hwhole
            have hfront : NextToken ('/' :: '/' :: after) _ _ := .line
            rw [hfront.strip_of_comment rfl, ← hnil, strip_nil, List.nil_append,
              ← hwhole.strip_of_comment rfl]
            simp
        | text | block | string | slash | quote => cases hline
      · have hlater : EndsOpen behind := by
          refine ⟨last, ?_, hline⟩
          obtain ⟨c, more, rfl⟩ := List.exists_cons_of_ne_nil hbehind
          rw [Token.scan] at hlast ⊢
          rwa [List.getLast?_cons_cons] at hlast
        have hstrip := ih (fun other hother => hstray other (List.mem_cons_of_mem _ hother)) hlater
        have hwhole := hnext.append_right hbehind hkind (more ++ rest)
        cases hcomment : token.kind.isComment with
        | true => rw [hwhole.strip_of_comment hcomment, hnext.strip_of_comment hcomment, hstrip]
        | false =>
            rw [hwhole.strip_of_kept hcomment, hnext.strip_of_kept hcomment, hstrip,
              List.append_assoc]

end Comment

/-! ## Whole texts -/

/-- A text can be cut here. -/
def CanCut (front rest : String) : Prop := Comment.ClosedAt front.toList rest.toList

/-- **Comments are taken out of the parts of a text one by one**, where the text can be cut. So a
block comment that is put in there leaves nothing; behind a line comment it must hold no newline,
since it is a part of the line. -/
theorem stripComments_composes :
    (∀ front rest : String, CanCut front rest →
      stripComments (front ++ rest) = stripComments front ++ stripComments rest) ∧
    ∀ front content rest : String, CanCut front rest → ¬"*/".toList <:+: content.toList →
      (Comment.EndsOpen front.toList → '\n' ∉ content.toList) →
      stripComments (front ++ ("/*" ++ content ++ "*/") ++ rest) =
        stripComments (front ++ rest) := by
  refine ⟨fun front rest hcut => ?_, fun front content rest hcut hclose hline => ?_⟩
  · simp only [stripComments, String.toList_append, hcut.strip_append, String.ofList_append]
  · have hinside : Comment.Unclosed content.toList := Comment.unclosed_iff.2 hclose
    have hblock : ("/*" ++ content ++ "*/").toList = Comment.block content.toList := by
      simp [Comment.block]
    have hwhole : (front ++ ("/*" ++ content ++ "*/") ++ rest).toList =
        front.toList ++ (Comment.block content.toList ++ rest.toList) := by
      rw [String.toList_append, String.toList_append, hblock, List.append_assoc]
    rw [stripComments, stripComments, hwhole, String.toList_append, hcut.strip_append]
    by_cases hopen : Comment.EndsOpen front.toList
    · have hmore : '\n' ∉ Comment.block content.toList := by
        simp [Comment.block, hline hopen]
      rw [Comment.strip_append_of_endsOpen hcut.stray hopen hmore (hcut.line hopen)]
    · rw [Comment.strip_append hcut.stray fun h => absurd h hopen,
        Comment.strip_block_append hinside]

/-! ## Behind a line comment -/

theorem scan_lineComment {cs : List Char} (h : '\n' ∉ cs) :
    Token.scan ('/' :: '/' :: cs) = [⟨.line, '/' :: '/' :: cs⟩] := by
  have hall : ∀ c ∈ cs, (c != '\n') = true := by
    intro c hc
    simpa using fun heq : c = '\n' => h (heq ▸ hc)
  have hnext : Comment.NextToken ('/' :: '/' :: cs) _ _ := .line
  rw [List.takeWhile_eq_self_iff.2 hall, List.dropWhile_eq_nil_iff.2 hall] at hnext
  rw [hnext.scan_eq, Token.scan]

theorem canCut_lineComment : CanCut "//x" "" where
  stray := by
    have hscan : Token.scan "//x".toList = [⟨.line, "//x".toList⟩] :=
      scan_lineComment (show '\n' ∉ ['x'] by decide)
    rw [hscan]
    decide
  line := fun _ => notAhead_nil _

/-- A block comment without a newline is a part of the line. -/
theorem stripComments_composes_sample :
    CanCut "//x" "" ∧
      stripComments ("//x" ++ ("/*" ++ "'\"/" ++ "*/") ++ "") = stripComments "//x" :=
  ⟨canCut_lineComment,
    (stripComments_composes.2 "//x" "'\"/" "" canCut_lineComment (by decide) fun _ => by decide)⟩

/-- But one with a newline is cut in two: what it holds behind the newline stays. -/
theorem not_stripComments_composes :
    ¬∀ front content rest : String, CanCut front rest → ¬"*/".toList <:+: content.toList →
      stripComments (front ++ ("/*" ++ content ++ "*/") ++ rest) =
        stripComments (front ++ rest) := by
  intro h
  have hsame := h "//x" "\n" "" canCut_lineComment (by decide)
  have hline : Comment.NextToken "//x".toList ⟨.line, "//x".toList⟩ [] :=
    @Comment.NextToken.line ['x']
  have hcut : Comment.NextToken "//x/*\n*/".toList ⟨.line, "//x/*".toList⟩ "\n*/".toList :=
    @Comment.NextToken.line "x/*\n*/".toList
  have hleft : Comment.strip "//x/*\n*/".toList = '\n' :: Comment.strip "*/".toList :=
    (hcut.strip_of_comment rfl).trans (Comment.strip_cons_of_not_opener (by decide) _)
  have hright : Comment.strip "//x".toList = [] :=
    (hline.strip_of_comment rfl).trans Comment.strip_nil
  have hlists : Comment.strip "//x/*\n*/".toList = Comment.strip "//x".toList :=
    String.ofList_injective hsame
  rw [hleft, hright] at hlists
  cases hlists

end ThriftSchema
