import Mathlib.Data.List.Chain
import Mathlib.Data.List.TakeWhile
import ThriftSchema.Proofs.Text.Plain

set_option autoImplicit false

/-! # Scanning what was kept

What a scan keeps scans back to itself. Where a comment is taken out, two pieces come together
that stood apart; they open no comment and close no quote that was not there before:

* a slash that opens nothing is never in front of a comment, so what follows it is still there;
* what is behind an unclosed `/*` has no `*/`, and taking comments out makes none;
* behind a quote without its like there is no such quote, and none comes up.

Only two runs of text can meet, and they become one.

* `NextToken`: the token at the head of a text, as a relation.
* `joinText`: runs of text that meet are joined.
* `scan_strip`: the tokens of the text without comments.
* `strip_keeps_tokens`: the result about whole texts.
-/

namespace ThriftSchema

open Comment (Token)

namespace Comment

/-! ## The token at the head -/

/-- A text starts with a token and goes on with a rest. -/
inductive NextToken : List Char → Token → List Char → Prop
  | text {c : Char} {cs : List Char} (hc : isOpener c = false) :
      NextToken (c :: cs) ⟨.text, c :: cs.takeWhile fun d => !isOpener d⟩
        (cs.dropWhile fun d => !isOpener d)
  | block {after content rest : List Char} (hclose : splitAtClose after = some (content, rest)) :
      NextToken ('/' :: '*' :: after) ⟨.block, '/' :: '*' :: (content ++ ['*', '/'])⟩ rest
  | line {after : List Char} :
      NextToken ('/' :: '/' :: after) ⟨.line, '/' :: '/' :: after.takeWhile (· != '\n')⟩
        (after.dropWhile (· != '\n'))
  | string {mark : Char} {content rest : List Char} (quote : IsQuote mark)
      (absent : mark ∉ content) :
      NextToken (mark :: (content ++ mark :: rest)) ⟨.string, mark :: (content ++ [mark])⟩ rest
  /-- A slash that opens no comment. -/
  | slash {cs : List Char} (hline : ∀ after, cs ≠ '/' :: after)
      (hblock : ∀ after, cs = '*' :: after → splitAtClose after = none) :
      NextToken ('/' :: cs) ⟨.stray, ['/']⟩ cs
  /-- A quote that has no partner. -/
  | quote {mark : Char} {cs : List Char} (quote : IsQuote mark) (absent : mark ∉ cs) :
      NextToken (mark :: cs) ⟨.stray, [mark]⟩ cs

theorem NextToken.next_eq {c : Char} {cs rest : List Char} {token : Token}
    (h : NextToken (c :: cs) token rest) : Token.next c cs = (token, rest) := by
  cases h with
  | text hc => exact next_of_not_opener hc cs
  | block hclose => simp only [Token.next, hclose]
  | line => simp only [Token.next]
  | string quote absent => exact next_of_quoted quote absent rest
  | slash hline hblock =>
      unfold Token.next
      split
      · rw [hblock _ rfl]
      · exact absurd rfl (hline _)
      · rfl
  | quote quote absent =>
      have hslash : c ≠ '/' := by
        rcases quote with rfl | rfl <;> decide
      have hmark : (c == '\x22' || c == '\x27') = true := by simpa [IsQuote] using quote
      have hall : cs.dropWhile (· != c) = [] :=
        List.dropWhile_eq_nil_iff.2 fun d hd => by simpa using fun heq : d = c => absent (heq ▸ hd)
      unfold Token.next
      split
      · exact absurd rfl hslash
      · exact absurd rfl hslash
      · rw [if_neg (by simpa using hslash), if_pos hmark, hall]

/-- Every text that is not empty starts with a token. -/
theorem exists_nextToken (c : Char) (cs : List Char) :
    ∃ token rest, NextToken (c :: cs) token rest := by
  by_cases hopener : isOpener c = false
  · exact ⟨_, _, .text hopener⟩
  · by_cases hslash : c = '/'
    · subst hslash
      by_cases hline : ∃ after, cs = '/' :: after
      · obtain ⟨after, rfl⟩ := hline
        exact ⟨_, _, .line⟩
      · by_cases hblock : ∃ after, cs = '*' :: after ∧ splitAtClose after ≠ none
        · obtain ⟨after, rfl, hclose⟩ := hblock
          obtain ⟨⟨content, rest⟩, hclose⟩ := Option.ne_none_iff_exists'.1 hclose
          exact ⟨_, _, .block hclose⟩
        · refine ⟨_, _, .slash (fun after h => hline ⟨after, h⟩) fun after h => ?_⟩
          by_contra hclose
          exact hblock ⟨after, h, hclose⟩
    · have hquote : IsQuote c := by
        simpa [isOpener, IsQuote, hslash, or_iff_not_imp_left] using hopener
      by_cases hmem : c ∈ cs
      · obtain ⟨content, rest, rfl, habsent⟩ := List.eq_append_cons_of_mem hmem
        exact ⟨_, _, .string hquote habsent⟩
      · exact ⟨_, _, .quote hquote hmem⟩

theorem nextToken (c : Char) (cs : List Char) :
    NextToken (c :: cs) (Token.next c cs).1 (Token.next c cs).2 := by
  obtain ⟨token, rest, h⟩ := exists_nextToken c cs
  rw [h.next_eq]
  exact h

theorem NextToken.scan_eq {cs rest : List Char} {token : Token} (h : NextToken cs token rest) :
    Token.scan cs = token :: Token.scan rest := by
  obtain ⟨c, cs, rfl⟩ : ∃ c ds, cs = c :: ds := by cases h <;> exact ⟨_, _, rfl⟩
  rw [Token.scan, h.next_eq]

theorem splitAtClose_eq_some {cs content rest : List Char}
    (h : splitAtClose cs = some (content, rest)) : cs = content ++ '*' :: '/' :: rest := by
  fun_induction splitAtClose cs generalizing content with
  | case1 after =>
      obtain ⟨rfl, rfl⟩ := Prod.mk.inj (Option.some.inj h)
      rfl
  | case2 c cs _ ih =>
      obtain ⟨⟨content', rest'⟩, hsplit, heq⟩ := Option.map_eq_some_iff.1 h
      obtain ⟨rfl, rfl⟩ := Prod.mk.inj heq
      rw [ih hsplit, List.cons_append]
  | case3 => cases h

/-- The characters of a token and of the rest are the text. -/
theorem NextToken.chars_append {cs rest : List Char} {token : Token}
    (h : NextToken cs token rest) : token.chars ++ rest = cs := by
  cases h with
  | text hc => rw [List.cons_append, List.takeWhile_append_dropWhile]
  | block hclose =>
      rw [splitAtClose_eq_some hclose]
      simp
  | line => simp only [List.cons_append, List.takeWhile_append_dropWhile]
  | string quote absent => simp
  | slash hline hblock => rfl
  | quote quote absent => rfl

/-! ## What is kept -/

/-- The tokens of a text that are no comments. -/
def kept (cs : List Char) : List Token :=
  (Token.scan cs).filter fun token => !token.kind.isComment

theorem strip_eq_flatMap (cs : List Char) : strip cs = (kept cs).flatMap Token.chars := by
  unfold strip kept
  induction Token.scan cs with
  | nil => rfl
  | cons token tokens ih =>
      rw [List.flatMap_cons, ih, List.filter_cons]
      cases token.kind.isComment <;> rfl

@[simp] theorem strip_nil : strip [] = [] := by
  rw [strip, Token.scan, List.flatMap_nil]

@[simp] theorem kept_nil : kept [] = [] := by
  rw [kept, Token.scan, List.filter_nil]

namespace NextToken

variable {cs rest : List Char} {token : Token}

theorem strip_of_comment (h : NextToken cs token rest) (hkind : token.kind.isComment = true) :
    strip cs = strip rest := by
  rw [strip, h.scan_eq, List.flatMap_cons, hkind, strip]
  rfl

theorem strip_of_kept (h : NextToken cs token rest) (hkind : token.kind.isComment = false) :
    strip cs = token.chars ++ strip rest := by
  rw [strip, h.scan_eq, List.flatMap_cons, hkind, strip]
  rfl

theorem kept_of_comment (h : NextToken cs token rest) (hkind : token.kind.isComment = true) :
    kept cs = kept rest := by
  rw [kept, h.scan_eq, List.filter_cons_of_neg (by simp [hkind]), kept]

theorem kept_of_kept (h : NextToken cs token rest) (hkind : token.kind.isComment = false) :
    kept cs = token :: kept rest := by
  rw [kept, h.scan_eq, List.filter_cons_of_pos (by simp [hkind]), kept]

end NextToken

/-- What holds of the empty text, and of a text when it holds of what is behind its first token,
holds of all texts. -/
theorem scan_induction {P : List Char → Prop} (nil : P [])
    (token : ∀ cs token rest, NextToken cs token rest → P rest → P cs) (cs : List Char) :
    P cs := by
  induction cs using Token.scan.induct with
  | case1 => exact nil
  | case2 c cs ih => exact token _ _ _ (nextToken c cs) ih

theorem mem_of_mem_strip {c : Char} {cs : List Char} (h : c ∈ strip cs) : c ∈ cs := by
  induction cs using scan_induction with
  | nil => simp at h
  | token cs token rest hnext ih =>
      rw [← hnext.chars_append]
      cases hkind : token.kind.isComment with
      | true =>
          rw [hnext.strip_of_comment hkind] at h
          exact List.mem_append_right _ (ih h)
      | false =>
          rw [hnext.strip_of_kept hkind] at h
          rcases List.mem_append.1 h with hchars | hrest
          · exact List.mem_append_left _ hchars
          · exact List.mem_append_right _ (ih hrest)

/-- Other text is kept character by character. -/
theorem strip_cons_of_not_opener {c : Char} (hc : isOpener c = false) (cs : List Char) :
    strip (c :: cs) = c :: strip cs := by
  have hrun : (cs.takeWhile fun d => !isOpener d) ++ strip (cs.dropWhile fun d => !isOpener d) =
      strip cs := by
    cases cs with
    | nil => rfl
    | cons d ds =>
        cases hd : isOpener d with
        | true => rw [List.takeWhile_cons_of_neg (by simp [hd]),
            List.dropWhile_cons_of_neg (by simp [hd]), List.nil_append]
        | false =>
            rw [List.takeWhile_cons_of_pos (by simp [hd]),
              List.dropWhile_cons_of_pos (by simp [hd])]
            exact ((NextToken.text hd).strip_of_kept rfl).symm
  rw [(NextToken.text hc).strip_of_kept rfl, List.cons_append, hrun]

/-- A character that is no slash is kept where a token starts with it. -/
theorem exists_strip_cons {c : Char} (hc : c ≠ '/') (cs : List Char) :
    ∃ ds, strip (c :: cs) = c :: ds := by
  obtain ⟨token, rest, hnext⟩ := exists_nextToken c cs
  cases hnext with
  | text hc => exact ⟨_, strip_cons_of_not_opener hc cs⟩
  | block | line | slash => exact absurd rfl hc
  | string quote absent => exact ⟨_, (NextToken.string quote absent).strip_of_kept rfl⟩
  | quote quote absent => exact ⟨_, (NextToken.quote quote absent).strip_of_kept rfl⟩

/-- A text without comments starts with a slash only where the text does. -/
theorem exists_eq_cons_slash {cs ds : List Char} (h : strip cs = '/' :: ds) :
    ∃ es, cs = '/' :: es := by
  cases cs with
  | nil => simp at h
  | cons c cs =>
      by_cases hc : c = '/'
      · exact ⟨cs, by rw [hc]⟩
      · obtain ⟨es, hes⟩ := exists_strip_cons hc cs
        rw [hes] at h
        exact absurd (List.cons.inj h).1 hc

/-! ## Closing marks -/

/-- Nowhere does a star stand in front of a slash. -/
def Unclosed (cs : List Char) : Prop := cs.IsChain fun c d => ¬(c = '*' ∧ d = '/')

theorem splitAtClose_eq_none_iff {cs : List Char} : splitAtClose cs = none ↔ Unclosed cs := by
  unfold Unclosed
  fun_induction splitAtClose cs with
  | case1 after => simp
  | case2 c cs hclose ih =>
      rw [Option.map_eq_none_iff, ih]
      cases cs with
      | nil => simp
      | cons d ds =>
          have hpair : ¬(c = '*' ∧ d = '/') := by
            rintro ⟨rfl, rfl⟩
            exact hclose _ rfl rfl
          rw [List.isChain_cons_cons]
          exact (and_iff_right hpair).symm
  | case3 => simp

/-- Taking comments out makes no closing mark: a comment starts with a slash, so that a star in
front of it would close already. -/
theorem Unclosed.strip {cs : List Char} (h : Unclosed cs) : Unclosed (strip cs) := by
  unfold Unclosed at h ⊢
  induction cs using scan_induction with
  | nil => simp
  | token cs token rest hnext ih =>
      rw [← hnext.chars_append, List.isChain_append] at h
      obtain ⟨hchars, hrest, hmeet⟩ := h
      cases hkind : token.kind.isComment with
      | true =>
          rw [hnext.strip_of_comment hkind]
          exact ih hrest
      | false =>
          rw [hnext.strip_of_kept hkind, List.isChain_append]
          refine ⟨hchars, ih hrest, ?_⟩
          rintro c hc d hd ⟨rfl, rfl⟩
          obtain ⟨ds, hds⟩ := List.head?_eq_some_iff.1 hd
          obtain ⟨es, rfl⟩ := exists_eq_cons_slash hds
          exact hmeet '*' hc '/' rfl ⟨rfl, rfl⟩

/-! ## Scanning again -/

/-- A token in front of tokens; where two runs of text meet they become one. -/
def Token.joinTo (token : Token) : List Token → List Token
  | [] => [token]
  | next :: rest =>
    if token.kind = .text ∧ next.kind = .text then ⟨.text, token.chars ++ next.chars⟩ :: rest
    else token :: next :: rest

/-- The tokens with adjacent runs of text joined. -/
def joinText (tokens : List Token) : List Token := tokens.foldr Token.joinTo []

@[simp] theorem joinText_cons (token : Token) (tokens : List Token) :
    joinText (token :: tokens) = token.joinTo (joinText tokens) := rfl

theorem Token.joinTo_of_ne {token : Token} (h : token.kind ≠ .text) (tokens : List Token) :
    token.joinTo tokens = token :: tokens := by
  cases tokens with
  | nil => rfl
  | cons next rest => exact if_neg fun hboth => h hboth.1

theorem chars_joinTo (token : Token) (tokens : List Token) :
    (token.joinTo tokens).flatMap Token.chars = token.chars ++ tokens.flatMap Token.chars := by
  cases tokens with
  | nil => rfl
  | cons next rest =>
      rw [Token.joinTo]
      split
      · simp only [List.flatMap_cons, List.append_assoc]
      · rfl

theorem chars_joinText (tokens : List Token) :
    (joinText tokens).flatMap Token.chars = tokens.flatMap Token.chars := by
  induction tokens with
  | nil => rfl
  | cons token tokens ih => rw [joinText_cons, chars_joinTo, ih, List.flatMap_cons]

/-- Joining changes runs of text only. -/
theorem filter_joinTo {p : Token → Bool} (hp : ∀ token, token.kind = .text → p token = false)
    (token : Token) (tokens : List Token) :
    (token.joinTo tokens).filter p = (token :: tokens).filter p := by
  cases tokens with
  | nil => rfl
  | cons next rest =>
      rw [Token.joinTo]
      split
      · next hboth =>
        have htext : p ⟨.text, token.chars ++ next.chars⟩ = false := hp _ rfl
        simp [htext, hp token hboth.1, hp next hboth.2]
      · rfl

theorem filter_joinText {p : Token → Bool} (hp : ∀ token, token.kind = .text → p token = false)
    (tokens : List Token) : (joinText tokens).filter p = tokens.filter p := by
  induction tokens with
  | nil => rfl
  | cons token tokens ih =>
      rw [joinText_cons, filter_joinTo hp, List.filter_cons, List.filter_cons, ih]

/-- Where something is opened no run of text goes on. -/
theorem joinTo_scan_of_opener {c : Char} (hc : isOpener c = true) (token : Token)
    (cs : List Char) : token.joinTo (Token.scan (c :: cs)) = token :: Token.scan (c :: cs) := by
  obtain ⟨next, rest, hnext⟩ := exists_nextToken c cs
  have hkind : next.kind ≠ .text := by
    cases hnext with
    | text hnone =>
        rw [hc] at hnone
        cases hnone
    | block | line | string | slash | quote => rintro ⟨⟩
  rw [hnext.scan_eq]
  exact if_neg fun hboth => hkind hboth.2

/-- A run of text in front of a text is a token of its own or becomes longer. -/
theorem scan_run_append {c : Char} {run : List Char} (hc : isOpener c = false)
    (hrun : ∀ d ∈ run, isOpener d = false) (ds : List Char) :
    Token.scan (c :: run ++ ds) = Token.joinTo ⟨.text, c :: run⟩ (Token.scan ds) := by
  have hnext : NextToken (c :: (run ++ ds)) _ _ := .text hc
  have hall : ∀ d ∈ run, (!isOpener d) = true := fun d hd => by simp [hrun d hd]
  rw [List.takeWhile_append_of_pos hall, List.dropWhile_append_of_pos hall] at hnext
  rw [List.cons_append, hnext.scan_eq]
  cases ds with
  | nil =>
      rw [List.takeWhile_nil, List.dropWhile_nil, Token.scan, List.append_nil]
      rfl
  | cons d ds =>
      cases hd : isOpener d with
      | true =>
          rw [List.takeWhile_cons_of_neg (by simp [hd]), List.dropWhile_cons_of_neg (by simp [hd]),
            List.append_nil, joinTo_scan_of_opener hd]
      | false =>
          rw [(NextToken.text hd).scan_eq, List.takeWhile_cons_of_pos (by simp [hd]),
            List.dropWhile_cons_of_pos (by simp [hd])]
          rfl

/-- A slash that opens no comment opens none in front of what is kept: the character behind it is
kept, and if that is a star, the rest stays unclosed. -/
theorem NextToken.slash_strip {cs : List Char} (hline : ∀ after, cs ≠ '/' :: after)
    (hblock : ∀ after, cs = '*' :: after → splitAtClose after = none) :
    NextToken ('/' :: strip cs) ⟨.stray, ['/']⟩ (strip cs) := by
  refine .slash (fun after hafter => ?_) fun after hafter => ?_
  · obtain ⟨es, hes⟩ := exists_eq_cons_slash hafter
    exact hline es hes
  · cases cs with
    | nil => simp at hafter
    | cons d ds =>
        have hd : d ≠ '/' := fun heq => hline ds (by rw [heq])
        obtain ⟨es, hes⟩ := exists_strip_cons hd ds
        obtain rfl : d = '*' := (List.cons.inj (hes.symm.trans hafter)).1
        rw [strip_cons_of_not_opener (by decide)] at hafter
        obtain rfl := (List.cons.inj hafter).2
        have hopen := splitAtClose_eq_none_iff.1 (hblock ds rfl)
        exact splitAtClose_eq_none_iff.2 hopen.strip

/-- **What a scan keeps scans back to itself**, with the runs of text joined that have met. -/
theorem scan_strip (cs : List Char) : Token.scan (strip cs) = joinText (kept cs) := by
  induction cs using scan_induction with
  | nil =>
      rw [strip_nil, kept_nil, Token.scan]
      rfl
  | token cs token rest hnext ih =>
      cases hkind : token.kind.isComment with
      | true => rw [hnext.strip_of_comment hkind, hnext.kept_of_comment hkind, ih]
      | false =>
          rw [hnext.strip_of_kept hkind, hnext.kept_of_kept hkind, joinText_cons, ← ih]
          cases hnext with
          | @text c cs hc =>
              refine scan_run_append hc (fun d hd => ?_) _
              simpa using List.mem_takeWhile_imp hd
          | block | line => cases hkind
          | string quote absent =>
              rw [Token.joinTo_of_ne (by simp), ← (NextToken.string quote absent).scan_eq]
              simp
          | slash hline hblock =>
              rw [Token.joinTo_of_ne (by simp)]
              exact (NextToken.slash_strip hline hblock).scan_eq
          | quote quote absent =>
              rw [Token.joinTo_of_ne (by simp)]
              exact NextToken.scan_eq (.quote quote fun hmem => absent (mem_of_mem_strip hmem))

theorem isComment_of_mem_scan_strip {cs : List Char} {token : Token}
    (h : token ∈ Token.scan (strip cs)) : token.kind.isComment = false := by
  have hnone : (Token.scan (strip cs)).filter (fun token => token.kind.isComment) = [] := by
    rw [scan_strip, filter_joinText (fun token htext => by rw [htext]; rfl), kept,
      List.filter_filter]
    exact List.filter_eq_nil_iff.2 fun token _ => by cases token.kind.isComment <;> decide
  have hnot := List.filter_eq_nil_iff.1 hnone token h
  exact Bool.eq_false_iff.2 hnot

theorem strip_strip (cs : List Char) : strip (strip cs) = strip cs := by
  have hkept : kept (strip cs) = joinText (kept cs) := by
    rw [kept, ← scan_strip]
    refine List.filter_eq_self.2 fun token htoken => ?_
    rw [isComment_of_mem_scan_strip htoken]
    rfl
  calc strip (strip cs) = (kept (strip cs)).flatMap Token.chars := strip_eq_flatMap _
    _ = (joinText (kept cs)).flatMap Token.chars := by rw [hkept]
    _ = (kept cs).flatMap Token.chars := chars_joinText _
    _ = strip cs := (strip_eq_flatMap _).symm

end Comment

/-- **Taking comments out leaves tokens whole.** The text without comments scans into the tokens
that were no comments, in order and with adjacent runs of text joined; none of them is a comment,
and taking comments out again changes nothing. -/
theorem strip_keeps_tokens (text : String) :
    (∀ token ∈ Token.scan (stripComments text).toList, token.kind.isComment = false) ∧
      Token.scan (stripComments text).toList =
        Comment.joinText ((Token.scan text.toList).filter fun token => !token.kind.isComment) ∧
      stripComments (stripComments text) = stripComments text := by
  have htext : (stripComments text).toList = Comment.strip text.toList := by
    rw [stripComments, String.toList_ofList]
  refine ⟨fun token htoken => ?_, ?_, ?_⟩
  · rw [htext] at htoken
    exact Comment.isComment_of_mem_scan_strip htoken
  · rw [htext]
    exact Comment.scan_strip text.toList
  · rw [stripComments, htext, Comment.strip_strip]
    rfl

end ThriftSchema
