import ThriftSchema.Proofs.Text.Scan

set_option autoImplicit false

/-! # Layout in a text without comments

A text without comments stays one when layout is put into it, wherever that is: layout opens
nothing and closes nothing, and it only keeps apart what stood together. Whether a place lies inside
a string is told by the tokens that are scanned in front of it.

* `Comment.strip_insert`: no comment comes up where layout is put in.
* `OutsideStrings`: a place of a text that lies in none of its strings.
* `scan_append_of_opener`: what is scanned in front of a character that opens something.
-/

namespace ThriftSchema

open Comment (Token)
open Pattern (isLayout)

theorem not_isOpener_of_isLayout {c : Char} (h : isLayout c = true) :
    Comment.isOpener c = false := not_isOpener_of h (by decide)

namespace Comment

/-! ## Texts without comments -/

theorem length_strip_le (cs : List Char) : (strip cs).length ≤ cs.length := by
  induction cs using scan_induction with
  | nil => simp
  | token cs token rest hnext ih =>
      have hlength := congrArg List.length hnext.chars_append
      rw [List.length_append] at hlength
      cases hkind : token.kind.isComment with
      | true =>
          rw [hnext.strip_of_comment hkind]
          omega
      | false =>
          rw [hnext.strip_of_kept hkind, List.length_append]
          omega

/-- A text that begins with a comment is not left alone. -/
theorem NextToken.isComment_of_strip {c : Char} {cs rest : List Char} {token : Token}
    (hnext : NextToken (c :: cs) token rest) (h : strip (c :: cs) = c :: cs) :
    token.kind.isComment = false := by
  cases hkind : token.kind.isComment with
  | false => rfl
  | true =>
      have hshort := length_strip_le rest
      have hlength := congrArg List.length hnext.chars_append
      have hpos : 0 < token.chars.length := by
        cases hnext <;> simp
      rw [hnext.strip_of_comment hkind] at h
      rw [h] at hshort
      rw [List.length_append] at hlength
      omega

/-- What follows the first token of a text without comments has none. -/
theorem NextToken.strip_rest {c : Char} {cs rest : List Char} {token : Token}
    (hnext : NextToken (c :: cs) token rest) (h : strip (c :: cs) = c :: cs) :
    strip rest = rest := by
  have hkept := hnext.strip_of_kept (hnext.isComment_of_strip h)
  rw [h] at hkept
  exact (List.append_cancel_left (hnext.chars_append.trans hkept)).symm

/-- A run of other text is kept. -/
theorem strip_run_append {run : List Char} (h : ∀ c ∈ run, isOpener c = false)
    (cs : List Char) : strip (run ++ cs) = run ++ strip cs := by
  induction run with
  | nil => rfl
  | cons c run ih =>
      rw [List.cons_append, strip_cons_of_not_opener (h c (List.mem_cons_self ..)),
        ih fun d hd => h d (List.mem_cons_of_mem _ hd), List.cons_append]

/-- A string stays in front of a text without comments. -/
theorem strip_string {mark : Char} {content cs : List Char} (quote : IsQuote mark)
    (absent : mark ∉ content) (h : strip cs = cs) :
    strip (mark :: (content ++ mark :: cs)) = mark :: (content ++ mark :: cs) := by
  rw [(NextToken.string quote absent).strip_of_kept rfl, h]
  simp

/-! ## Putting layout in -/

/-- A character that is part of a text stands in front of a cut or behind it. -/
theorem append_eq_append_cons {a b front rest : List Char} {c : Char}
    (h : a ++ b = front ++ c :: rest) :
    (∃ more, a = front ++ c :: more ∧ rest = more ++ b) ∨
      ∃ others, front = a ++ others ∧ b = others ++ c :: rest := by
  rcases List.append_eq_append_iff.1 h with ⟨others, rfl, rfl⟩ | ⟨more, rfl, hmore⟩
  · exact .inr ⟨others, rfl, rfl⟩
  · cases more with
    | nil => exact .inr ⟨[], by simp, by simpa using hmore.symm⟩
    | cons d more =>
        obtain ⟨rfl, rfl⟩ := List.cons.inj hmore
        exact .inl ⟨more, rfl, rfl⟩

section Insert

variable {a b w : List Char} (hw : ∀ c ∈ w, isLayout c = true)

include hw

theorem not_mem_insert {mark : Char} (quote : IsQuote mark) (absent : mark ∉ a ++ b) :
    mark ∉ a ++ (w ++ b) := by
  simp only [List.mem_append, not_or] at absent ⊢
  refine ⟨absent.1, fun hmem => ?_, absent.2⟩
  have hopener := not_isOpener_of_isLayout (hw mark hmem)
  rw [Plain.isOpener_of_isQuote quote] at hopener
  cases hopener

theorem Unclosed.layout_append (h : Unclosed b) : Unclosed (w ++ b) := by
  induction w with
  | nil => exact h
  | cons c w ih =>
      have hc : c ≠ '*' := by
        rintro rfl
        exact absurd (hw '*' (List.mem_cons_self ..)) (by decide)
      refine List.isChain_cons.2 ⟨fun d _ hpair => hc hpair.1, ?_⟩
      exact ih fun d hd => hw d (List.mem_cons_of_mem _ hd)

theorem Unclosed.insert (h : Unclosed (a ++ b)) : Unclosed (a ++ (w ++ b)) := by
  obtain ⟨hfront, hback, hmeet⟩ := List.isChain_append.1 h
  refine List.isChain_append.2 ⟨hfront, Unclosed.layout_append hw hback, ?_⟩
  cases w with
  | nil => exact hmeet
  | cons c w =>
      rintro d _ e he ⟨-, rfl⟩
      obtain rfl : c = '/' := by simpa using he
      exact absurd (hw '/' (List.mem_cons_self ..)) (by decide)

/-- A slash that opens no comment opens none where layout is put in. -/
theorem NextToken.slash_insert (hline : ∀ after, a ++ b ≠ '/' :: after)
    (hblock : ∀ after, a ++ b = '*' :: after → splitAtClose after = none) :
    NextToken ('/' :: (a ++ (w ++ b))) ⟨.stray, ['/']⟩ (a ++ (w ++ b)) := by
  cases a with
  | nil =>
      cases w with
      | nil => exact .slash hline hblock
      | cons c w =>
          have hc : c ≠ '/' ∧ c ≠ '*' := by
            constructor <;>
              (rintro rfl; exact absurd (hw _ (List.mem_cons_self ..)) (by decide))
          exact .slash (fun after h => hc.1 (List.cons.inj h).1)
            fun after h => absurd (List.cons.inj h).1 hc.2
  | cons c a =>
      refine .slash (fun after h => hline (a ++ b) ?_) fun after h => ?_
      · rw [List.cons_append, (List.cons.inj h).1]
      · obtain ⟨rfl, rfl⟩ := List.cons.inj h
        have hopen := splitAtClose_eq_none_iff.1 (hblock (a ++ b) rfl)
        exact splitAtClose_eq_none_iff.2 (Unclosed.insert hw hopen)

/-- A text without comments has none either when layout is put in. -/
theorem strip_insert (h : strip (a ++ b) = a ++ b) : strip (a ++ (w ++ b)) = a ++ (w ++ b) := by
  induction hn : a.length using Nat.strong_induction_on generalizing a with
  | _ n ih =>
    cases a with
    | nil =>
        have hblanks : ∀ c ∈ w, isOpener c = false :=
          fun c hc => not_isOpener_of_isLayout (hw c hc)
        rw [List.nil_append, strip_run_append hblanks]
        exact congrArg (w ++ ·) h
    | cons c a =>
        rw [List.length_cons] at hn
        rw [List.cons_append] at h ⊢
        obtain ⟨token, rest, hnext⟩ := exists_nextToken c (a ++ b)
        have hrest := hnext.strip_rest h
        have hkind := hnext.isComment_of_strip h
        generalize hcs : c :: (a ++ b) = cs at hnext
        cases hnext with
        | text hc =>
            obtain ⟨rfl, rfl⟩ := List.cons.inj hcs
            rw [strip_cons_of_not_opener hc] at h ⊢
            rw [ih a.length (by omega) (List.cons.inj h).2 rfl]
        | block | line => cases hkind
        | slash hline hblock =>
            obtain ⟨rfl, rfl⟩ := List.cons.inj hcs
            rw [(NextToken.slash_insert hw hline hblock).strip_of_kept rfl,
              ih a.length (by omega) hrest rfl]
            rfl
        | quote quote absent =>
            obtain ⟨rfl, rfl⟩ := List.cons.inj hcs
            have hnone := not_mem_insert hw quote absent
            rw [(NextToken.quote quote hnone).strip_of_kept rfl, ih a.length (by omega) hrest rfl]
            rfl
        | string quote absent =>
            obtain ⟨rfl, heq⟩ := List.cons.inj hcs
            rcases append_eq_append_cons heq with ⟨more, rfl, rfl⟩ | ⟨others, rfl, rfl⟩
            · rw [List.length_append, List.length_cons] at hn
              have hkept := strip_string quote absent (ih more.length (by omega) hrest rfl)
              simpa using hkept
            · -- the string goes on over the place, and becomes longer
              have hkept := strip_string quote (not_mem_insert hw quote absent) hrest
              simpa using hkept

end Insert

end Comment

/-! ## Places outside of strings -/

/-- A place of a text that lies in none of its strings: every string that is scanned ends in front
of it or begins behind it. -/
def OutsideStrings (text : List Char) (place : Nat) : Prop :=
  ∀ before token after, Token.scan text = before ++ token :: after → token.kind = .string →
    place ≤ (before.flatMap Token.chars).length ∨
      ((before ++ [token]).flatMap Token.chars).length ≤ place

/-- In a text in which nothing is opened there are no strings. -/
theorem outsideStrings_of_unopened {text : List Char}
    (h : ∀ c ∈ text, Comment.isOpener c = false) (place : Nat) : OutsideStrings text place := by
  intro before token after hscan hkind
  have htext : ∀ token ∈ Token.scan text, token.kind = .text := by
    cases text with
    | nil =>
        rw [Token.scan]
        exact List.forall_mem_nil _
    | cons c cs =>
        have hrun := Comment.scan_run_append (h c (List.mem_cons_self ..))
          (fun d hd => h d (List.mem_cons_of_mem _ hd)) []
        rw [List.append_nil, Token.scan] at hrun
        rw [hrun]
        simp [Comment.Token.joinTo]
  have hnone := htext token (by simp [hscan])
  rw [hkind] at hnone
  cases hnone

/-- A plain text in front of a character that opens something is scanned by itself. -/
theorem scan_append_of_opener {taken : List Char} (h : Plain taken) {c : Char} {cs : List Char}
    (hc : Comment.isOpener c = true) :
    ∃ before, before.flatMap Token.chars = taken ∧
      Token.scan (taken ++ c :: cs) = before ++ Token.scan (c :: cs) := by
  induction h with
  | nil => exact ⟨[], rfl, rfl⟩
  | @cons d taken hd _ ih =>
      obtain ⟨before, rfl, hscan⟩ := ih
      have hjoin : Token.scan (d :: (before.flatMap Token.chars ++ c :: cs)) =
          Comment.Token.joinTo ⟨.text, [d]⟩ (before ++ Token.scan (c :: cs)) := by
        rw [← hscan]
        exact Comment.scan_run_append hd (List.forall_mem_nil _) _
      rw [List.cons_append, hjoin]
      cases before with
      | nil =>
          refine ⟨[⟨.text, [d]⟩], rfl, ?_⟩
          rw [List.nil_append, Comment.joinTo_scan_of_opener hc]
          rfl
      | cons first before =>
          rw [List.cons_append, Comment.Token.joinTo]
          split
          · exact ⟨⟨.text, d :: first.chars⟩ :: before, rfl, rfl⟩
          · exact ⟨⟨.text, [d]⟩ :: first :: before, rfl, rfl⟩
  | @quoted quoted content taken hquoted _ ih =>
      obtain ⟨before, rfl, hscan⟩ := ih
      cases hquoted with
      | @intro mark _ quote absent =>
          refine ⟨⟨.string, mark :: (content ++ [mark])⟩ :: before, rfl, ?_⟩
          have hnext : Comment.NextToken
              (mark :: (content ++ mark :: (before.flatMap Token.chars ++ c :: cs))) _ _ :=
            .string quote absent
          have hsplit : mark :: (content ++ [mark]) ++ before.flatMap Token.chars ++ c :: cs =
              mark :: (content ++ mark :: (before.flatMap Token.chars ++ c :: cs)) := by simp
          rw [hsplit, hnext.scan_eq, hscan, List.cons_append]

end ThriftSchema
