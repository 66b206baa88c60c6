import ThriftSchema.Proofs.Layout.Scan

set_option autoImplicit false

/-! # Comments of a text and of what is appended

How a slash or a quote is read depends on all that follows it. But once a comment or a string is
closed, what follows has no part in it; so if no slash and no quote of a text opens nothing, then
the text is scanned as it was when another one is appended, as long as that does not run on into a
line comment at its end.

* `Comment.EndsOpen`: a text that ends in a line comment.
* `Comment.strip_append`: comments are taken out of each of the texts.
-/

namespace ThriftSchema.Comment

open Comment (Token)

theorem splitAtClose_append_right {cs content rest : List Char}
    (h : splitAtClose cs = some (content, rest)) (ds : List Char) :
    splitAtClose (cs ++ ds) = some (content, rest ++ ds) := by
  fun_induction splitAtClose cs generalizing content with
  | case1 after =>
      obtain ⟨rfl, rfl⟩ := Prod.mk.inj (Option.some.inj h)
      rfl
  | case2 c cs hclose ih =>
      obtain ⟨⟨content', rest'⟩, hsplit, heq⟩ := Option.map_eq_some_iff.1 h
      obtain ⟨rfl, rfl⟩ := Prod.mk.inj heq
      have hne : cs ≠ [] := by
        rintro rfl
        cases hsplit
      obtain ⟨d, cs, rfl⟩ := List.exists_cons_of_ne_nil hne
      rw [List.cons_append, splitAtClose, ih hsplit]
      · rfl
      · rintro after rfl heq
        obtain ⟨rfl, rfl⟩ := List.cons.inj heq
        exact hclose cs rfl rfl
  | case3 => cases h

/-- A run that ends in the first of two texts, or that the second one does not go on with. -/
theorem dropWhile_append_of {p : Char → Bool} {cs ds : List Char}
    (h : cs.dropWhile p = [] → NotAhead p ds) : (cs ++ ds).dropWhile p = cs.dropWhile p ++ ds := by
  rw [List.dropWhile_append]
  split
  · next hempty =>
    have hnil := List.isEmpty_iff.1 hempty
    rw [hnil, List.nil_append]
    exact dropWhile_append_of_notAhead (List.forall_mem_nil _) (h hnil)
  · rfl

/-- A text that ends in a line comment. -/
def EndsOpen (cs : List Char) : Prop := ∃ token ∈ (Token.scan cs).getLast?, token.kind = .line

theorem EndsOpen.of_line {cs : List Char} {token : Token} (hnext : NextToken cs token [])
    (hkind : token.kind = .line) : EndsOpen cs :=
  ⟨token, by rw [hnext.scan_eq, Token.scan]; rfl, hkind⟩

theorem EndsOpen.of_rest {cs rest : List Char} {token : Token} (hnext : NextToken cs token rest)
    (h : EndsOpen rest) : EndsOpen cs := by
  obtain ⟨last, hlast, hkind⟩ := h
  refine ⟨last, ?_, hkind⟩
  rw [hnext.scan_eq, List.getLast?_cons, Option.mem_def.1 hlast]
  rfl

/-- Comments are taken out of two texts one by one: where none of the openers of the first text
opens nothing, and the second one does not run on into a line comment. -/
theorem strip_append {cs ds : List Char} (hstray : ∀ token ∈ Token.scan cs, token.kind ≠ .stray)
    (hline : EndsOpen cs → NotAhead (· != '\n') ds) : strip (cs ++ ds) = strip cs ++ strip ds := by
  induction cs using scan_induction with
  | nil => rw [List.nil_append, strip_nil, List.nil_append]
  | token cs token rest hnext ih =>
      have hkind : token.kind ≠ .stray := hstray token (by simp [hnext.scan_eq])
      have hrest := ih (fun other hother => hstray other (by simp [hnext.scan_eq, hother]))
        fun hends => hline (hends.of_rest hnext)
      cases hnext with
      | @text c cs hc =>
          have hrun : ∀ d ∈ c :: cs.takeWhile fun d => !isOpener d, isOpener d = false := by
            intro d hd
            rcases List.mem_cons.1 hd with rfl | hd
            · exact hc
            · simpa using List.mem_takeWhile_imp hd
          have hsplit : c :: cs = (c :: cs.takeWhile fun d => !isOpener d) ++
              cs.dropWhile fun d => !isOpener d := by
            rw [List.cons_append, List.takeWhile_append_dropWhile]
          rw [hsplit, List.append_assoc, strip_run_append hrun, strip_run_append hrun, hrest,
            List.append_assoc]
      | block hclose =>
          have hafter := NextToken.block (splitAtClose_append_right hclose ds)
          rw [(NextToken.block hclose).strip_of_comment rfl, ← hrest, ← hafter.strip_of_comment rfl]
          rfl
      | @line after =>
          have hdrop : (after ++ ds).dropWhile (· != '\n') = after.dropWhile (· != '\n') ++ ds := by
            refine dropWhile_append_of fun hnil => ?_
            have hnext : NextToken ('/' :: '/' :: after) _ _ := .line
            rw [hnil] at hnext
            exact hline (.of_line hnext rfl)
          have hafter : NextToken ('/' :: '/' :: (after ++ ds)) _ _ := .line
          rw [NextToken.line.strip_of_comment rfl, ← hrest, ← hdrop,
            ← hafter.strip_of_comment rfl]
          rfl
      | @string mark content rest quote absent =>
          have hsplit : mark :: (content ++ mark :: rest) ++ ds =
              mark :: (content ++ mark :: (rest ++ ds)) := by simp
          rw [hsplit, (NextToken.string quote absent).strip_of_kept rfl, hrest,
            (NextToken.string quote absent).strip_of_kept rfl, List.append_assoc]
      | slash | quote => exact absurd rfl hkind

end ThriftSchema.Comment
