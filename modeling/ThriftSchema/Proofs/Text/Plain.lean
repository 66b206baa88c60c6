import ThriftSchema.Comment
import ThriftSchema.Proofs.Text.Lexeme

set_option autoImplicit false

/-! # Texts without comments

A text whose openers are all quotes that are closed, or stand between such quotes, is left alone
when comments are taken out.
-/

namespace ThriftSchema

open Comment (isOpener Token)

/-! ## Plain texts -/

/-- A class without openers. -/
theorem not_isOpener_of {C : Char → Bool} {c : Char} (hc : C c = true)
    (hC : ∀ d ∈ ['/', '\x22', '\x27'], C d = false) : isOpener c = false := by
  rw [Bool.eq_false_iff]
  intro hopener
  simp only [isOpener, Bool.or_eq_true, beq_iff_eq] at hopener
  have hmem : c ∈ ['/', '\x22', '\x27'] := by
    rcases hopener with (rfl | rfl) | rfl <;> simp
  rw [hC c hmem] at hc
  exact Bool.false_ne_true hc

/-- A text in which every opener is a quote that is closed or stands between quotes. -/
inductive Plain : List Char → Prop
  | nil : Plain []
  | cons {c : Char} {cs : List Char} (hc : isOpener c = false) (hcs : Plain cs) : Plain (c :: cs)
  | quoted {quoted content cs : List Char} (h : IsQuoted quoted content) (hcs : Plain cs) :
      Plain (quoted ++ cs)

namespace Plain

theorem append {cs ds : List Char} (hcs : Plain cs) (hds : Plain ds) : Plain (cs ++ ds) := by
  induction hcs with
  | nil => exact hds
  | cons hc _ ih => exact .cons hc ih
  | quoted h _ ih =>
      rw [List.append_assoc]
      exact .quoted h ih

theorem of_forall {cs : List Char} (h : ∀ c ∈ cs, isOpener c = false) : Plain cs := by
  induction cs with
  | nil => exact .nil
  | cons c cs ih =>
      exact .cons (h c (List.mem_cons_self ..)) (ih fun d hd => h d (List.mem_cons_of_mem _ hd))

theorem isOpener_of_isQuote {c : Char} (h : IsQuote c) : isOpener c = true := by
  rcases h with rfl | rfl <;> decide

/-- A run of other characters can be taken off. -/
theorem dropWhile {cs : List Char} (h : Plain cs) : Plain (cs.dropWhile fun c => !isOpener c) := by
  induction h with
  | nil => exact .nil
  | cons hc _ ih => rwa [List.dropWhile_cons_of_pos (by simp [hc])]
  | quoted h hcs ih =>
      cases h with
      | intro quote absent =>
          have hquote := isOpener_of_isQuote quote
          have hquoted := Plain.quoted (.intro quote absent) hcs
          rw [List.cons_append] at hquoted ⊢
          rwa [List.dropWhile_cons_of_neg (by simp [hquote])]

theorem of_cons {c : Char} {cs : List Char} (hc : isOpener c = false) (h : Plain (c :: cs)) :
    Plain cs := by
  generalize hds : c :: cs = ds at h
  cases h with
  | nil => cases hds
  | cons _ h =>
      cases hds
      exact h
  | quoted hquoted _ =>
      cases hquoted with
      | intro quote _ =>
          cases hds
          rw [isOpener_of_isQuote quote] at hc
          cases hc

theorem of_quoted {quoted content cs : List Char} (hquoted : IsQuoted quoted content)
    (h : Plain (quoted ++ cs)) : Plain cs := by
  have hlength : Pattern.quotedLength (quoted ++ cs) = some quoted.length :=
    Pattern.quotedLength_append hquoted
  generalize hds : quoted ++ cs = ds at h hlength
  cases h with
  | nil => cases hlength
  | cons hc _ =>
      cases hquoted with
      | intro quote _ =>
          cases hds
          rw [isOpener_of_isQuote quote] at hc
          cases hc
  | quoted hother h =>
      -- both quoted texts are what is measured
      rw [Pattern.quotedLength_append hother] at hlength
      obtain ⟨-, rfl⟩ := List.append_inj hds (Option.some.inj hlength).symm
      exact h

/-- What follows a plain part of a plain text is plain. -/
theorem of_append {cs ds : List Char} (hcs : Plain cs) (h : Plain (cs ++ ds)) : Plain ds := by
  induction hcs with
  | nil => exact h
  | cons hc _ ih => exact ih (of_cons hc h)
  | quoted hquoted _ ih =>
      rw [List.append_assoc] at h
      exact ih (of_quoted hquoted h)

end Plain

/-! ## Taking comments out -/

namespace Comment

/-- A run of other characters is a token of its own. -/
theorem next_of_not_opener {c : Char} (hc : isOpener c = false) (cs : List Char) :
    Token.next c cs = (⟨.text, c :: cs.takeWhile fun d => !isOpener d⟩,
      cs.dropWhile fun d => !isOpener d) := by
  have hslash : c ≠ '/' := by
    rintro rfl
    exact absurd hc (by decide)
  have hquote : (c == '\x22' || c == '\x27') = false := by
    simp only [isOpener, Bool.or_eq_false_iff] at hc ⊢
    exact ⟨hc.1.2, hc.2⟩
  unfold Token.next
  split
  · exact absurd rfl hslash
  · exact absurd rfl hslash
  · rw [if_neg (by simpa using hslash), hquote]
    rfl

/-- A quoted text is a token of its own. -/
theorem next_of_quoted {mark : Char} {content : List Char} (quote : IsQuote mark)
    (absent : mark ∉ content) (cs : List Char) :
    Token.next mark (content ++ mark :: cs) = (⟨.string, mark :: (content ++ [mark])⟩, cs) := by
  have hslash : mark ≠ '/' := by
    rcases quote with rfl | rfl <;> decide
  have hmark : (mark == '\x22' || mark == '\x27') = true := by simpa [IsQuote] using quote
  have hcontent : ∀ c ∈ content, (c != mark) = true := by
    intro c hc
    simpa using fun heq : c = mark => absent (heq ▸ hc)
  have hrest : NotAhead (· != mark) (mark :: cs) := notAhead_cons.2 (by simp)
  unfold Token.next
  split
  · exact absurd rfl hslash
  · exact absurd rfl hslash
  · rw [if_neg (by simpa using hslash), if_pos hmark, dropWhile_append_of_notAhead hcontent hrest,
      takeWhile_append_of_notAhead hcontent hrest]

theorem strip_cons {c : Char} {cs rest : List Char} {token : Token}
    (h : Token.next c cs = (token, rest)) (hkind : token.kind.isComment = false) :
    strip (c :: cs) = token.chars ++ strip rest := by
  rw [strip, Token.scan, h, List.flatMap_cons, hkind, strip]
  rfl

/-- Taking comments out leaves a plain text alone. -/
theorem strip_of_plain {cs : List Char} (h : Plain cs) : strip cs = cs := by
  induction hn : cs.length using Nat.strong_induction_on generalizing cs with
  | _ n ih =>
    cases h with
    | nil => rw [strip, Token.scan, List.flatMap_nil]
    | @cons c cs hc hcs =>
        have hlength := length_dropWhile_le (fun d => !isOpener d) cs
        rw [List.length_cons] at hn
        rw [strip_cons (next_of_not_opener hc cs) rfl, ih _ (by omega) hcs.dropWhile rfl,
          List.cons_append, List.takeWhile_append_dropWhile]
    | @quoted _ content cs h hcs =>
        cases h with
        | @intro mark _ quote absent =>
            have hsplit : mark :: (content ++ [mark]) ++ cs = mark :: (content ++ mark :: cs) := by
              simp
            rw [List.length_append, List.length_cons] at hn
            rw [hsplit, strip_cons (next_of_quoted quote absent cs) rfl, ih _ (by omega) hcs rfl,
              ← hsplit]

end Comment

end ThriftSchema
