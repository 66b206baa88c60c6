import Mathlib.Data.List.Basic
import Mathlib.Data.List.TakeWhile
import ThriftSchema.Proofs.Text.Lexeme
import ThriftSchema.Text.Escape

set_option autoImplicit false

/-! # Escaped texts

A text is read as pieces, tags and what stands between them. Escaping puts one backslash more in
front of each tag than there is twice, so that a tag stays where it was and has an odd number of
them; all other characters stay as they are. So an escaped text has as many tags, none of which is
one any more, and the text can be told from it.

At the end of a text a single backslash is doubled. That is the one thing that escaping does not
keep apart: a text that ends in a single backslash is escaped as the one that ends in two.

* `startsTag`: a text that starts with a tag and the backslashes in front of it.
* `pieces_induction`: from the pieces of a rest to those of a text.
* `pieces_escapeChars`: the pieces of an escaped text.
* `escape_eq_escape_iff`: when two texts are escaped alike.
-/

namespace ThriftSchema.Text

/-! ## Tags at the head of a text -/

/-- What can stand in a tag behind its first character. -/
def isTagBody (c : Char) : Bool := c != '[' && c != ']'

/-- What stands in a tag. -/
abbrev IsTagContent (content : List Char) : Prop := IsWord isTagStart isTagBody content

/-- A tag with backslashes in front of it. -/
def tagChars (backslashes : Nat) (content : List Char) : List Char :=
  List.replicate backslashes '\\' ++ '[' :: (content ++ [']'])

theorem isTagBody_of_isTagStart {c : Char} (h : isTagStart c = true) : isTagBody c = true := by
  have hbracket : ∀ d ∈ ['[', ']'], isTagStart d = false := by decide
  simp only [isTagBody, Bool.and_eq_true, bne_iff_ne]
  constructor <;> rintro rfl <;> simp [hbracket] at h

/-- What a tag is at an opening bracket. -/
theorem tagAt?_bracket (c : Char) (cs : List Char) : tagAt? ('[' :: c :: cs) =
    if isTagStart c then match cs.dropWhile isTagBody with
      | ']' :: after => some (c :: cs.takeWhile isTagBody, after)
      | _ => none
    else none := rfl

theorem tagAt?_tag {content : List Char} (h : IsTagContent content) (after : List Char) :
    tagAt? ('[' :: (content ++ ']' :: after)) = some (content, after) := by
  cases content with
  | nil => exact h.elim
  | cons c body =>
      have hrest : NotAhead isTagBody (']' :: after) := notAhead_cons.2 rfl
      rw [List.cons_append, tagAt?_bracket, if_pos h.1, dropWhile_append_of_notAhead h.2 hrest,
        takeWhile_append_of_notAhead h.2 hrest]
      rfl

theorem tagAt?_eq_some {cs content after : List Char} (h : tagAt? cs = some (content, after)) :
    IsTagContent content ∧ cs = '[' :: (content ++ ']' :: after) := by
  obtain ⟨c, body, rfl⟩ : ∃ c body, cs = '[' :: c :: body := by
    unfold tagAt? at h
    split at h
    · exact ⟨_, _, rfl⟩
    · cases h
  rw [tagAt?_bracket] at h
  split at h
  · next hstart =>
    split at h
    · next behind hdrop =>
      obtain ⟨rfl, rfl⟩ := Prod.mk.inj (Option.some.inj h)
      refine ⟨⟨hstart, fun d hd => List.mem_takeWhile_imp hd⟩, ?_⟩
      rw [List.cons_append, ← hdrop, List.takeWhile_append_dropWhile]
    · cases h
  · cases h

/-- A text starts with a tag and the backslashes in front of it. -/
def startsTag (cs : List Char) : Bool := (tagAt? (cs.dropWhile (· == '\\'))).isSome

@[simp] theorem startsTag_nil : startsTag [] = false := rfl

@[simp] theorem startsTag_backslash (cs : List Char) : startsTag ('\\' :: cs) = startsTag cs := rfl

theorem startsTag_of_ne {c : Char} (hbackslash : c ≠ '\\') (hbracket : c ≠ '[') (cs : List Char) :
    startsTag (c :: cs) = false := by
  rw [startsTag, List.dropWhile_cons_of_neg (by simpa using hbackslash)]
  unfold tagAt?
  split
  · next heq => exact absurd (List.cons.inj heq).1 hbracket
  · rfl

/-- The next bracket of a text closes. -/
def isClosedNext (cs : List Char) : Bool := (cs.dropWhile isTagBody).head? == some ']'

theorem isClosedNext_cons (c : Char) (cs : List Char) : isClosedNext (c :: cs) =
    if isTagBody c then isClosedNext cs else c == ']' := by
  unfold isClosedNext
  by_cases h : isTagBody c = true <;> simp [h]

/-- An opening bracket starts a tag if it is closed before another one is opened. -/
theorem startsTag_bracket (c : Char) (cs : List Char) :
    startsTag ('[' :: c :: cs) = (isTagStart c && isClosedNext cs) := by
  rw [startsTag, List.dropWhile_cons_of_neg (by decide), tagAt?_bracket, isClosedNext]
  cases isTagStart c with
  | false => rfl
  | true =>
      rw [if_pos rfl, Bool.true_and]
      cases cs.dropWhile isTagBody with
      | nil => rfl
      | cons d ds =>
          by_cases hd : d = ']'
          · subst hd
            rfl
          · split
            · next heq => exact absurd (List.cons.inj heq).1 hd
            · simpa using hd

theorem takeWhile_backslashes (n : Nat) (cs : List Char) (h : NotAhead (· == '\\') cs) :
    (List.replicate n '\\' ++ cs).takeWhile (· == '\\') = List.replicate n '\\' :=
  takeWhile_append_of_notAhead (by simp) h

theorem dropWhile_backslashes (n : Nat) (cs : List Char) (h : NotAhead (· == '\\') cs) :
    (List.replicate n '\\' ++ cs).dropWhile (· == '\\') = cs :=
  dropWhile_append_of_notAhead (by simp) h

theorem startsTag_iff {cs : List Char} : startsTag cs = true ↔
    ∃ n content after, IsTagContent content ∧ cs = tagChars n content ++ after := by
  constructor
  · intro h
    obtain ⟨⟨content, after⟩, htag⟩ := Option.isSome_iff_exists.1 h
    obtain ⟨hcontent, hdrop⟩ := tagAt?_eq_some htag
    have htake : cs.takeWhile (· == '\\') =
        List.replicate (cs.takeWhile (· == '\\')).length '\\' :=
      List.eq_replicate_iff.2 ⟨rfl, fun c hc => by simpa using List.mem_takeWhile_imp hc⟩
    refine ⟨(cs.takeWhile (· == '\\')).length, content, after, hcontent, ?_⟩
    rw [tagChars, ← htake]
    simpa [hdrop] using (List.takeWhile_append_dropWhile (p := (· == '\\')) (l := cs)).symm
  · rintro ⟨n, content, after, hcontent, rfl⟩
    have hdrop := dropWhile_backslashes n ('[' :: (content ++ ']' :: after)) (by simp)
    rw [startsTag, tagChars]
    simp only [List.append_assoc, List.cons_append, List.nil_append, hdrop, tagAt?_tag hcontent]
    rfl

theorem startsTag_of_notMem {cs : List Char} (h : '[' ∉ cs) : startsTag cs = false := by
  rw [Bool.eq_false_iff, ne_eq, startsTag_iff]
  rintro ⟨n, content, after, -, rfl⟩
  exact h (by simp [tagChars])

/-! ## Runs without tags -/

theorem Untagged.of_forall {run : List Char} (h : ∀ c ∈ run, c ≠ '\\' ∧ c ≠ '[') :
    Untagged run :=
  ⟨fun hmem => (h _ hmem).2 rfl, fun hlast => (h _ (List.mem_of_getLast? hlast)).1 rfl⟩

theorem Untagged.tail {c : Char} {run : List Char} (h : Untagged (c :: run)) : Untagged run := by
  refine ⟨fun hmem => h.bracket (List.mem_cons_of_mem _ hmem), fun hlast => h.ending ?_⟩
  cases run with
  | nil => cases hlast
  | cons d run => rwa [List.getLast?_cons_cons]

/-- Nor does one start in such a run if there is another text behind it. -/
theorem Untagged.startsTag_append {c : Char} {run : List Char} (h : Untagged (c :: run))
    (cs : List Char) : startsTag (c :: run ++ cs) = false := by
  by_cases hc : c = '\\'
  · subst hc
    cases run with
    | nil => exact absurd rfl h.ending
    | cons d run =>
        rw [List.cons_append, startsTag_backslash]
        exact h.tail.startsTag_append cs
  · exact startsTag_of_ne hc (fun heq => h.bracket (heq ▸ List.mem_cons_self)) _

/-! ## Pieces -/

theorem length_tagChars (n : Nat) (content : List Char) :
    (tagChars n content).length = n + content.length + 2 := by
  simp only [tagChars, List.length_append, List.length_replicate, List.length_cons,
    List.length_nil]
  omega

theorem piecesWithin_tag {n : Nat} {content : List Char} (h : IsTagContent content)
    (bound : Nat) (after : List Char) :
    piecesWithin (bound + 1) (tagChars n content ++ after) =
      .tag n content :: piecesWithin bound after := by
  have hsplit : tagChars n content ++ after =
      List.replicate n '\\' ++ '[' :: (content ++ ']' :: after) := by simp [tagChars]
  have htake := takeWhile_backslashes n ('[' :: (content ++ ']' :: after)) (by simp)
  have hdrop : (List.replicate n '\\' ++ '[' :: (content ++ ']' :: after)).drop n =
      '[' :: (content ++ ']' :: after) := List.drop_left' (by simp)
  obtain ⟨c, cs, hcons⟩ : ∃ c cs, tagChars n content ++ after = c :: cs :=
    List.exists_cons_of_ne_nil (by simp [tagChars])
  rw [hcons, piecesWithin, ← hcons, hsplit]
  simp only [htake, List.length_replicate, hdrop, tagAt?_tag h]

theorem piecesWithin_cons {c : Char} {cs : List Char} (h : startsTag (c :: cs) = false)
    (bound : Nat) : piecesWithin (bound + 1) (c :: cs) = addChar c (piecesWithin bound cs) := by
  have hdrop : ∀ ds : List Char, ds.drop (ds.takeWhile (· == '\\')).length =
      ds.dropWhile (· == '\\') := fun ds => by
    conv => lhs; arg 2; rw [← List.takeWhile_append_dropWhile (p := (· == '\\')) (l := ds)]
    exact List.drop_left ..
  rw [startsTag, Option.isSome_eq_false_iff, Option.isNone_iff_eq_none] at h
  rw [piecesWithin]
  simp only [hdrop, h]

/-- A text is nothing, a tag and a rest, or a character that starts no tag and a rest. -/
@[elab_as_elim]
theorem tag_induction {motive : List Char → Prop} (nil : motive [])
    (tag : ∀ n content after, IsTagContent content → motive after →
      motive (tagChars n content ++ after))
    (plain : ∀ c cs, startsTag (c :: cs) = false → motive cs → motive (c :: cs))
    (cs : List Char) : motive cs := by
  induction hn : cs.length using Nat.strong_induction_on generalizing cs with
  | _ n ih =>
    subst hn
    cases htag : startsTag cs with
    | true =>
        obtain ⟨n, content, after, hcontent, rfl⟩ := startsTag_iff.1 htag
        refine tag n content after hcontent (ih _ ?_ after rfl)
        simp only [List.length_append, length_tagChars]
        omega
    | false =>
        cases cs with
        | nil => exact nil
        | cons c cs => exact plain c cs htag (ih _ (by simp) cs rfl)

/-- A bound above the length of a text does not show. -/
theorem piecesWithin_eq {cs : List Char} : ∀ bound bound' : Nat, cs.length ≤ bound →
    cs.length ≤ bound' → piecesWithin bound cs = piecesWithin bound' cs := by
  induction cs using tag_induction with
  | nil => intro bound bound' _ _; cases bound <;> cases bound' <;> rfl
  | tag n content after hcontent ih =>
      intro bound bound' h h'
      simp only [List.length_append, length_tagChars] at h h'
      obtain ⟨b, rfl⟩ := Nat.exists_eq_add_of_le' (show 1 ≤ bound by omega)
      obtain ⟨b', rfl⟩ := Nat.exists_eq_add_of_le' (show 1 ≤ bound' by omega)
      rw [piecesWithin_tag hcontent, piecesWithin_tag hcontent,
        ih b b' (by omega) (by omega)]
  | plain c cs htag ih =>
      intro bound bound' h h'
      rw [List.length_cons] at h h'
      obtain ⟨b, rfl⟩ := Nat.exists_eq_add_of_le' (show 1 ≤ bound by omega)
      obtain ⟨b', rfl⟩ := Nat.exists_eq_add_of_le' (show 1 ≤ bound' by omega)
      rw [piecesWithin_cons htag, piecesWithin_cons htag,
        ih b b' (by omega) (by omega)]

@[simp] theorem pieces_nil : pieces [] = [] := rfl

theorem pieces_tag {n : Nat} {content : List Char} (h : IsTagContent content)
    (after : List Char) :
    pieces (tagChars n content ++ after) = .tag n content :: pieces after := by
  have hlength :
      (tagChars n content ++ after).length = n + content.length + 1 + after.length + 1 := by
    rw [List.length_append, length_tagChars]
    omega
  rw [pieces, hlength, piecesWithin_tag h, pieces, piecesWithin_eq _ _ (by omega) (Nat.le_refl _)]

theorem pieces_cons {c : Char} {cs : List Char} (h : startsTag (c :: cs) = false) :
    pieces (c :: cs) = addChar c (pieces cs) := piecesWithin_cons h cs.length

/-! ## Escaped texts -/

/-- A text with its tags made plain text, whatever is at its end. -/
def escapeChars (cs : List Char) : List Char := (pieces cs).flatMap escapePiece

@[simp] theorem escapeChars_nil : escapeChars [] = [] := rfl

theorem escapeChars_tag {n : Nat} {content : List Char} (h : IsTagContent content)
    (after : List Char) :
    escapeChars (tagChars n content ++ after) =
      tagChars (2 * n + 1) content ++ escapeChars after := by
  rw [escapeChars, pieces_tag h, List.flatMap_cons]
  rfl

theorem flatMap_escapePiece_addChar (c : Char) (ps : List Piece) :
    (addChar c ps).flatMap escapePiece = c :: ps.flatMap escapePiece := by
  unfold addChar
  split <;> rfl

theorem escapeChars_cons {c : Char} {cs : List Char} (h : startsTag (c :: cs) = false) :
    escapeChars (c :: cs) = c :: escapeChars cs := by
  rw [escapeChars, pieces_cons h, flatMap_escapePiece_addChar]
  rfl

/-- A text without an opening bracket is left alone. -/
theorem escapeChars_of_notMem {cs : List Char} (h : '[' ∉ cs) : escapeChars cs = cs := by
  induction cs with
  | nil => rfl
  | cons c cs ih =>
      rw [escapeChars_cons (startsTag_of_notMem h),
        ih fun hmem => h (List.mem_cons_of_mem _ hmem)]

/-- Escaping leaves alone which bracket comes next. -/
theorem isClosedNext_escapeChars (cs : List Char) :
    isClosedNext (escapeChars cs) = isClosedNext cs := by
  have hbackslashes : ∀ n rest, isClosedNext (List.replicate n '\\' ++ '[' :: rest) = false := by
    intro n rest
    induction n with
    | zero => rfl
    | succ n ih =>
        rw [List.replicate_succ, List.cons_append, isClosedNext_cons]
        exact ih
  induction cs using tag_induction with
  | nil => rfl
  | tag n content after hcontent _ =>
      rw [escapeChars_tag hcontent, tagChars, tagChars, List.append_assoc, List.append_assoc,
        List.cons_append, List.cons_append, hbackslashes, hbackslashes]
  | plain c cs htag ih => rw [escapeChars_cons htag, isClosedNext_cons, isClosedNext_cons, ih]

/-- Behind an opening bracket, an escaped text closes a tag where the text does. -/
theorem startsTag_bracket_escapeChars (cs : List Char) :
    startsTag ('[' :: escapeChars cs) = startsTag ('[' :: cs) := by
  induction cs using tag_induction with
  | nil => rfl
  | tag n content after hcontent _ =>
      have hfalse : ∀ n rest,
          startsTag ('[' :: (List.replicate n '\\' ++ '[' :: rest)) = false := by
        intro n rest
        cases n with
        | zero => exact startsTag_bracket '[' rest
        | succ n => exact startsTag_bracket '\\' _
      rw [escapeChars_tag hcontent, tagChars, tagChars, List.append_assoc, List.append_assoc,
        List.cons_append, List.cons_append, hfalse, hfalse]
  | plain c cs htag _ =>
      rw [escapeChars_cons htag, startsTag_bracket, startsTag_bracket, isClosedNext_escapeChars]

theorem startsTag_cons_congr {cs ds : List Char} (c : Char) (hrest : startsTag cs = startsTag ds)
    (hbracket : startsTag ('[' :: cs) = startsTag ('[' :: ds)) :
    startsTag (c :: cs) = startsTag (c :: ds) := by
  by_cases hc : c = '['
  · rw [hc, hbracket]
  by_cases hc' : c = '\\'
  · rw [hc', startsTag_backslash, startsTag_backslash, hrest]
  · rw [startsTag_of_ne hc' hc, startsTag_of_ne hc' hc]

/-- An escaped text starts with a tag where the text does. -/
theorem startsTag_escapeChars (cs : List Char) : startsTag (escapeChars cs) = startsTag cs := by
  induction cs using tag_induction with
  | nil => rfl
  | tag n content after hcontent _ =>
      rw [escapeChars_tag hcontent, startsTag_iff.2 ⟨_, _, _, hcontent, rfl⟩,
        startsTag_iff.2 ⟨_, _, _, hcontent, rfl⟩]
  | plain c cs htag ih =>
      rw [escapeChars_cons htag]
      exact startsTag_cons_congr c ih (startsTag_bracket_escapeChars cs)

/-- So does a character in front of it. -/
theorem startsTag_cons_escapeChars (c : Char) (cs : List Char) :
    startsTag (c :: escapeChars cs) = startsTag (c :: cs) :=
  startsTag_cons_congr c (startsTag_escapeChars cs) (startsTag_bracket_escapeChars cs)

/-- A tag of an escaped text: an odd number of backslashes stands in front of it. -/
def hidePiece : Piece → Piece
  | .text cs => .text cs
  | .tag n content => .tag (2 * n + 1) content

theorem map_hidePiece_addChar (c : Char) (ps : List Piece) :
    (addChar c ps).map hidePiece = addChar c (ps.map hidePiece) := by
  cases ps with
  | nil => rfl
  | cons p ps => cases p <;> rfl

/-- An escaped text has the pieces of the text, its tags hidden. -/
theorem pieces_escapeChars (cs : List Char) :
    pieces (escapeChars cs) = (pieces cs).map hidePiece := by
  induction cs using tag_induction with
  | nil => rfl
  | tag n content after hcontent ih =>
      rw [escapeChars_tag hcontent, pieces_tag hcontent, pieces_tag hcontent, ih]
      rfl
  | plain c cs htag ih =>
      have hhidden : startsTag (c :: escapeChars cs) = false := by
        rw [startsTag_cons_escapeChars, htag]
      rw [escapeChars_cons htag, pieces_cons hhidden, ih, pieces_cons htag, map_hidePiece_addChar]

/-- The characters of a piece. -/
def pieceChars : Piece → List Char
  | .text cs => cs
  | .tag n content => tagChars n content

/-- The pieces of a text make the text. -/
theorem flatMap_pieceChars (cs : List Char) : (pieces cs).flatMap pieceChars = cs := by
  induction cs using tag_induction with
  | nil => rfl
  | tag n content after hcontent ih =>
      rw [pieces_tag hcontent, List.flatMap_cons, ih]
      rfl
  | plain c cs htag ih =>
      have hadd : ∀ ps, (addChar c ps).flatMap pieceChars = c :: ps.flatMap pieceChars := by
        intro ps
        unfold addChar
        split <;> rfl
      rw [pieces_cons htag, hadd, ih]

theorem hidePiece_injective : Function.Injective hidePiece := by
  intro p q h
  cases p with
  | text cs =>
      cases q with
      | text ds => exact h
      | tag m content' => cases h
  | tag n content =>
      cases q with
      | text ds => cases h
      | tag m content' =>
          obtain ⟨hcount, rfl⟩ := Piece.tag.inj h
          rw [show n = m by omega]

/-- A text can be told from its escaped form, the end not looked at. -/
theorem escapeChars_injective : Function.Injective escapeChars := by
  intro cs ds h
  have hpieces : (pieces cs).map hidePiece = (pieces ds).map hidePiece := by
    rw [← pieces_escapeChars, ← pieces_escapeChars, h]
  rw [← flatMap_pieceChars cs, ← flatMap_pieceChars ds,
    List.map_injective_iff.2 hidePiece_injective hpieces]

/-! ## The end of a text -/

theorem getLast?_tagChars (n : Nat) (content : List Char) :
    (tagChars n content).getLast? = some ']' := by
  rw [tagChars, ← List.cons_append, ← List.append_assoc, List.getLast?_concat]

/-- Escaping leaves the last character alone. -/
theorem getLast?_escapeChars (cs : List Char) : (escapeChars cs).getLast? = cs.getLast? := by
  induction cs using tag_induction with
  | nil => rfl
  | tag n content after hcontent ih =>
      rw [escapeChars_tag hcontent, List.getLast?_append, List.getLast?_append, ih,
        getLast?_tagChars, getLast?_tagChars]
  | plain c cs htag ih => rw [escapeChars_cons htag, List.getLast?_cons, List.getLast?_cons, ih]

/-- A backslash at the end makes no tag. -/
theorem startsTag_concat (cs : List Char) : startsTag (cs ++ ['\\']) = startsTag cs := by
  rw [Bool.eq_iff_iff, startsTag_iff, startsTag_iff]
  constructor
  · rintro ⟨n, content, after, hcontent, h⟩
    obtain rfl | ⟨before, c, rfl⟩ := List.eq_nil_or_concat after
    · have hlast := congrArg List.getLast? h
      rw [List.append_nil, List.getLast?_concat, getLast?_tagChars] at hlast
      cases hlast
    · rw [List.concat_eq_append, ← List.append_assoc] at h
      exact ⟨n, content, before, hcontent, (List.append_inj' h rfl).1⟩
  · rintro ⟨n, content, after, hcontent, rfl⟩
    exact ⟨n, content, after ++ ['\\'], hcontent, List.append_assoc _ _ _⟩

theorem escapeChars_concat (cs : List Char) :
    escapeChars (cs ++ ['\\']) = escapeChars cs ++ ['\\'] := by
  induction cs using tag_induction with
  | nil => rfl
  | tag n content after hcontent ih =>
      rw [List.append_assoc, escapeChars_tag hcontent, escapeChars_tag hcontent, ih,
        List.append_assoc]
  | plain c cs htag ih =>
      have hconcat : startsTag (c :: (cs ++ ['\\'])) = false := by
        rw [← List.cons_append, startsTag_concat, htag]
      rw [List.cons_append, escapeChars_cons hconcat, ih, escapeChars_cons htag, List.cons_append]

theorem guardEnd_of_ne {cs : List Char} (h : cs.getLast? ≠ some '\\') : guardEnd cs = cs := by
  rw [← List.head?_reverse] at h
  unfold guardEnd
  split
  · rfl
  · next heq => simp [heq] at h
  · rfl

theorem guardEnd_concat (cs : List Char) : guardEnd (cs ++ ['\\']) =
    if cs.getLast? = some '\\' then cs ++ ['\\'] else cs ++ ['\\', '\\'] := by
  rw [← List.head?_reverse, guardEnd, List.reverse_concat']
  split
  · next heq => simp [(List.cons.inj heq).2]
  · next hne heq =>
    rw [if_neg, ← List.append_cons]
    intro hhead
    obtain ⟨ds, hds⟩ := List.head?_eq_some_iff.1 hhead
    exact hne ds ((List.cons.inj heq).2.symm.trans hds)
  · next hne => exact absurd rfl (hne cs.reverse)

theorem guardEnd_escapeChars (cs : List Char) :
    guardEnd (escapeChars cs) = escapeChars (guardEnd cs) := by
  by_cases hlast : cs.getLast? = some '\\'
  · obtain ⟨ds, rfl⟩ := List.getLast?_eq_some_iff.1 hlast
    rw [escapeChars_concat, guardEnd_concat, guardEnd_concat, getLast?_escapeChars]
    split
    · rw [escapeChars_concat]
    · rw [List.append_cons ds, escapeChars_concat, escapeChars_concat, ← List.append_cons]
  · rw [guardEnd_of_ne hlast, guardEnd_of_ne (by rwa [getLast?_escapeChars])]

theorem toList_escape (text : String) :
    (escape text).toList = escapeChars (guardEnd text.toList) := by
  rw [← guardEnd_escapeChars]
  exact String.toList_ofList

/-- Two texts are escaped alike if they are equal once a single backslash at their ends is
doubled. -/
theorem escape_eq_escape_iff {s t : String} :
    escape s = escape t ↔ guardEnd s.toList = guardEnd t.toList := by
  rw [← String.toList_inj, toList_escape, toList_escape, escapeChars_injective.eq_iff]

end ThriftSchema.Text
