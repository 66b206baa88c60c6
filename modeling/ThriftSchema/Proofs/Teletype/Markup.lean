import ThriftSchema.Command.Console
import ThriftSchema.Proofs.Teletype.Style
import ThriftSchema.Proofs.Text.Escape
import ThriftSchema.Proofs.Text.Split
import ThriftSchema.Teletype.Markup

set_option autoImplicit false

/-! # What a teletype prints

A text with tags is printed unless one of them is wrong. An escaped text has no tags, so it is
printed wherever it stands, and so is a text without brackets; what stands in front of it decides.

* `Prints`: a text is printed behind tags that are open.
* `IsPrintable`: a text is printed.
* `IsStyle`: a style whose tags are in order.
* `prints_of_inOrder`: a text in order is printed.
* `not_prints_of_misclosed`: one with a closing tag out of place is not.
-/

namespace ThriftSchema.Teletype

open Command (InOrder Misclosed styleNames)
open Text

variable {opened opened' : List OpenTag} {cs : List Char}

/-! ## Printing pieces -/

/-- A text is printed behind the tags that are open. -/
structure Prints (opened : List OpenTag) (cs : List Char) : Prop where
  shown : ∃ shown, printPieces (pieces cs) opened = .ok shown
  styles : checkStyles (pieces cs) = .ok ()

/-- A text with tags can be printed. -/
def IsPrintable (text : String) : Prop := ∃ lines, printedLines text = .ok lines

theorem isPrintable_iff_prints {text : String} : IsPrintable text ↔ Prints [] text.toList := by
  rw [IsPrintable, printedLines, plain]
  constructor
  · rintro ⟨lines, h⟩
    cases hshown : printPieces (pieces text.toList) [] with
    | error error => simp [hshown, bind, Except.bind] at h
    | ok shown =>
        cases hstyles : checkStyles (pieces text.toList) with
        | error error => simp [hshown, hstyles, bind, Except.bind] at h
        | ok => exact ⟨⟨shown, hshown⟩, hstyles⟩
  · rintro ⟨⟨shown, hshown⟩, hstyles⟩
    exact ⟨_, by rw [hshown, hstyles]; rfl⟩

theorem Prints.nil (opened : List OpenTag) : Prints opened [] := ⟨⟨[], rfl⟩, rfl⟩

theorem checkStyles_addChar (c : Char) (ps : List Piece) :
    checkStyles (addChar c ps) = checkStyles ps := by
  cases ps with
  | nil => rfl
  | cons p ps => cases p <;> rfl

theorem printedChars_cons {c : Char} (hbackslash : c ≠ '\\') (hkept : isDropped c = false)
    (cs : List Char) : printedChars (c :: cs) = c :: printedChars cs := by
  rw [printedChars]
  · simp [hkept]
  · rintro ds rfl
    exact absurd rfl hbackslash

/-- A character in front of pieces is printed in front of what is printed of them. -/
theorem printPieces_addChar {c : Char} (hbackslash : c ≠ '\\') (hkept : isDropped c = false)
    (ps : List Piece) (opened : List OpenTag) :
    printPieces (addChar c ps) opened = (printPieces ps opened).map (c :: ·) := by
  cases ps with
  | nil =>
      rw [addChar, printPieces, printPieces, printedChars_cons hbackslash hkept, printedChars]
      · rfl
      · simp
  | cons p ps =>
      cases p with
      | text cs =>
          rw [addChar, printPieces, printPieces, printedChars_cons hbackslash hkept]
          cases printPieces ps opened <;> rfl
      | tag n content =>
          rw [addChar, printPieces, printedChars_cons hbackslash hkept, printedChars]
          · cases printPieces (.tag n content :: ps) opened <;> rfl
          · simp

theorem Prints.cons {c : Char} (htag : startsTag (c :: cs) = false) (h : Prints opened cs) :
    Prints opened (c :: cs) := by
  obtain ⟨⟨shown, hshown⟩, hstyles⟩ := h
  constructor
  · rw [pieces_cons htag]
    cases hpieces : pieces cs with
    | nil => exact ⟨_, rfl⟩
    | cons p ps =>
        rw [hpieces] at hshown
        cases p with
        | tag n content => exact ⟨_, by rw [addChar, printPieces, hshown]; rfl; simp⟩
        | text ds =>
            rw [printPieces] at hshown
            cases hrest : printPieces ps opened with
            | error error => simp [hrest, bind, Except.bind] at hshown
            | ok rest => exact ⟨_, by rw [addChar, printPieces, hrest]; rfl⟩
  · rw [pieces_cons htag, checkStyles_addChar, hstyles]

/-- Such a run is printed in front of what is printed. -/
theorem Prints.append {run : List Char} (hrun : Untagged run) (h : Prints opened cs) :
    Prints opened (run ++ cs) := by
  induction run with
  | nil => exact h
  | cons c run ih => exact .cons (hrun.startsTag_append cs) (ih hrun.tail)

theorem Prints.of_cons {c : Char} (htag : startsTag (c :: cs) = false)
    (h : Prints opened (c :: cs)) : Prints opened cs := by
  obtain ⟨⟨shown, hshown⟩, hstyles⟩ := h
  rw [pieces_cons htag] at hshown hstyles
  rw [checkStyles_addChar] at hstyles
  refine ⟨?_, hstyles⟩
  cases hpieces : pieces cs with
  | nil => exact ⟨[], rfl⟩
  | cons p ps =>
      rw [hpieces] at hshown
      cases p with
      | tag n content =>
          rw [addChar, printPieces] at hshown
          · cases hrest : printPieces (.tag n content :: ps) opened with
            | error error => simp [hrest, bind, Except.bind] at hshown
            | ok rest => exact ⟨rest, rfl⟩
          · simp
      | text ds =>
          rw [addChar, printPieces] at hshown
          rw [printPieces]
          cases hrest : printPieces ps opened with
          | error error => simp [hrest, bind, Except.bind] at hshown
          | ok rest => exact ⟨_, rfl⟩

/-- And what stands behind such a run is printed if the whole is. -/
theorem Prints.of_append {run : List Char} (hrun : Untagged run) (h : Prints opened (run ++ cs)) :
    Prints opened cs := by
  induction run with
  | nil => exact h
  | cons c run ih => exact ih hrun.tail (.of_cons (hrun.startsTag_append cs) h)

theorem checkStyles_tag (n : Nat) (content : List Char) (ps : List Piece) :
    checkStyles (.tag n content :: ps) =
      (if n % 2 = 1 || content.head? = some '/' then .ok () else openTag content >>= checkStyle)
        >>= fun _ => checkStyles ps := rfl

theorem Prints.hidden {n : Nat} {content : List Char} (hcontent : IsTagContent content)
    (h : Prints opened cs) : Prints opened (tagChars (2 * n + 1) content ++ cs) := by
  obtain ⟨⟨shown, hshown⟩, hstyles⟩ := h
  have hodd : (2 * n + 1) % 2 = 1 := by omega
  constructor
  · rw [pieces_tag hcontent, printPieces, if_pos hodd, hshown]
    exact ⟨_, rfl⟩
  · rw [pieces_tag hcontent, checkStyles_tag, hstyles, if_pos (by simp [hodd])]
    rfl

theorem Prints.tag {content : List Char} (hcontent : IsTagContent content)
    (happly : applyTag content opened = .ok opened')
    (hstyle : content.head? = some '/' ∨ (openTag content >>= checkStyle) = .ok ())
    (h : Prints opened' cs) : Prints opened (tagChars 0 content ++ cs) := by
  obtain ⟨⟨shown, hshown⟩, hstyles⟩ := h
  constructor
  · rw [pieces_tag hcontent, printPieces, if_neg (by decide), happly]
    exact ⟨_, by simp only [bind, Except.bind, hshown]; rfl⟩
  · rw [pieces_tag hcontent, checkStyles_tag, hstyles]
    rcases hstyle with hstyle | hstyle
    · rw [if_pos (by simp [hstyle])]
      rfl
    · rw [hstyle]
      split <;> rfl

/-! ## Escaped texts -/

/-- A text with its tags hidden is printed wherever it stands. -/
theorem prints_escapeChars (opened : List OpenTag) (cs : List Char) :
    Prints opened (escapeChars cs) := by
  induction cs using tag_induction with
  | nil => exact .nil opened
  | tag n content after hcontent ih =>
      rw [escapeChars_tag hcontent]
      exact .hidden hcontent ih
  | plain c cs htag ih =>
      rw [escapeChars_cons htag]
      exact .cons (by rw [startsTag_cons_escapeChars, htag]) ih

theorem prints_escape (opened : List OpenTag) (text : String) :
    Prints opened (escape text).toList := by
  rw [toList_escape]
  exact prints_escapeChars opened _

/-- A text without an opening bracket is printed. -/
theorem prints_of_notMem (opened : List OpenTag) (h : '[' ∉ cs) : Prints opened cs := by
  induction cs with
  | nil => exact .nil opened
  | cons c cs ih =>
      exact .cons (startsTag_of_notMem h) (ih fun hmem => h (List.mem_cons_of_mem _ hmem))

/-! ## Styles -/

/-- A style whose tags are in order. -/
structure IsStyle (name : String) : Prop where
  content : IsTagContent name.toList
  drawn : (openTag name.toList >>= checkStyle) = .ok ()
  opens : ∀ opened, applyTag name.toList opened = .ok (⟨name, none⟩ :: opened)
  closes : ∀ opened, applyTag ('/' :: name.toList) (⟨name, none⟩ :: opened) = .ok opened

theorem isStyle_of_mem {name : String} (h : name ∈ styleNames) : IsStyle name := by
  simp only [styleNames, List.mem_cons, List.not_mem_nil, or_false] at h
  rcases h with rfl | rfl | rfl | rfl | rfl | rfl <;>
    exact ⟨by decide, rfl, fun _ => rfl, fun _ => rfl⟩

theorem IsStyle.closing {name : String} (h : IsStyle name) : IsTagContent ('/' :: name.toList) := by
  have hcontent := h.content
  revert hcontent
  cases name.toList with
  | nil => exact False.elim
  | cons c cs =>
      rintro ⟨hc, hcs⟩
      exact ⟨rfl, List.forall_mem_cons.2 ⟨isTagBody_of_isTagStart hc, hcs⟩⟩

/-- A text in a style. -/
theorem Prints.styled {name inner : String} (h : IsStyle name)
    (hinner : Untagged inner.toList) (hcs : Prints opened cs) :
    Prints opened ((Command.styled name inner).toList ++ cs) := by
  have hchars : (Command.styled name inner).toList ++ cs =
      tagChars 0 name.toList ++ (inner.toList ++ (tagChars 0 ('/' :: name.toList) ++ cs)) := by
    simp [Command.styled, tagChars]
  rw [hchars]
  exact .tag h.content (h.opens opened) (.inr h.drawn)
    (.append hinner (.tag h.closing (h.closes opened) (.inl rfl) hcs))

/-- A text in order is printed, whatever is open. -/
theorem prints_of_inOrder (h : InOrder cs) (opened : List OpenTag) : Prints opened cs := by
  induction h with
  | plain h => exact prints_of_notMem opened h
  | escaped text => exact prints_escape opened text
  | append hrun hrest ih => exact .append hrun ih
  | styled hstyle hinner hrest ih => exact .styled (isStyle_of_mem hstyle) hinner ih

/-! ## Closing tags -/

theorem Prints.of_tag {content : List Char} (hcontent : IsTagContent content)
    (happly : applyTag content opened = .ok opened')
    (h : Prints opened (tagChars 0 content ++ cs)) : Prints opened' cs := by
  obtain ⟨⟨shown, hshown⟩, hstyles⟩ := h
  rw [pieces_tag hcontent] at hshown hstyles
  constructor
  · rw [printPieces, if_neg (by decide), happly] at hshown
    cases hrest : printPieces (pieces cs) opened' with
    | error error => simp [hrest, bind, Except.bind] at hshown
    | ok rest => exact ⟨rest, rfl⟩
  · rw [checkStyles_tag] at hstyles
    split at hstyles
    · exact hstyles
    · cases hstyle : openTag content >>= checkStyle with
      | error error =>
          rw [hstyle] at hstyles
          cases hstyles
      | ok => rwa [hstyle] at hstyles

theorem not_prints_of_applyTag {content : List Char} {error : MarkupError}
    (hcontent : IsTagContent content) (happly : applyTag content opened = .error error) :
    ¬Prints opened (tagChars 0 content ++ cs) := by
  rintro ⟨⟨shown, hshown⟩, -⟩
  rw [pieces_tag hcontent, printPieces, if_neg (by decide), happly] at hshown
  cases hshown

/-- Where nothing is open, nothing can be closed. -/
theorem applyTag_closing (content : List Char) :
    ∃ error, applyTag ('/' :: content) [] = .error error := by
  have hname : ('/' :: content).takeWhile (· != '=') = '/' :: content.takeWhile (· != '=') := rfl
  unfold applyTag
  rw [hname]
  split
  · next cs _ =>
    split_ifs
    · exact ⟨_, rfl⟩
    · cases tagName cs with
      | error error => exact ⟨error, rfl⟩
      | ok name => exact ⟨_, rfl⟩
  · next hopening => exact absurd rfl (hopening _)

/-- Where a style is open, none is closed whose name starts with another letter. -/
theorem applyTag_closing_other {style : String} {c : Char} {word : List Char}
    (hword : ∀ d ∈ c :: word, d.isLower = true) (hother : style.toList.head? ≠ some c) :
    ∃ error, applyTag ('/' :: c :: word) [⟨style, none⟩] = .error error := by
  have hname : ('/' :: c :: word).takeWhile (· != '=') = '/' :: c :: word := by
    refine List.takeWhile_eq_self_iff.2 (List.forall_mem_cons.2 ⟨rfl, fun d hd => ?_⟩)
    rw [bne_iff_ne]
    rintro rfl
    exact absurd (hword _ hd) (by decide)
  unfold applyTag
  rw [hname]
  simp only [trimBlanks_of_isLower hword, List.isEmpty_cons, Bool.false_eq_true, if_false]
  cases hclosed : tagName (c :: word) with
  | error error => exact ⟨error, rfl⟩
  | ok name =>
      have hhead : name.toList.head? = some c := by
        rw [tagName] at hclosed
        cases hstyle : styleName (c :: word) with
        | error error => simp [hstyle, Except.mapError] at hclosed
        | ok other =>
            rw [hstyle] at hclosed
            obtain rfl := Except.ok.inj hclosed
            exact head?_styleName hword hstyle
      have hne : style ≠ name := fun heq => hother (heq ▸ hhead)
      exact ⟨_, by simp [takeTag?, hne, Except.map, bind, Except.bind]; rfl⟩

/-- A text with a closing tag out of place is not printed. -/
theorem not_prints_of_misclosed (h : Misclosed cs) : ¬Prints [] cs := by
  have hchars : ∀ content rest : List Char,
      '[' :: (content ++ ']' :: rest) = tagChars 0 content ++ rest := by
    intro content rest
    simp [tagChars]
  intro hprints
  cases h with
  | @first run content rest hrun hcontent =>
      have htag : IsTagContent ('/' :: content) :=
        ⟨rfl, fun c hc => by simpa [isTagBody] using hcontent c hc⟩
      obtain ⟨error, herror⟩ := applyTag_closing content
      have hbehind := hprints.of_append hrun
      rw [← List.cons_append, hchars] at hbehind
      exact not_prints_of_applyTag htag herror hbehind
  | @within style run word c rest hstyle hrun hword hother =>
      have hopening := isStyle_of_mem hstyle
      have htag : IsTagContent ('/' :: c :: word) := by
        refine ⟨rfl, fun d hd => ?_⟩
        rw [isTagBody, Bool.and_eq_true, bne_iff_ne, bne_iff_ne]
        constructor <;> rintro rfl <;> exact absurd (hword _ hd) (by decide)
      obtain ⟨error, herror⟩ := applyTag_closing_other hword hother
      rw [hchars] at hprints
      have hbehind := (hprints.of_tag hopening.content (hopening.opens [])).of_append hrun
      rw [← List.cons_append, hchars] at hbehind
      exact not_prints_of_applyTag htag herror hbehind

/-! ## How a printed text starts -/

/-- Characters that are printed as they stand, on one line. -/
def IsPlainRun (run : List Char) : Prop :=
  ∀ c ∈ run, c ≠ '\\' ∧ c ≠ '[' ∧ c ≠ '\n' ∧ c ≠ '\t' ∧ isDropped c = false

instance (run : List Char) : Decidable (IsPlainRun run) :=
  inferInstanceAs (Decidable (∀ c ∈ run, c ≠ '\\' ∧ c ≠ '[' ∧ c ≠ '\n' ∧ c ≠ '\t' ∧
    isDropped c = false))

theorem printPieces_append {run : List Char} (hrun : IsPlainRun run) (cs : List Char)
    (opened : List OpenTag) : printPieces (pieces (run ++ cs)) opened =
      (printPieces (pieces cs) opened).map (run ++ ·) := by
  induction run with
  | nil =>
      rw [List.nil_append]
      cases printPieces (pieces cs) opened <;> rfl
  | cons c run ih =>
      obtain ⟨⟨hbackslash, hbracket, -, -, hkept⟩, hrun⟩ := List.forall_mem_cons.1 hrun
      rw [List.cons_append, pieces_cons (startsTag_of_ne hbackslash hbracket _),
        printPieces_addChar hbackslash hkept, ih hrun]
      cases printPieces (pieces cs) opened <;> rfl

theorem exists_expandTabs_append {run : List Char} (h : '\t' ∉ run) (cs : List Char) :
    ∃ rest, expandTabs (run ++ cs) = run ++ rest := by
  obtain ⟨part, parts, hsplit⟩ := exists_splitChars_append h cs
  rw [expandTabs, hsplit]
  cases parts with
  | nil => exact ⟨part, rfl⟩
  | cons next parts =>
      rw [expandParts]
      · simp only [List.append_assoc]
        exact ⟨_, rfl⟩
      · simp

/-- What is printed of a text in a style starts like the text. -/
theorem exists_line_of_printedLines {text name : String} {run rest : List Char}
    {lines : List String} (hstyle : IsStyle name) (hrun : IsPlainRun run)
    (htext : text.toList = tagChars 0 name.toList ++ (run ++ rest))
    (h : printedLines text = .ok lines) :
    ∃ line others, lines = line :: others ∧ ∃ behind, line.toList = run ++ behind := by
  have hnewline : '\n' ∉ run := fun hmem => (hrun _ hmem).2.2.1 rfl
  have htab : '\t' ∉ run := fun hmem => (hrun _ hmem).2.2.2.1 rfl
  obtain ⟨⟨shown, hshown⟩, hstyles⟩ := isPrintable_iff_prints.1 ⟨lines, h⟩
  rw [printedLines, plain, hshown, hstyles] at h
  rw [htext, pieces_tag hstyle.content, printPieces, if_neg (by decide), hstyle.opens] at hshown
  simp only [bind, Except.bind, printPieces_append hrun] at hshown
  cases hrest : printPieces (pieces rest) [⟨name, none⟩] with
  | error error => simp [hrest, Except.map] at hshown
  | ok behind =>
      rw [hrest] at hshown
      cases hshown
      cases h
      obtain ⟨part, parts, hsplit⟩ := exists_splitChars_append hnewline behind
      obtain ⟨after, hafter⟩ := exists_expandTabs_append htab part
      refine ⟨String.ofList (run ++ after),
        parts.map fun part => String.ofList (expandTabs part), ?_, after, by simp⟩
      simp [splitLines, split, hsplit, hafter, Function.comp_def]

end ThriftSchema.Teletype
