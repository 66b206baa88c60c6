import Mathlib.Algebra.GroupWithZero.Nat
import ThriftSchema.Proofs.Text.Split
import ThriftSchema.Text.Position

set_option autoImplicit false

/-! # Lines

A text is its lines with newlines between them. An offset within the text lies in one of the
lines, or just behind it, so many characters into it. The count of the newlines in front of the
offset tells the line, and the searches for a newline in either direction find where it starts and
ends; and an excerpt around the offset is a part of that line.

* `linesLength`: how many characters lines take up.
* `InLine`: an offset lies in a line.
* `exists_inLine`: every offset within a text does.
* `InLine.lineColumn_eq`, `InLine.lastLineStart_eq`, `InLine.lineEnd_eq`: what is computed of the
  line.
* `InLine.excerpt_eq`: the excerpt around the offset.
-/

namespace ThriftSchema.Text

/-! ## Lines of a text -/

/-- How many characters lines take up, each with the newline behind it. -/
def linesLength (lines : List (List Char)) : Nat := (lines.map fun line => line.length + 1).sum

/-- Lines with a newline behind each. -/
def closeLines (lines : List (List Char)) : List Char := lines.flatMap (· ++ ['\n'])

theorem linesLength_cons (line : List Char) (lines : List (List Char)) :
    linesLength (line :: lines) = line.length + 1 + linesLength lines := rfl

theorem closeLines_cons (line : List Char) (lines : List (List Char)) :
    closeLines (line :: lines) = line ++ '\n' :: closeLines lines := by
  rw [closeLines, List.flatMap_cons, List.append_assoc]
  rfl

theorem length_closeLines (lines : List (List Char)) :
    (closeLines lines).length = linesLength lines := by
  induction lines with
  | nil => rfl
  | cons line lines ih =>
      rw [closeLines_cons, linesLength_cons, List.length_append, List.length_cons, ih]
      omega

/-- Lines without newlines have one newline each, the one behind them. -/
theorem count_closeLines {lines : List (List Char)} (h : ∀ line ∈ lines, '\n' ∉ line) :
    (closeLines lines).count '\n' = lines.length := by
  induction lines with
  | nil => rfl
  | cons line lines ih =>
      obtain ⟨hline, hlines⟩ := List.forall_mem_cons.1 h
      rw [closeLines_cons, List.count_append, List.count_eq_zero.2 hline, List.count_cons_self,
        ih hlines, List.length_cons, Nat.zero_add]

/-- Closed lines end in a newline, if there are any. -/
theorem takeWhile_reverse_closeLines (lines : List (List Char)) :
    (closeLines lines).reverse.takeWhile (· != '\n') = [] := by
  rcases List.eq_nil_or_concat lines with rfl | ⟨before, line, rfl⟩
  · rfl
  · rw [closeLines, List.concat_eq_append, List.flatMap_append, List.flatMap_singleton,
      ← List.append_assoc, List.reverse_append]
    rfl

/-- The lines of a text take up its length, and one newline more than it has. -/
theorem linesLength_splitChars (cs : List Char) :
    linesLength (splitChars '\n' cs) = cs.length + 1 := by
  induction cs with
  | nil => rfl
  | cons c cs ih =>
      rw [splitChars]
      split
      · rw [linesLength_cons, ih, List.length_nil, List.length_cons]
        omega
      · cases hlines : splitChars '\n' cs with
        | nil => exact absurd hlines (splitChars_ne_nil '\n' cs)
        | cons line lines =>
            rw [hlines, linesLength_cons] at ih
            show linesLength ((c :: line) :: lines) = _
            rw [linesLength_cons, List.length_cons, List.length_cons]
            omega

/-- A text is the lines in front of one of its lines, that line, and nothing or a newline and what
follows it. -/
theorem exists_rest_of_splitChars {cs line : List Char} {front back : List (List Char)}
    (h : splitChars '\n' cs = front ++ line :: back) :
    ∃ rest, cs = closeLines front ++ (line ++ rest) ∧ rest.takeWhile (· != '\n') = [] := by
  induction cs generalizing front line with
  | nil =>
      obtain ⟨rfl, rfl, rfl⟩ : front = [] ∧ line = [] ∧ back = [] := by
        cases front with
        | nil =>
            obtain ⟨hline, hback⟩ := List.cons.inj h
            exact ⟨rfl, hline.symm, hback.symm⟩
        | cons first front => simp [splitChars] at h
      exact ⟨[], rfl, rfl⟩
  | cons c cs ih =>
      rw [splitChars] at h
      split at h
      · next hc =>
        obtain rfl := hc
        cases front with
        | nil =>
            obtain ⟨rfl, -⟩ := List.cons.inj h
            exact ⟨'\n' :: cs, rfl, rfl⟩
        | cons first front =>
            obtain ⟨rfl, hlines⟩ := List.cons.inj h
            obtain ⟨rest, rfl, hrest⟩ := ih hlines
            exact ⟨rest, rfl, hrest⟩
      · cases hlines : splitChars '\n' cs with
        | nil => exact absurd hlines (splitChars_ne_nil '\n' cs)
        | cons part parts =>
            rw [hlines] at h ih
            cases front with
            | nil =>
                obtain ⟨rfl, rfl⟩ := List.cons.inj h
                obtain ⟨rest, rfl, hrest⟩ := @ih _ [] rfl
                exact ⟨rest, rfl, hrest⟩
            | cons first front =>
                obtain ⟨rfl, rfl⟩ := List.cons.inj h
                obtain ⟨rest, rfl, hrest⟩ := @ih _ (part :: front) rfl
                exact ⟨rest, rfl, hrest⟩

/-! ## The line of an offset -/

/-- Behind the lines `front`, and `column` characters into `line`, a text has the offset `p`. -/
structure InLine (cs : List Char) (p : Nat) (front : List (List Char)) (line : List Char)
    (column : Nat) : Prop where
  lines : ∃ back, splitChars '\n' cs = front ++ line :: back
  column_le : column ≤ line.length
  position : p = linesLength front + column

/-- Every offset within a text lies in a line. -/
theorem exists_inLine {cs : List Char} {p : Nat} (h : p ≤ cs.length) :
    ∃ front line column, InLine cs p front line column := by
  have hwithin : ∀ {lines : List (List Char)} {p : Nat}, p < linesLength lines →
      ∃ front line back column, lines = front ++ line :: back ∧ column ≤ line.length ∧
        p = linesLength front + column := by
    intro lines
    induction lines with
    | nil => exact fun h => absurd h (Nat.not_lt_zero _)
    | cons line lines ih =>
        intro p hp
        rw [linesLength_cons] at hp
        by_cases hline : p ≤ line.length
        · exact ⟨[], line, lines, p, rfl, hline, (Nat.zero_add p).symm⟩
        · obtain ⟨front, other, back, column, rfl, hcolumn, hposition⟩ :=
            ih (show p - (line.length + 1) < linesLength lines by omega)
          refine ⟨line :: front, other, back, column, rfl, hcolumn, ?_⟩
          rw [linesLength_cons]
          omega
  have hlt : p < linesLength (splitChars '\n' cs) := by
    rw [linesLength_splitChars]
    omega
  obtain ⟨front, line, back, column, hlines, hcolumn, hposition⟩ := hwithin hlt
  exact ⟨front, line, column, ⟨back, hlines⟩, hcolumn, hposition⟩

theorem sliceEnd_natCast {length p : Nat} (h : p ≤ length) : sliceEnd length p = p := by
  rw [sliceEnd, if_neg (Int.not_lt.2 (Int.natCast_nonneg p)), Int.toNat_natCast, Nat.min_eq_left h]

namespace InLine

variable {cs line : List Char} {p column : Nat} {front : List (List Char)}
  (h : InLine cs p front line column)

include h

theorem notMem : '\n' ∉ line := by
  obtain ⟨back, hlines⟩ := h.lines
  have hmem : line ∈ splitChars '\n' cs := by
    rw [hlines]
    exact List.mem_append_right _ List.mem_cons_self
  exact mark_notMem_of_mem_splitChars hmem

theorem notMem_front : ∀ other ∈ front, '\n' ∉ other := by
  obtain ⟨back, hlines⟩ := h.lines
  intro other hother
  have hmem : other ∈ splitChars '\n' cs := by
    rw [hlines]
    exact List.mem_append_left _ hother
  exact mark_notMem_of_mem_splitChars hmem

theorem lineEnd_le : linesLength front + line.length ≤ cs.length := by
  obtain ⟨back, hlines⟩ := h.lines
  obtain ⟨rest, rfl, -⟩ := exists_rest_of_splitChars hlines
  rw [List.length_append, List.length_append, length_closeLines]
  omega

theorem le_length : p ≤ cs.length := by
  have hposition := h.position
  have hcolumn := h.column_le
  have hend := h.lineEnd_le
  omega

/-- What is in front of the offset, and what is behind it. -/
theorem take_drop : cs.take p = closeLines front ++ line.take column ∧
    ∃ rest, cs.drop p = line.drop column ++ rest ∧ rest.takeWhile (· != '\n') = [] := by
  obtain ⟨back, hlines⟩ := h.lines
  obtain ⟨rest, rfl, hrest⟩ := exists_rest_of_splitChars hlines
  have hfront : p = (closeLines front).length + column := by rw [length_closeLines, h.position]
  constructor
  · rw [hfront, List.take_length_add_append, List.take_append_of_le_length h.column_le]
  · refine ⟨rest, ?_, hrest⟩
    rw [hfront, List.drop_length_add_append, List.drop_append_of_le_length h.column_le]

theorem lastLineStart_eq : lastLineStart (cs.take p) = linesLength front := by
  have hinside : ∀ c ∈ (line.take column).reverse, (c != '\n') = true := fun c hc =>
    bne_iff_ne.2 fun heq => h.notMem (heq ▸ List.mem_of_mem_take (List.mem_reverse.1 hc))
  rw [lastLineStart, h.take_drop.1, List.reverse_append,
    List.takeWhile_append_of_pos hinside, takeWhile_reverse_closeLines, List.append_nil,
    List.length_append, List.length_reverse, Nat.add_sub_cancel, length_closeLines]

theorem lineEnd_eq : lineEnd cs p = linesLength front + line.length := by
  have hinside : ∀ c ∈ line.drop column, (c != '\n') = true := fun c hc =>
    bne_iff_ne.2 fun heq => h.notMem (heq ▸ List.mem_of_mem_drop hc)
  obtain ⟨rest, hdrop, hrest⟩ := h.take_drop.2
  have hwithin : ¬ (cs.length : Int) < p := by
    have hle := h.le_length
    omega
  have hcolumn := h.column_le
  rw [lineEnd, sliceEnd_natCast h.le_length, if_neg hwithin, hdrop,
    List.takeWhile_append_of_pos hinside, hrest, List.append_nil, List.length_drop, h.position]
  omega

/-- The line and the column are counted from one. -/
theorem lineColumn_eq : lineColumn cs p = ((front.length : Int) + 1, (column : Int) + 1) := by
  have hcount : (cs.take p).count '\n' = front.length := by
    rw [h.take_drop.1, List.count_append, count_closeLines h.notMem_front,
      List.count_eq_zero.2 fun hmem => h.notMem (List.mem_of_mem_take hmem), Nat.add_zero]
  have hposition := h.position
  rw [lineColumn, sliceEnd_natCast h.le_length, hcount, h.lastLineStart_eq, Prod.mk.injEq]
  exact ⟨rfl, by omega⟩

/-- The part of the text between two offsets in the line is a part of the line. -/
theorem drop_take {left right : Nat} (hleft : linesLength front ≤ left)
    (hright : right ≤ linesLength front + line.length) :
    (cs.take right).drop left =
      (line.take (right - linesLength front)).drop (left - linesLength front) := by
  obtain ⟨back, hlines⟩ := h.lines
  obtain ⟨rest, rfl, -⟩ := exists_rest_of_splitChars hlines
  by_cases hempty : right ≤ left
  · rw [List.drop_eq_nil_of_le (Nat.le_trans (List.length_take_le _ _) hempty),
      List.drop_eq_nil_of_le
        (Nat.le_trans (List.length_take_le _ _) (Nat.sub_le_sub_right hempty _))]
  · obtain ⟨more, rfl⟩ : ∃ more, right = (closeLines front).length + more :=
      ⟨right - linesLength front, by rw [length_closeLines]; omega⟩
    obtain ⟨less, rfl⟩ : ∃ less, left = (closeLines front).length + less :=
      ⟨left - linesLength front, by rw [length_closeLines]; omega⟩
    rw [length_closeLines] at hright
    have hmore : more ≤ line.length := by omega
    rw [List.take_length_add_append, List.drop_length_add_append,
      List.take_append_of_le_length hmore, length_closeLines, Nat.add_sub_cancel_left,
      Nat.add_sub_cancel_left]

/-- An excerpt is the part of the line that is near enough, and below it a caret. -/
theorem excerpt_eq (span : Nat) :
    excerpt cs p span = String.ofList
      (((cs.take (min (linesLength front + line.length) (p + span))).drop
        (max (linesLength front) (p - span))).map blankTab ++
        '\n' :: (List.replicate (p - max (linesLength front) (p - span)) ' ' ++ ['^', '\n'])) := by
  have hlength := h.lineEnd_le
  have hposition := h.position
  have hcolumn := h.column_le
  have hleft : max (linesLength front : Int) ((p : Int) - span) =
      (max (linesLength front) (p - span) : Nat) := by omega
  have hright : min ((linesLength front + line.length : Nat) : Int) ((p : Int) + span) =
      (min (linesLength front + line.length) (p + span) : Nat) := by omega
  have hcaret : ((p : Int) - (max (linesLength front) (p - span) : Nat)).toNat =
      p - max (linesLength front) (p - span) := by omega
  rw [excerpt, sliceEnd_natCast h.le_length, h.lastLineStart_eq, h.lineEnd_eq, hleft, hright,
    hcaret, slice, sliceEnd_natCast (by omega), sliceEnd_natCast (by omega), List.drop_take]

end InLine

end ThriftSchema.Text
