import ThriftSchema.Proofs.Teletype.Markup
import ThriftSchema.Teletype.Host

set_option autoImplicit false

/-! # A teletype keeps the laws of consoles

What a teletype refuses is a text with wrong tags, on its own or in a table, a panel or a tree.

* `exists_tableLines`, `exists_treeLines`: when tables and trees are shown.
* `lawful_console`: all laws.
-/

namespace ThriftSchema.Teletype

open Command (InOrder Table styleNames styled)

variable {width : Nat}

theorem exists_shown_iff {lines : Except MarkupError (List String)} :
    (∃ text, shown lines = .ok text) ↔ ∃ all, lines = .ok all := by
  cases lines <;> simp [shown]

theorem accepts_iff {text : String} : (console width).Accepts text ↔ IsPrintable text :=
  exists_shown_iff

theorem isPrintable_of_inOrder {text : String} (h : InOrder text.toList) : IsPrintable text :=
  isPrintable_iff_prints.2 (prints_of_inOrder h [])

/-! ## Tables -/

/-- A list is mapped if all its items are. -/
theorem exists_mapM_eq_ok {ε α β : Type} {f : α → Except ε β} {as : List α} :
    (∃ bs, as.mapM f = .ok bs) ↔ ∀ a ∈ as, ∃ b, f a = .ok b := by
  induction as with
  | nil => exact iff_of_true ⟨[], rfl⟩ (List.forall_mem_nil _)
  | cons a as ih =>
      rw [List.forall_mem_cons, ← ih, List.mapM_cons]
      cases ha : f a with
      | error error => simp [bind, Except.bind]
      | ok b => cases as.mapM f <;> simp [bind, Except.bind, pure, Except.pure]

/-- A table is drawn if all its texts are printed. -/
theorem exists_tableLines {table : Table} :
    (∃ lines, tableLines table = .ok lines) ↔ ∀ text ∈ table.texts, IsPrintable text := by
  have hheads : (∃ heads, (table.columns.mapM fun column => printedLines column.head) = .ok heads) ↔
      ∀ text ∈ table.columns.map Command.Column.head, IsPrintable text := by
    rw [List.forall_mem_map]
    exact exists_mapM_eq_ok
  have hrows : (∃ rows, (table.rows.mapM fun row => row.mapM printedLines) = .ok rows) ↔
      ∀ text ∈ table.rows.flatten, IsPrintable text := by
    rw [exists_mapM_eq_ok, List.forall_mem_flatten]
    exact forall₂_congr fun row _ => exists_mapM_eq_ok
  rw [Table.texts, List.forall_mem_cons, List.forall_mem_append, ← hheads, ← hrows, IsPrintable,
    tableLines]
  cases printedLines table.title with
  | error error => simp [bind, Except.bind]
  | ok title =>
      cases table.columns.mapM fun column => printedLines column.head with
      | error error => simp [bind, Except.bind]
      | ok heads =>
          cases table.rows.mapM fun row => row.mapM printedLines with
          | error error => simp [bind, Except.bind]
          | ok rows => exact iff_of_true ⟨_, rfl⟩ ⟨⟨_, rfl⟩, ⟨_, rfl⟩, ⟨_, rfl⟩⟩

/-! ## Panels and trees -/

theorem exists_panelLines {title content : String} (htitle : IsPrintable title)
    (hcontent : IsPrintable content) : ∃ lines, panelLines width title content = .ok lines := by
  obtain ⟨titleLines, htitle⟩ := htitle
  obtain ⟨contentLines, hcontent⟩ := hcontent
  rw [panelLines, htitle, hcontent]
  exact ⟨_, rfl⟩

mutual

/-- A tree is drawn if all its labels are printed. -/
theorem exists_treeLines : ∀ tree : Tree, (∀ label ∈ tree.labels, IsPrintable label) →
    ∃ lines, treeLines tree = .ok lines
  | .node label branches, h => by
    obtain ⟨⟨head, hhead⟩, hbranches⟩ := List.forall_mem_cons.1 h
    obtain ⟨rest, hrest⟩ := exists_branchLines branches hbranches
    rw [treeLines, hhead, hrest]
    exact ⟨_, rfl⟩

theorem exists_branchLines : ∀ branches : List Tree,
    (∀ label ∈ Tree.branchLabels branches, IsPrintable label) →
      ∃ lines, branchLines branches = .ok lines
  | [], _ => ⟨[], rfl⟩
  | branch :: branches, h => by
    obtain ⟨hbranch, hbranches⟩ := List.forall_mem_append.1 h
    obtain ⟨head, hhead⟩ := exists_treeLines branch hbranch
    obtain ⟨rest, hrest⟩ := exists_branchLines branches hbranches
    rw [branchLines, hhead, hrest]
    cases branches <;> exact ⟨_, rfl⟩

end

/-! ## How a text starts -/

theorem isPlainRun_of_isAlpha {c : Char} (h : c.isAlpha = true) : IsPlainRun [c] := by
  refine List.forall_mem_singleton.2 ⟨?_, ?_, ?_, ?_, ?_⟩
  iterate 4 rintro rfl; cases h
  have hcode := isAlpha_iff_toNat.1 h
  simp only [isDropped, Bool.or_eq_false_iff, beq_eq_false_iff_ne]
  omega

/-- A text in a style is shown with the letter in front that it starts with. -/
theorem head?_of_shown {style text printed : String} {c : Char} (hstyle : style ∈ styleNames)
    (hhead : text.toList.head? = some c) (hc : c.isAlpha = true)
    (h : shown (printedLines (styled style text)) = .ok printed) :
    printed.toList.head? = some c := by
  obtain ⟨cs, hcs⟩ := List.head?_eq_some_iff.1 hhead
  have hchars : (styled style text).toList = Text.tagChars 0 style.toList ++
      ([c] ++ (cs ++ Text.tagChars 0 ('/' :: style.toList))) := by
    simp [styled, Text.tagChars, hcs]
  obtain ⟨lines, hlines⟩ := exists_shown_iff.1 ⟨printed, h⟩
  obtain ⟨line, others, rfl, behind, hline⟩ := exists_line_of_printedLines (isStyle_of_mem hstyle)
    (isPlainRun_of_isAlpha hc) hchars hlines
  rw [hlines] at h
  cases h
  simp [unlines, String.join_cons, hline]

/-- **A teletype keeps all laws.** -/
theorem lawful_console (width : Nat) : (console width).Lawful where
  echo _ _ := rfl
  text text h := accepts_iff.2 (isPrintable_of_inOrder h)
  closing text h haccepts :=
    not_prints_of_misclosed h (isPrintable_iff_prints.1 (accepts_iff.1 haccepts))
  starts style hstyle text printed c hhead hc h := .inl (head?_of_shown hstyle hhead hc h)
  table table _ h :=
    exists_shown_iff.2 (exists_tableLines.2 fun text htext => isPrintable_of_inOrder (h text htext))
  closingCell table row hrow cell hcell h drawn hdrawn := by
    have htext : cell ∈ table.texts :=
      List.mem_cons_of_mem _ (List.mem_append_right _ (List.mem_flatten.2 ⟨row, hrow, hcell⟩))
    have hprintable := exists_tableLines.1 (exists_shown_iff.1 ⟨drawn, hdrawn⟩) cell htext
    exact not_prints_of_misclosed h (isPrintable_iff_prints.1 hprintable)
  panel title content htitle hcontent := exists_shown_iff.2
    (exists_panelLines (isPrintable_of_inOrder htitle) (isPrintable_of_inOrder hcontent))
  tree tree h := exists_shown_iff.2
    (exists_treeLines tree fun label hlabel => isPrintable_of_inOrder (h label hlabel))

end ThriftSchema.Teletype
