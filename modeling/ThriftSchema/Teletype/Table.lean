import ThriftSchema.Command.Console
import ThriftSchema.Teletype.Markup

set_option autoImplicit false

/-! # Tables, panels and trees on a teletype

Results are drawn with box characters. The cells of a table are texts with tags; a column is as
wide as its widest cell. A panel takes the whole width. The branches of a tree are drawn below its
label, with guides that lead to them.

* `tableLines`: a table.
* `panelLines`: a panel over a width.
* `treeLines`: a tree.
-/

namespace ThriftSchema.Teletype

open Command (Table)
open Text

/-! ## Tables -/

/-- The lines of each cell of a row. -/
abbrev Cells := List (List String)

/-- The width of the widest line. -/
def widest (lines : List String) : Nat := (lines.map textWidth).foldl max 0

/-- The widths of columns that hold the cells of a row too. -/
def widen : List Nat → Cells → List Nat
  | width :: widths, cell :: cells => max width (widest cell) :: widen widths cells
  | widths, [] => widths
  | [], cells => cells.map widest

/-- One line of a row: the lines of its cells at an index, each padded to its column. -/
def rowLine (bar : String) (widths : List Nat) (cells : Cells) (index : Nat) : String :=
  let inner := List.zipWith
    (fun width cell => " " ++ padRight width (cell[index]?.getD "") ++ " ") widths cells
  bar ++ bar.intercalate inner ++ bar

/-- The lines of a row, as many as its highest cell has. -/
def rowLines (bar : String) (widths : List Nat) (cells : Cells) : List String :=
  let height := (cells.map List.length).foldl max 1
  (List.range height).map (rowLine bar widths cells)

/-- A rule across the table: its ends, the joint between columns, and the dash. -/
def ruleLine (first joint last : String) (dash : Char) (widths : List Nat) : String :=
  let dashes (width : Nat) : String := String.ofList (List.replicate (width + 2) dash)
  first ++ joint.intercalate (widths.map dashes) ++ last

/-- The lines of a table below its title, which is centred. -/
def tableLines (table : Table) : Except MarkupError (List String) := do
  let title ← printedLines table.title
  let heads : Cells ← table.columns.mapM fun column => printedLines column.head
  let rows : List Cells ← table.rows.mapM fun row => row.mapM printedLines
  let widths := rows.foldl widen (heads.map widest)
  let top := ruleLine "┏" "┳" "┓" '━' widths
  return title.map (centred (textWidth top)) ++ [top]
    ++ rowLines "┃" widths heads
    ++ [ruleLine "┡" "╇" "┩" '━' widths]
    ++ rows.flatMap (rowLines "│" widths)
    ++ [ruleLine "└" "┴" "┘" '─' widths]

/-! ## Panels -/

/-- A line of dashes. -/
def dashes (count : Nat) : String := String.ofList (List.replicate count '─')

/-- The lines of a panel over a width, with its title in the middle of its upper edge. -/
def panelLines (width : Nat) (title content : String) : Except MarkupError (List String) := do
  let head := " " ++ " ".intercalate (← printedLines title) ++ " "
  let lines ← printedLines content
  let rest := width - 4 - textWidth head
  return ["╭─" ++ dashes (rest / 2) ++ head ++ dashes (rest - rest / 2) ++ "─╮"]
    ++ lines.map (fun line => "│ " ++ padRight (width - 4) line ++ " │")
    ++ ["╰" ++ dashes (width - 2) ++ "╯"]

/-! ## Trees -/

/-- Puts one text in front of the first line and another in front of the others. -/
def indent (first others : String) : List String → List String
  | [] => []
  | line :: lines => (first ++ line) :: lines.map (others ++ ·)

mutual

/-- The lines of a tree. -/
def treeLines : Tree → Except MarkupError (List String)
  | .node label branches => do
    let head ← printedLines label
    let rest ← branchLines branches
    return head ++ rest

/-- The lines of branches, with guides that lead to them. -/
def branchLines : List Tree → Except MarkupError (List String)
  | [] => .ok []
  | branch :: branches => do
    let head ← treeLines branch
    let rest ← branchLines branches
    if branches.isEmpty then return indent "└── " "    " head
    else return indent "├── " "│   " head ++ rest

end

end ThriftSchema.Teletype
