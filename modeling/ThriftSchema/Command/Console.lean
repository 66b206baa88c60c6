import ThriftSchema.Outline.Tree
import ThriftSchema.Text.Printable

set_option autoImplicit false

/-! # Consoles

A command shows what it has to say on a console, which is given: a line as it is, a text with tags,
a table, a panel or a tree. A console may refuse what has wrong tags. How it draws the rest, in
which colours and on how many lines, is up to it. What can be relied on are its laws.

* `Console`: what can be shown.
* `InOrder`, `Misclosed`: texts with tags that are in order, and that are not.
* `Console.Lawful`: the laws.
-/

namespace ThriftSchema.Command

open Text (Untagged)

/-! ## What can be shown -/

/-- Why a console shows nothing. -/
structure ConsoleError where
  kind : String
  message : String

/-- A column: its head, and the style of its cells if they have one. -/
structure Column where
  head : String
  style : Option String

/-- A table of texts with tags. -/
structure Table where
  title : String
  columns : List Column
  rows : List (List String)

/-- All texts of a table. -/
def Table.texts (table : Table) : List String :=
  table.title :: (table.columns.map Column.head ++ table.rows.flatten)

/-- What is printed of lines, texts, tables, panels and trees. -/
structure Console where
  /-- A line as it is. -/
  echo : String → String
  text : String → Except ConsoleError String
  /-- A text in which only its tags are coloured, and no names and numbers. -/
  excerpt : String → Except ConsoleError String
  table : Table → Except ConsoleError String
  panel (title content : String) : Except ConsoleError String
  tree : Tree → Except ConsoleError String
  /-- A tree for a file, without colours. -/
  dump : Tree → Except ConsoleError String

/-- The console shows a text. -/
def Console.Accepts (console : Console) (text : String) : Prop :=
  ∃ shown, console.text text = .ok shown

/-! ## Texts in order -/

/-- The styles that commands use. -/
def styleNames : List String := ["bold", "dim", "red", "green", "yellow", "cyan"]

/-- A text in a style. -/
def styled (style text : String) : String := "[" ++ style ++ "]" ++ text ++ "[/" ++ style ++ "]"

/-- A text with tags that are in order: what is in a style has no tags itself, and what is escaped
comes last. -/
inductive InOrder : List Char → Prop
  | plain {cs : List Char} (h : '[' ∉ cs) : InOrder cs
  | escaped (text : String) : InOrder (Text.escape text).toList
  | append {run rest : List Char} (hrun : Untagged run) (hrest : InOrder rest) :
      InOrder (run ++ rest)
  | styled {style inner : String} {rest : List Char} (hstyle : style ∈ styleNames)
      (hinner : Untagged inner.toList) (hrest : InOrder rest) :
      InOrder ((styled style inner).toList ++ rest)

/-- A text with a closing tag that is out of place: the first tag of the text closes a style, or the
first one in a style closes another, named by a word that starts with another letter. -/
inductive Misclosed : List Char → Prop
  | first {run content : List Char} (rest : List Char) (hrun : Untagged run)
      (hcontent : ∀ c ∈ content, c ≠ '[' ∧ c ≠ ']') :
      Misclosed (run ++ '[' :: '/' :: (content ++ ']' :: rest))
  | within {style : String} {run word : List Char} {c : Char} (rest : List Char)
      (hstyle : style ∈ styleNames) (hrun : Untagged run)
      (hword : ∀ d ∈ c :: word, d.isLower = true) (hother : style.toList.head? ≠ some c) :
      Misclosed ('[' :: (style.toList ++ ']' ::
        (run ++ '[' :: '/' :: (c :: word ++ ']' :: rest))))

/-! ## Laws -/

/-- What every console does. -/
structure Console.Lawful (console : Console) : Prop where
  /-- Lines of ASCII are printed as they are. -/
  echo : ∀ line : String, (∀ c ∈ line.toList, Text.isAsciiText c = true) →
    console.echo line = line ++ "\n"
  /-- A text in order is shown. -/
  text : ∀ text : String, InOrder text.toList → console.Accepts text
  /-- A text with a closing tag out of place is refused. -/
  closing : ∀ text : String, Misclosed text.toList → ¬console.Accepts text
  /-- A text in a style that starts with a letter is printed with this letter in front, or with
  the control character for a style in front of it. -/
  starts : ∀ style ∈ styleNames, ∀ text shown : String, ∀ c : Char,
    text.toList.head? = some c → c.isAlpha = true →
      console.text (styled style text) = .ok shown →
        shown.toList.head? = some c ∨ shown.toList.head? = some '\x1b'
  /-- A table of texts in order is shown. -/
  table : ∀ table : Table,
    (∀ column ∈ table.columns, ∀ style ∈ column.style, style ∈ styleNames) →
      (∀ text ∈ table.texts, InOrder text.toList) → ∃ shown, console.table table = .ok shown
  /-- A table is refused for a cell with a closing tag out of place. -/
  closingCell : ∀ table : Table, ∀ row ∈ table.rows, ∀ cell ∈ row, Misclosed cell.toList →
    ∀ shown, console.table table ≠ .ok shown
  /-- A panel with a title and a content in order is shown. -/
  panel : ∀ title content : String, InOrder title.toList → InOrder content.toList →
    ∃ shown, console.panel title content = .ok shown
  /-- A tree of labels in order is shown. -/
  tree : ∀ tree : Tree, (∀ label ∈ tree.labels, InOrder label.toList) →
    ∃ shown, console.tree tree = .ok shown

end ThriftSchema.Command
