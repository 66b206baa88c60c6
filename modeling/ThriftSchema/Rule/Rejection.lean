import ThriftSchema.Text.Position
import ThriftSchema.Rule.State

set_option autoImplicit false

/-! # Rejected texts

A text that does not match is reported by the place of the furthest failure and the labels of
what was expected there. A text that nests deeper than the matcher follows is reported by its
place alone.

* `Place`: an offset with its line and column, and the name of the text.
* `Rejection`: a place and the expected labels, each once and in code point order.
* `State.rejection`: the rejection that a failed match amounts to.
-/

namespace ThriftSchema

/-! ## Sorted labels -/

/-- Adds a label to a strictly rising list of labels. -/
def insertLabel (label : String) : List String → List String
  | [] => [label]
  | head :: rest =>
    if label < head then label :: head :: rest
    else if label = head then head :: rest
    else head :: insertLabel label rest

/-- The labels in code point order, each once. -/
def sortLabels (labels : List String) : List String :=
  labels.foldr insertLabel []

/-! ## Places -/

/-- A place in a text, which has a name if it came from a source. -/
structure Place where
  position : Int
  line : Int
  column : Int
  source : Option String
deriving DecidableEq

namespace Place

/-- The place of an offset. -/
def ofOffset (text : List Char) (offset : Int) (source : Option String) : Place :=
  let (line, column) := Text.lineColumn text offset
  ⟨offset, line, column, source⟩

/-- The source, if it has a name, then the line and the column. -/
def describe (p : Place) : String :=
  let here := "line " ++ toString p.line ++ ", column " ++ toString p.column
  match p.source with
  | none | some "" => here
  | some source => source ++ ": " ++ here

/-- The line of the place with a caret below it. -/
def excerpt (p : Place) (text : String) (span : Int) : String :=
  Text.excerpt text.toList p.position span

/-- The span of an excerpt where none is asked for. -/
def usualSpan : Int := 40

/-- The message for a text that nests too deep at this place. -/
def tooDeepMessage (p : Place) : String :=
  "Nesting too deep at " ++ p.describe

end Place

/-! ## Rejections -/

/-- Where a text stopped matching, and what would have gone on there. -/
structure Rejection extends Place where
  expected : List String
deriving DecidableEq

namespace Rejection

/-- The rejection at a place, from labels in any order. -/
def ofLabels (place : Place) (labels : List String) : Rejection :=
  ⟨place, sortLabels labels⟩

/-- The place, and the expected labels if there are any. -/
def message (r : Rejection) : String :=
  let head := "Syntax error at " ++ r.toPlace.describe
  if r.expected.isEmpty then head
  else head ++ "; expected one of: " ++ ", ".intercalate r.expected

end Rejection

/-- The rejection at the furthest failure. -/
def State.rejection {V : Type} (s : State V) (text : List Char) (source : Option String) :
    Rejection :=
  .ofLabels (.ofOffset text s.furthest source) s.expected

end ThriftSchema
