import ThriftSchema.Outline.OfSchema
import ThriftSchema.Text.Escape

set_option autoImplicit false

/-! # Printed trees

A document part is printed as a tree of labels. The label of a node is its name, followed by
those of its fields that are plain values or names; what is absent, empty or false is left out.
The other fields become branches that carry the field's name.

* `Tree`: labels with branches.
* `Outline.tree`: the tree of an outline.
* `Tree.labels`: all labels of a tree.
-/

namespace ThriftSchema

/-- A label, which may hold markup, and branches. -/
inductive Tree where
  | node (label : String) (branches : List Tree)
deriving Repr

/-! ## Labels -/

namespace Outline

/-- The text of a plain value or a name, as labels show it. -/
def inlineText : Outline → String
  | member _ _ word => word
  | node _ [(_, text name)] => name
  | other => other.describe

/-- Whether a value is a name that refers to something. -/
def isIdentifier : Outline → Bool
  | node "IdentifierNode" _ => true
  | _ => false

/-- Whether a value is shown within the label of its node. -/
def isInline : Outline → Bool
  | absent => false
  | flag value => value
  | tuple _ | list _ => false
  | node kind fields => isIdentifier (node kind fields)
  | _ => true

/-- The field name and text of a field that a label shows. -/
def labelPart? : String × Outline → Option String
  | (name, value) =>
    if value.isInline then some (name ++ "=" ++ Text.escape value.inlineText) else none

/-- The label of a node. -/
def label (kind : String) (fields : List (String × Outline)) : String :=
  " ".intercalate (("[bold]" ++ kind ++ "[/bold]") :: fields.filterMap labelPart?)

/-- The label of the branch for a field. -/
def branchLabel (name : String) : String := "[dim]" ++ name ++ "[/dim]"

/-! ## Trees -/

mutual

/-- The tree of an outline; a plain value has a label alone. -/
def tree : Outline → Tree
  | node kind fields =>
    if isIdentifier (node kind fields) then
      .node (Text.escape (inlineText (node kind fields))) []
    else .node (label kind fields) (fieldTrees fields)
  | other => .node (Text.escape other.inlineText) []

/-- The branches of a node: for each field that its label does not show, and that is not
empty. -/
def fieldTrees : List (String × Outline) → List Tree
  | [] => []
  | (name, value) :: fields =>
    match value with
    | tuple (item :: items) =>
      .node (branchLabel name) (itemTrees (item :: items)) :: fieldTrees fields
    | list (item :: items) =>
      .node (branchLabel name) (itemTrees (item :: items)) :: fieldTrees fields
    | node kind inner =>
      if isIdentifier (node kind inner) then fieldTrees fields
      else .node (branchLabel name) [tree (node kind inner)] :: fieldTrees fields
    | _ => fieldTrees fields

/-- The trees of items. -/
def itemTrees : List Outline → List Tree
  | [] => []
  | item :: items => tree item :: itemTrees items

end

/-- The tree whose root is a node, also if the node is a name. -/
def rootTree? : Outline → Option Tree
  | node kind fields => some (.node (label kind fields) (fieldTrees fields))
  | _ => none

end Outline

/-- The tree of a document. -/
def Document.tree (d : Document) : Tree := d.outline.tree

/-! ## Labels of a tree -/

mutual

/-- All labels of a tree. -/
def Tree.labels : Tree → List String
  | .node label branches => label :: branchLabels branches

/-- All labels of branches. -/
def Tree.branchLabels : List Tree → List String
  | [] => []
  | branch :: branches => branch.labels ++ branchLabels branches

end

end ThriftSchema
