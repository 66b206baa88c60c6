import ThriftSchema.Text.Split

set_option autoImplicit false

/-! # Paths

A path is a list of segments from an anchor: the place it is used at, or the root. Empty
segments and those that stay in place do not count; those that go up are kept, since what they
mean can depend on the tree. Collapsing takes them as going up by name.

* `Path.ofString`, `Path.text`: from and to text.
* `Path.join`, `Path.parent`, `Path.name`: working with paths.
* `collapse`, `Path.resolve`: paths without segments that go up.
-/

namespace ThriftSchema

/-! ## Segments -/

/-- The segments of a text that go somewhere. -/
def segmentsOf (text : String) : List String :=
  (Text.split '/' text).filter fun segment => segment != "" && segment != "."

/-- Follows segments from those of a place, which are given from the last to the first. At the
root, going up stays there. -/
def collapseFrom : List String → List String → List String
  | here, [] => here.reverse
  | here, segment :: segments =>
    if segment = ".." then collapseFrom here.tail segments
    else collapseFrom (segment :: here) segments

/-- The segments of the place that segments lead to from the root. -/
def collapse (segments : List String) : List String := collapseFrom [] segments

/-! ## Paths -/

/-- Where a path starts. Two slashes and no third are an anchor of their own. -/
inductive Anchor where
  | here
  | root
  | doubleRoot
deriving DecidableEq, Repr

/-- The text of an anchor. -/
def Anchor.text : Anchor → String
  | here => ""
  | root => "/"
  | doubleRoot => "//"

/-- A path in a tree of files. -/
structure Path where
  anchor : Anchor
  segments : List String
deriving DecidableEq, Repr

namespace Path

/-- The anchor of a text. -/
def anchorOf (text : String) : Anchor :=
  match (text.toList.takeWhile (· == '/')).length with
  | 0 => .here
  | 2 => .doubleRoot
  | _ => .root

/-- The path of a text. -/
def ofString (text : String) : Path := ⟨anchorOf text, segmentsOf text⟩

/-- The text of a path; that of the place itself is a point. -/
def text (path : Path) : String :=
  if path.anchor = .here ∧ path.segments = [] then "."
  else path.anchor.text ++ "/".intercalate path.segments

/-- Whether a null character is in a path. -/
def hasNull (path : Path) : Bool := path.segments.any fun segment => segment.toList.contains '\x00'

/-- Whether a path starts at the root. -/
def isAbsolute (path : Path) : Bool := path.anchor ≠ .here

/-- A path from the place that another one leads to. -/
def join (base path : Path) : Path :=
  if path.isAbsolute then path else { base with segments := base.segments ++ path.segments }

/-- The path without its last segment. -/
def parent (path : Path) : Path := { path with segments := path.segments.dropLast }

/-- The last segment. -/
def name (path : Path) : String := path.segments.getLast?.getD ""

/-- The path from the root, without segments that go up, of a path that is used at a place. -/
def resolve (path current : Path) : Path := ⟨.root, collapse (current.join path).segments⟩

end Path

end ThriftSchema
