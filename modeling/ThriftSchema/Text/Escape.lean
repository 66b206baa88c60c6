set_option autoImplicit false

/-! # Tags in texts

Texts to show carry tags in square brackets: `[style]` opens a style, and `[/style]` closes it. A
tag starts with a lower-case letter, `#`, `/` or `@` and holds no bracket. Of the backslashes in
front of a tag each pair stands for one backslash, and a single one makes the tag plain text.

* `pieces`: a text cut into its tags and what stands between them.
* `escape`: a text in which no tag is one any more.
* `Untagged`: what is no part of a tag.
-/

namespace ThriftSchema.Text

/-! ## Tags -/

/-- A character that can start the content of a tag. -/
def isTagStart (c : Char) : Bool :=
  ('a' ≤ c && c ≤ 'z') || c == '#' || c == '/' || c == '@'

/-- The content of a tag at the head of a text, and the text behind it. -/
def tagAt? : List Char → Option (List Char × List Char)
  | '[' :: c :: cs =>
    if isTagStart c then
      let isBody (d : Char) : Bool := d != '[' && d != ']'
      match cs.dropWhile isBody with
      | ']' :: after => some (c :: cs.takeWhile isBody, after)
      | _ => none
    else none
  | _ => none

/-- A run of plain text, or a tag with the number of backslashes in front of it. -/
inductive Piece where
  | text (chars : List Char)
  | tag (backslashes : Nat) (content : List Char)
deriving DecidableEq, Repr

/-- Adds a character in front of pieces. -/
def addChar (c : Char) : List Piece → List Piece
  | .text cs :: pieces => .text (c :: cs) :: pieces
  | pieces => .text [c] :: pieces

/-- The pieces of a text of at most `bound` characters. -/
def piecesWithin : Nat → List Char → List Piece
  | 0, _ => []
  | _ + 1, [] => []
  | bound + 1, c :: cs =>
    let backslashes := ((c :: cs).takeWhile (· == '\\')).length
    match tagAt? ((c :: cs).drop backslashes) with
    | some (content, after) => .tag backslashes content :: piecesWithin bound after
    | none => addChar c (piecesWithin bound cs)

/-- The pieces of a text. -/
def pieces (cs : List Char) : List Piece := piecesWithin cs.length cs

/-! ## Escaping -/

/-- A piece with its tag made plain text. -/
def escapePiece : Piece → List Char
  | .text cs => cs
  | .tag backslashes content =>
    List.replicate (2 * backslashes + 1) '\\' ++ '[' :: (content ++ [']'])

/-- Doubles a single backslash at the end of a text. -/
def guardEnd (cs : List Char) : List Char :=
  match cs.reverse with
  | '\\' :: '\\' :: _ => cs
  | '\\' :: _ => cs ++ ['\\']
  | _ => cs

/-- A text in which no tag is one any more. -/
def escape (text : String) : String :=
  String.ofList (guardEnd ((pieces text.toList).flatMap escapePiece))

/-- A run of text that is no part of a tag, whatever stands behind it. -/
structure Untagged (run : List Char) : Prop where
  bracket : '[' ∉ run
  ending : run.getLast? ≠ some '\\'

end ThriftSchema.Text
