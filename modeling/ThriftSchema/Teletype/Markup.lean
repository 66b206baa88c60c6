import ThriftSchema.Teletype.Literal
import ThriftSchema.Teletype.Style
import ThriftSchema.Teletype.Width
import ThriftSchema.Text.Escape
import ThriftSchema.Text.Word

set_option autoImplicit false

/-! # Texts with tags on a teletype

Without colours only the text between the tags is left. Behind an equals sign a tag has an
argument. That of a style is part of it; that of an action, whose name starts with `@`, has to be
a literal, or a call of a handler with literals, once the tag is closed.

* `plain`: what is printed of a text with tags, unless a tag is wrong.
* `printedLines`: the lines that are printed for a text.
-/

namespace ThriftSchema.Teletype

open Text

/-! ## Printing -/

/-- Why a text with tags cannot be printed. -/
inductive MarkupError where
  /-- A closing tag that closes nothing. -/
  | nothingToClose (content : String)
  /-- An action whose argument is no literal. -/
  | badArgument (argument : String)
  /-- A style with a colour that cannot be read. -/
  | badStyle (error : ColorError)
deriving Repr

/-- The message of an error. -/
def MarkupError.message : MarkupError → String
  | nothingToClose content => "closing tag [" ++ content ++ "] closes nothing"
  | badArgument argument => "no literal: " ++ argument
  | badStyle .unknown => "no style"
  | badStyle (.notNumber component) => "no number: " ++ component

/-- Whether a text that is printed loses a character: the bell, the backspace, the vertical
tab, the form feed and the return. -/
def isDropped (c : Char) : Bool :=
  let n := c.toNat
  n == 7 || n == 8 || n == 11 || n == 12 || n == 13

/-- Plain text as it is printed: a backslash in front of a bracket is left out. -/
def printedChars : List Char → List Char
  | '\\' :: '[' :: cs => '[' :: printedChars cs
  | c :: cs => if isDropped c then printedChars cs else c :: printedChars cs
  | [] => []

/-- A tag that opens a style or an action: its name, and the text behind its equals sign. -/
structure OpenTag where
  name : String
  argument : Option (List Char)
deriving DecidableEq, Repr

/-- The name by which a closing tag finds an opening one. -/
def tagName (cs : List Char) : Except MarkupError String := (styleName cs).mapError .badStyle

/-- The opening tag of a content. -/
def openTag (content : List Char) : Except MarkupError OpenTag := do
  let name ← tagName (content.takeWhile (· != '='))
  return ⟨name, (content.dropWhile (· != '=')).tail?⟩

/-- The literal in the argument of an action: what a handler is called with, which is nothing
if only its name is there, or the whole argument if there is no handler. -/
def actionLiteral (argument : List Char) : List Char :=
  let argument := trimBlanks argument
  match argument.dropWhile fun c => isWordPart c || c == '.' with
  | [] => ['(', ')']
  | '(' :: cs =>
    if cs.getLast? = some ')' && !cs.contains '\n' then '(' :: cs else argument
  | _ => argument

/-- Whether an action has a good argument or none. Styles are not looked at. -/
def OpenTag.hasGoodArgument (tag : OpenTag) : Bool :=
  tag.name.toList.head? != some '@'
    || tag.argument.all fun argument => argument.isEmpty || isLiteral (actionLiteral argument)

/-- The text of the style that a tag opens. -/
def OpenTag.styleText (tag : OpenTag) : List Char :=
  match tag.argument with
  | none => tag.name.toList
  | some argument => tag.name.toList ++ ' ' :: argument

/-- Takes the first tag of a name away, if there is one. -/
def takeTag? (name : String) : List OpenTag → Option (OpenTag × List OpenTag)
  | [] => none
  | tag :: tags =>
    if tag.name = name then some (tag, tags)
    else (takeTag? name tags).map fun (taken, others) => (taken, tag :: others)

/-- The tags that are open behind a tag, the latest first. -/
def applyTag (content : List Char) (opened : List OpenTag) :
    Except MarkupError (List OpenTag) := do
  match content.takeWhile (· != '=') with
  | '/' :: cs =>
    let taken ←
      if (trimBlanks cs).isEmpty then .ok (opened.head?.map fun tag => (tag, opened.tail))
      else (tagName cs).map fun name => takeTag? name opened
    match taken with
    | none => throw (.nothingToClose (String.ofList content))
    | some (tag, others) =>
      if tag.hasGoodArgument then return others
      else throw (.badArgument (String.ofList (tag.argument.getD [])))
  | _ => return (← openTag content) :: opened

/-- What is printed of pieces behind which the given tags are open. -/
def printPieces : List Piece → List OpenTag → Except MarkupError (List Char)
  | [], _ => .ok []
  | .text cs :: pieces, opened => do
    let rest ← printPieces pieces opened
    return printedChars cs ++ rest
  | .tag backslashes content :: pieces, opened => do
    let shown := List.replicate (backslashes / 2) '\\'
    if backslashes % 2 = 1 then
      let rest ← printPieces pieces opened
      return shown ++ printedChars ('[' :: (content ++ [']'])) ++ rest
    else
      let opened ← applyTag content opened
      let rest ← printPieces pieces opened
      return shown ++ rest

/-- Refuses a style that no text can be drawn in. What is no style at all draws nothing. -/
def checkStyle (tag : OpenTag) : Except MarkupError Unit :=
  match Style.read tag.styleText with
  | .error (.notNumber component) => .error (.badStyle (.notNumber component))
  | _ => .ok ()

/-- Looks at the styles of opening tags, which are drawn when all tags are in order. -/
def checkStyles (pieces : List Piece) : Except MarkupError Unit :=
  pieces.forM fun piece =>
    match piece with
    | .tag backslashes content =>
      if backslashes % 2 = 1 || content.head? = some '/' then .ok ()
      else do checkStyle (← openTag content)
    | .text _ => .ok ()

/-- What is printed of a text with tags. -/
def plain (text : String) : Except MarkupError String := do
  let pieces := pieces text.toList
  let shown ← printPieces pieces []
  checkStyles pieces
  return String.ofList shown

/-! ## Lines -/

/-- The parts of a line between its tabs, each tab replaced by spaces up to the next multiple of
eight cells; the line starts at a column. -/
def expandParts : List (List Char) → Nat → List Char
  | [], _ => []
  | [part], _ => part
  | part :: parts, column =>
    let part := part ++ [' ']
    let reached := column + widthOf part
    let next := (reached + 7) / 8 * 8
    part ++ List.replicate (next - reached) ' ' ++ expandParts parts next

/-- A line with its tabs replaced. -/
def expandTabs (line : List Char) : List Char := expandParts (splitChars '\t' line) 0

/-- The lines that are printed for a text with tags. -/
def printedLines (text : String) : Except MarkupError (List String) := do
  let shown ← plain text
  return (splitLines shown).map fun line => String.ofList (expandTabs line.toList)

end ThriftSchema.Teletype
