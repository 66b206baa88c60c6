import ThriftSchema.Text.Blank
import ThriftSchema.Teletype.Color

set_option autoImplicit false

/-! # Styles

A style is written in words: attributes, a colour, a colour of the background behind `on`, and
a target behind `link`. The same style can be written in several ways; its text has the
attributes in a fixed order, and then the colours and the target.

* `Style`: the type.
* `Style.read`, `Style.text`: from and to text.
* `styleName`: the text that stands for all ways to write a style.
-/

namespace ThriftSchema.Teletype

open Text

/-! ## Attributes -/

/-- A way to draw characters. -/
inductive Attribute where
  | bold
  | dim
  | italic
  | underline
  | blink
  | fastBlink
  | reverse
  | conceal
  | strike
  | doubleUnderline
  | frame
  | encircle
  | overline
deriving DecidableEq, Repr

/-- The attributes in the order in which they are written. -/
def Attribute.all : List Attribute := [
  .bold, .dim, .italic, .underline, .blink, .fastBlink, .reverse, .conceal, .strike,
  .doubleUnderline, .frame, .encircle, .overline]

/-- The name of an attribute. -/
def Attribute.name : Attribute → String
  | bold => "bold"
  | dim => "dim"
  | italic => "italic"
  | underline => "underline"
  | blink => "blink"
  | fastBlink => "blink2"
  | reverse => "reverse"
  | conceal => "conceal"
  | strike => "strike"
  | doubleUnderline => "underline2"
  | frame => "frame"
  | encircle => "encircle"
  | overline => "overline"

/-- The short name of an attribute that has one. -/
def Attribute.shortName : Attribute → Option String
  | bold => some "b"
  | dim => some "d"
  | italic => some "i"
  | underline => some "u"
  | reverse => some "r"
  | conceal => some "c"
  | strike => some "s"
  | doubleUnderline => some "uu"
  | overline => some "o"
  | _ => none

/-- The attribute of a word. -/
def attribute? (word : String) : Option Attribute :=
  Attribute.all.find? fun look => look.name = word || look.shortName = some word

/-! ## Styles -/

/-- A style: the attributes that are on or off, the last setting of each first, the colours and
the target. -/
structure Style where
  attributes : List (Attribute × Bool)
  color : Option String
  background : Option String
  link : Option String
deriving DecidableEq, Repr

namespace Style

/-- The style that sets nothing. -/
def plain : Style := ⟨[], none, none, none⟩

/-- The words of the attributes that a style sets. -/
def attributeWords (style : Style) : List String :=
  Attribute.all.filterMap fun look =>
    (style.attributes.lookup look).map fun isOn =>
      if isOn then look.name else "not " ++ look.name

/-- The text of a style. -/
def text (style : Style) : String :=
  let words := style.attributeWords ++ style.color.toList
    ++ (style.background.map ("on " ++ ·)).toList ++ (style.link.map ("link " ++ ·)).toList
  if words.isEmpty then "none" else " ".intercalate words

/-- A style with what words ask for. -/
def readWords : List String → Style → Except ColorError Style
  | [], style => .ok style
  | word :: words, style =>
    match lowerCase word, words with
    | "on", color :: rest => do
      let color := lowerCase color
      readColor color
      readWords rest { style with background := some color }
    | "not", name :: rest =>
      match attribute? name with
      | some look => readWords rest { style with attributes := (look, false) :: style.attributes }
      | none => .error .unknown
    | "link", target :: rest => readWords rest { style with link := some target }
    | "on", [] | "not", [] | "link", [] => .error .unknown
    | name, rest =>
      match attribute? name with
      | some look => readWords rest { style with attributes := (look, true) :: style.attributes }
      | none => do
        readColor name
        readWords rest { style with color := some name }

/-- The style of a text. The word `none` alone sets nothing. -/
def read (cs : List Char) : Except ColorError Style :=
  if trimBlanks cs = "none".toList then .ok plain else readWords (wordsOf cs) plain

end Style

/-- The text that stands for all ways to write a style: that of the style, and in lower case and
without blanks at its ends what is none. -/
def styleName (cs : List Char) : Except ColorError String :=
  match Style.read cs with
  | .ok style => .ok style.text
  | .error .unknown => .ok (lowerCase (String.ofList (trimBlanks cs)))
  | .error error => .error error

end ThriftSchema.Teletype
