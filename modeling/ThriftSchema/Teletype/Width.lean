import ThriftSchema.Teletype.CellRanges
import ThriftSchema.Text.Range

set_option autoImplicit false

/-! # Width of a text in teletype cells

Tables and panels line their cells up by the width a teletype gives a text: East Asian wide
characters take two cells, combining marks and controls none, and all others one. The character
behind a joiner is drawn together with the one in front of it and takes no cell, and a selector
gives a second cell to a narrow character that can be shown as an emoji.

* `cellWidth`: the width of one character.
* `textWidth`: the width of a text.
* `padRight`, `centred`: a text filled with spaces up to a width.
-/

namespace ThriftSchema.Teletype

open Text

/-! ## Characters -/

/-- The number of cells of one character. -/
def cellWidth (c : Char) : Nat :=
  if 32 ≤ c.toNat && c.toNat < 127 then 1
  else if isIn zeroWidthRanges c then 0
  else if isIn wideRanges c then 2
  else 1

/-- The character that joins the ones around it. -/
def joiner : Char := '\u200d'

/-- The character that asks for the one in front of it to be shown as an emoji. -/
def emojiSelector : Char := '\ufe0f'

/-! ## Texts -/

/-- The cells of the characters so far, the last one of them that a selector can still widen, and
whether a joiner stands at the end. -/
structure Measure where
  cells : Nat
  last : Option Char
  joined : Bool

/-- The measure of no characters. -/
def Measure.start : Measure := ⟨0, none, false⟩

/-- The measure with a selector. -/
def Measure.select (measure : Measure) : Measure :=
  match measure.last with
  | none => measure
  | some c =>
    { measure with
      cells := measure.cells + (if isIn selectableRanges c then 1 else 0)
      last := none }

/-- The measure with one more character. -/
def Measure.next (measure : Measure) (c : Char) : Measure :=
  if measure.joined then { measure with joined := false }
  else if c = joiner then { measure with joined := true }
  else if c = emojiSelector then measure.select
  else
    let width := cellWidth c
    if width = 0 then measure else ⟨measure.cells + width, some c, false⟩

/-- The number of cells of characters. -/
def widthOf (cs : List Char) : Nat := (cs.foldl Measure.next .start).cells

/-- The number of cells of a text. -/
def textWidth (text : String) : Nat := widthOf text.toList

/-- A text of spaces. -/
def spaces (count : Nat) : String :=
  String.ofList (List.replicate count ' ')

/-- A text filled with spaces on its right up to a width. -/
def padRight (width : Nat) (text : String) : String :=
  text ++ spaces (width - textWidth text)

/-- A text with spaces on both sides up to a width; an odd space goes to the right. -/
def centred (width : Nat) (text : String) : String :=
  let missing := width - textWidth text
  spaces (missing / 2) ++ text ++ spaces (missing - missing / 2)

end ThriftSchema.Teletype
