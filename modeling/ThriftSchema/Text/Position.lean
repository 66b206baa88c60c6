set_option autoImplicit false

/-! # Positions in a text

A position is an offset counted in characters. Lines are ended by newlines and counted from
one, and so are the columns within a line. Offsets given from outside may be negative and then
count from the end, as the ends of a slice do.

* `lineColumn`: the line and the column of an offset.
* `excerpt`: the line around an offset, clipped on both sides, with a caret below the offset.
-/

namespace ThriftSchema.Text

/-- The offset that a slice end stands for: a negative one counts from the end of the text,
and none lies beyond it. -/
def sliceEnd (length : Nat) (offset : Int) : Nat :=
  if offset < 0 then (length + offset).toNat else min offset.toNat length

/-- The characters between two slice ends. -/
def slice (cs : List Char) (first last : Int) : List Char :=
  let start := sliceEnd cs.length first
  (cs.drop start).take (sliceEnd cs.length last - start)

/-- The offset at which the last line of a text starts. -/
def lastLineStart (cs : List Char) : Nat :=
  cs.length - (cs.reverse.takeWhile (· != '\n')).length

/-- The line and the column of an offset, both counted from one. -/
def lineColumn (cs : List Char) (offset : Int) : Int × Int :=
  let before := cs.take (sliceEnd cs.length offset)
  (before.count '\n' + 1, offset - lastLineStart before + 1)

/-- The offset at which the line of an offset ends: that of its newline, or the length of the
text if no newline follows. -/
def lineEnd (cs : List Char) (offset : Int) : Nat :=
  let start := sliceEnd cs.length offset
  if cs.length < offset then cs.length
  else start + ((cs.drop start).takeWhile (· != '\n')).length

/-- A tab is shown as one space. -/
def blankTab (c : Char) : Char :=
  if c = '\t' then ' ' else c

/-- The line around an offset, at most `span` characters to each side, and below it a caret
at the offset. -/
def excerpt (cs : List Char) (offset span : Int) : String :=
  let start := lastLineStart (cs.take (sliceEnd cs.length offset))
  let left := max (start : Int) (offset - span)
  let right := min (lineEnd cs offset : Int) (offset + span)
  String.ofList <|
    (slice cs left right).map blankTab
      ++ '\n' :: (List.replicate (offset - left).toNat ' ' ++ ['^', '\n'])

end ThriftSchema.Text
