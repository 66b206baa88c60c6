import ThriftSchema.Source.Encoding.CodePage

set_option autoImplicit false

/-! # Character sets in rows and columns

Sets of thousands of characters are laid out in rows and columns, which two bytes name.

* `CharacterGrid`, `CharacterGrid.char?`: the type, and the character at a place.
* `columnIn?`: the column of a byte if the columns leave some bytes out.
* `codesWithout`: the code points of a range that a set lacks.
* `pairStep`: reading characters of one byte below `80` or of two.
-/

namespace ThriftSchema

/-! ## Grids -/

/-- Rows of characters, with the numbers of the first row and of the first column. -/
structure CharacterGrid where
  firstRow : Nat
  firstColumn : Nat
  rows : Array String

namespace CharacterGrid

/-- The grid of some rows. -/
def ofRows (firstRow firstColumn : Nat) (rows : Array String) : CharacterGrid :=
  ⟨firstRow, firstColumn, rows⟩

/-- The character in a row and a column. -/
def char? (grid : CharacterGrid) (row column : Nat) : Option Char :=
  if row < grid.firstRow || column < grid.firstColumn then none
  else do
    let chars ← grid.rows[row - grid.firstRow]?
    let c ← chars.toList[column - grid.firstColumn]?
    if c = noChar then none else some c

/-- All characters of a grid, row by row. -/
def chars (grid : CharacterGrid) : List Char :=
  (grid.rows.toList.flatMap String.toList).filter (· != noChar)

end CharacterGrid

/-- The column of a byte, if the columns are the bytes of some closed ranges. -/
def columnIn? : List (Nat × Nat) → Nat → Option Nat
  | [], _ => none
  | (first, last) :: ranges, byte =>
    if first ≤ byte && byte ≤ last then some (byte - first)
    else (columnIn? ranges byte).map (· + (last + 1 - first))

/-- Whether a code point stands for no character alone. -/
def isSurrogateCode (code : Nat) : Bool := 0xd800 ≤ code && code < 0xe000

/-- The characters from `first` to `last` that are not among some others, in rising order. -/
def codesWithout (used : List Char) (first last : Nat) : Array Char :=
  let count := last + 1 - first
  let mark (marks : Array Bool) (c : Char) : Array Bool :=
    if c.toNat < first then marks else marks.setIfInBounds (c.toNat - first) true
  let marks := used.foldl mark (Array.replicate count false)
  let isFree (i : Nat) : Bool := !(marks[i]?.getD true) && !isSurrogateCode (first + i)
  ((List.range count).filter isFree).toArray.map fun i => Char.ofNat (first + i)

/-! ## Pairs of bytes -/

/-- The byte at the head is no text. -/
def illegalByte {σ : Type} : Step σ := .error (1, .illegalSequence)

/-- The last bytes start a character that does not end. -/
def incompleteBytes {σ : Type} (bytes : Bytes) : Step σ :=
  .error (bytes.length, .incompleteSequence)

/-- A place without the top bits of its two bytes. -/
def dropTopBits (a b : UInt8) : Nat × Nat := (a.toNat ^^^ 0x80, b.toNat ^^^ 0x80)

/-- The piece at the head of bytes, if those below `80` are ASCII and the others come in pairs
with a text of their own. -/
def pairStep (text? : UInt8 → UInt8 → Option (List Char)) : Unit → Bytes → Step Unit
  | _, [] => .ok ([], 1, ())
  | _, a :: bytes =>
    if a < 0x80 then .ok ([byteChar a], 1, ())
    else match bytes with
      | [] => incompleteBytes [a]
      | b :: _ =>
        match text? a b with
        | some text => .ok (text, 2, ())
        | none => illegalByte

end ThriftSchema
