import ThriftSchema.Source.Encoding.Grid.Jis0208
import ThriftSchema.Source.Encoding.Grid.Jis0212
import ThriftSchema.Source.Encoding.Grid.Jis0213
import ThriftSchema.Source.Encoding.Grid.Vendor932

set_option autoImplicit false

/-! # Japanese encodings

Shift JIS and EUC write the same character sets by other bytes: Shift JIS folds two rows into
one lead byte, EUC sets the top bit of the row and of the column and marks the further sets by a
byte in front.

* `shiftJisStep`, `cp932Step`, `shiftJis0213Step`: pieces of Shift JIS and its extensions.
* `eucJpStep`, `eucJis0213Step`: pieces of EUC and its extension.
-/

namespace ThriftSchema

open CharacterGrid

/-! ## Character sets -/

/-- The half-width syllable of a byte. -/
def halfKana? (byte : UInt8) : Option Char :=
  if 0xa1 ≤ byte && byte ≤ 0xdf then some (Char.ofNat (0xfec0 + byte.toNat)) else none

/-- The two editions of JIS X 0213. -/
inductive Edition where
  | first
  | second
deriving DecidableEq, Repr

/-- Whether an edition leaves a place of the first plane free that the other one fills. -/
def isLate (edition : Edition) (row column : Nat) : Bool :=
  edition = .first && jis0213Late.contains (row * 256 + column)

/-- The text at a place of the first plane of JIS X 0213. -/
def jis0213First? (edition : Edition) (row column : Nat) : Option (List Char) :=
  let place := row * 256 + column
  if isLate edition row column then none
  else match jis0208.char? row column with
  | some c => some [c]
  | none =>
    match jis0213First.char? row column with
    | some c => some [c]
    | none =>
      if place = 0x2232 then some ['~'] else (jis0213Pairs.lookup place).map String.toList

/-- The text at a place of the second plane of JIS X 0213. One place holds another form of its
ideograph in the first edition. -/
def jis0213Second? (edition : Edition) (row column : Nat) : Option (List Char) :=
  if edition = .first && row = 0x7d && column = 0x3b then some ['鬝']
  else (jis0213Second.char? row column).map ([·])

/-- The text of some bytes, or how many bytes at their head are illegal. -/
abbrev Found := Except Nat (List Char)

/-- The text that was found, or that the first byte is illegal. -/
def found : Option (List Char) → Found
  | some text => .ok text
  | none => .error 1

/-- The text at a place of the first plane of JIS X 0213. A place that is still free makes both
bytes illegal. -/
def findFirst (edition : Edition) (row column : Nat) : Found :=
  if isLate edition row column then .error 2 else found (jis0213First? edition row column)

/-- The piece of bytes with a text that was looked for. -/
def foundStep (length : Nat) : Found → Step Unit
  | .ok text => .ok (text, length, ())
  | .error illegal => .error (illegal, .illegalSequence)

/-! ## Shift JIS -/

/-- The lead bytes of Shift JIS. -/
def shiftJisLeads : List (Nat × Nat) := [(0x81, 0x9f), (0xe0, 0xea)]

/-- The lead bytes of the extensions of Shift JIS. -/
def extendedLeads : List (Nat × Nat) := [(0x81, 0x9f), (0xe0, 0xfc)]

/-- The row, counted from zero, and the column of two bytes of Shift JIS. -/
def shiftJisPlace? (lead trail : UInt8) : Option (Nat × Nat) := do
  let high ← columnIn? extendedLeads lead.toNat
  let low ← columnIn? [(0x40, 0x7e), (0x80, 0xfc)] trail.toNat
  return (2 * high + low / 94, low % 94 + 0x21)

/-- The piece at the head of bytes of a Shift JIS encoding: single bytes with a character of
their own, and pairs behind the lead bytes of some ranges. -/
def shiftStep (single? : UInt8 → Option Char) (leads : List (Nat × Nat))
    (findPair : UInt8 → UInt8 → Found) : Bytes → Step Unit
  | [] => .ok ([], 1, ())
  | a :: bytes =>
    match single? a with
    | some c => .ok ([c], 1, ())
    | none =>
      if (columnIn? leads a.toNat).isNone then illegalByte
      else match bytes with
      | [] => incompleteBytes [a]
      | b :: _ => foundStep 2 (findPair a b)

/-- The character of JIS X 0208 of two bytes of Shift JIS. -/
def shiftJis0208? (lead trail : UInt8) : Option (List Char) := do
  let (row, column) ← shiftJisPlace? lead trail
  let c ← jis0208.char? (row + 0x21) column
  return [c]

/-- The character of a single byte of Shift JIS. -/
def shiftJisSingle? (byte : UInt8) : Option Char :=
  if byte < 0x80 then some (byteChar byte) else halfKana? byte

/-- The piece at the head of bytes of Shift JIS. -/
def shiftJisStep (_ : Unit) (bytes : Bytes) : Step Unit :=
  shiftStep shiftJisSingle? shiftJisLeads (fun a b => found (shiftJis0208? a b)) bytes

/-- The single bytes that only code page 932 has a character for. -/
def cp932Single? (byte : UInt8) : Option Char :=
  if byte ≤ 0x80 then some (byteChar byte)
  else if byte = 0xa0 then some (Char.ofNat 0xf8f0)
  else if 0xfd ≤ byte then some (Char.ofNat (0xf8f1 + byte.toNat - 0xfd))
  else halfKana? byte

/-- The signs that code page 932 takes in place of those of JIS X 0208. -/
def cp932Changes : List (Nat × Char) := [
  (0x8160, '～'), (0x8161, '∥'), (0x817c, '－'), (0x8191, '￠'), (0x8192, '￡'), (0x81ca, '￢')]

/-- The character of two bytes of code page 932; ten rows are for private use. -/
def cp932Pair? (lead trail : UInt8) : Option (List Char) := do
  let column ← columnIn? [(0x40, 0x7e), (0x80, 0xfc)] trail.toNat
  let place := lead.toNat * 256 + trail.toNat
  let vendor := [vendorSigns, vendorSelected, vendorExtended].findSome? fun grid =>
    grid.char? lead.toNat column
  match (cp932Changes.lookup place).or vendor with
  | some c => some [c]
  | none =>
    if lead ≤ 0xea then shiftJis0208? lead trail
    else if 0xf0 ≤ lead && lead ≤ 0xf9 then
      some [Char.ofNat (0xe000 + 188 * (lead.toNat - 0xf0) + column)]
    else none

/-- The piece at the head of bytes of code page 932. -/
def cp932Step (_ : Unit) (bytes : Bytes) : Step Unit :=
  shiftStep cp932Single? extendedLeads (fun a b => found (cp932Pair? a b)) bytes

/-- The row of the second plane that a row behind the first plane holds. -/
def secondPlaneRow (row : Nat) : Nat :=
  if 0x67 ≤ row then row + 0x07
  else if 0x63 ≤ row || row = 0x5f then row - 0x37
  else row - 0x3d

/-- The text of two bytes of Shift JIS with JIS X 0213. -/
def shiftJis0213Pair (edition : Edition) (lead trail : UInt8) : Found :=
  match shiftJisPlace? lead trail with
  | none => .error 1
  | some (row, column) =>
    if row = 0 && column = 0x40 then .ok ['\\']
    else if row < 0x5e then findFirst edition (row + 0x21) column
    else found (jis0213Second? edition (secondPlaneRow row) column)

/-- The character of a single byte of Shift JIS with JIS X 0213, where a yen sign and an overline
stand in place of two signs of ASCII. -/
def shiftJis0213Single? (byte : UInt8) : Option Char :=
  if byte = 0x5c then some '¥' else if byte = 0x7e then some '‾' else shiftJisSingle? byte

/-- The piece at the head of bytes of Shift JIS with JIS X 0213. -/
def shiftJis0213Step (edition : Edition) (_ : Unit) (bytes : Bytes) : Step Unit :=
  shiftStep shiftJis0213Single? extendedLeads (shiftJis0213Pair edition) bytes

/-! ## EUC -/

/-- The piece at the head of bytes of a Japanese EUC: pairs of two bytes, a half-width syllable
behind `8E`, and a pair of a further set behind `8F`. -/
def eucStep (findPair findFurther : Nat → Nat → Found) : Bytes → Step Unit
  | [] => .ok ([], 1, ())
  | a :: bytes =>
    if a < 0x80 then .ok ([byteChar a], 1, ())
    else if a = 0x8f then
      match bytes with
      | b :: c :: _ =>
        let (row, column) := dropTopBits b c
        foundStep 3 (findFurther row column)
      | _ => incompleteBytes (a :: bytes)
    else match bytes with
    | [] => incompleteBytes [a]
    | b :: _ =>
      if a = 0x8e then foundStep 2 (found ((halfKana? b).map ([·])))
      else
        let (row, column) := dropTopBits a b
        foundStep 2 (findPair row column)

/-- The piece at the head of bytes of EUC. -/
def eucJpStep (_ : Unit) (bytes : Bytes) : Step Unit :=
  eucStep (fun row column => found ((jis0208.char? row column).map ([·])))
    (fun row column => found ((jis0212.char? row column).map ([·]))) bytes

/-- The text at a place of the first plane in EUC, which has a full-width tilde. -/
def eucFirst (edition : Edition) (row column : Nat) : Found :=
  if row = 0x22 && column = 0x32 then .ok ['～'] else findFirst edition row column

/-- The text at a place of the second plane, or else of JIS X 0212. -/
def eucSecond (edition : Edition) (row column : Nat) : Found :=
  found ((jis0213Second? edition row column).or ((jis0212.char? row column).map ([·])))

/-- The piece at the head of bytes of EUC with JIS X 0213. -/
def eucJis0213Step (edition : Edition) (_ : Unit) (bytes : Bytes) : Step Unit :=
  eucStep (eucFirst edition) (eucSecond edition) bytes

end ThriftSchema
