import ThriftSchema.Source.Encoding.Grid.Big5
import ThriftSchema.Source.Encoding.Grid.Gb2312
import ThriftSchema.Source.Encoding.Grid.Gbk
import ThriftSchema.Source.Encoding.Grid.HongKong

set_option autoImplicit false

/-! # Chinese encodings

GBK and GB 18030 fill the pairs of bytes that GB 2312 leaves free, GB 18030 has four bytes for
all other code points, and HZ writes GB 2312 between marks of ASCII. Big5 has extensions of its
own.

* `gb2312Pair?`, `gbkPair?`, `gb18030Step`, `hzStep`: simplified Chinese.
* `big5Pair?`, `cp950Pair?`, `hongKongPair?`: traditional Chinese.
-/

namespace ThriftSchema

open CharacterGrid

/-! ## GB 2312 and GBK -/

/-- The character of GB 2312 of two bytes with their top bits set. -/
def gb2312Char? (lead trail : UInt8) : Option Char :=
  let (row, column) := dropTopBits lead trail
  gb2312.char? row column

/-- The text of two bytes of GB 2312. -/
def gb2312Pair? (lead trail : UInt8) : Option (List Char) :=
  (gb2312Char? lead trail).map ([·])

/-- The bytes that follow a lead byte in GBK and are not those of GB 2312. -/
def gbkLowTrails : List (Nat × Nat) := [(0x40, 0x7e), (0x80, 0xa0)]

/-- The bytes that follow a lead byte in GBK. -/
def gbkTrails : List (Nat × Nat) := [(0x40, 0x7e), (0x80, 0xfe)]

/-- The ideographs that GBK adds: those of the first version of Unicode that GB 2312 lacks, in
rising order, and some compatible ones. -/
def gbkIdeographs : Thunk (Array Char) :=
  Thunk.mk fun _ => codesWithout gb2312.chars 0x4e00 0x9fa5 ++ gbkLast.toList.toArray

/-- The number of an added ideograph of two bytes: the rows up to `A0` come first. -/
def gbkIndex? (lead trail : UInt8) : Option Nat :=
  if 0x81 ≤ lead && lead ≤ 0xa0 then
    (columnIn? gbkTrails trail.toNat).map (190 * (lead.toNat - 0x81) + ·)
  else if 0xaa ≤ lead && lead ≤ 0xfe then
    (columnIn? gbkLowTrails trail.toNat).map (190 * 32 + 96 * (lead.toNat - 0xaa) + ·)
  else none

/-- The character of two bytes of GBK. -/
def gbkChar? (lead trail : UInt8) : Option Char :=
  let (row, column) := dropTopBits lead trail
  let sign := (columnIn? gbkLowTrails trail.toNat).bind (gbkSigns.char? lead.toNat)
  let ideograph := (gbkIndex? lead trail).bind fun index => gbkIdeographs.get[index]?
  ((gbkChanges.char? row column).or (gb2312.char? row column)).or (sign.or ideograph)

/-- The text of two bytes of GBK. -/
def gbkPair? (lead trail : UInt8) : Option (List Char) :=
  (gbkChar? lead trail).map ([·])

/-! ## GB 18030 -/

/-- The private character of two bytes in the three areas of GB 18030 for private use. -/
def privateChar? (lead trail : UInt8) : Option Char :=
  let a := lead.toNat
  let high := columnIn? [(0xa1, 0xfe)] trail.toNat
  let low := columnIn? gbkLowTrails trail.toNat
  let char (first width : Nat) (column : Nat) : Char := Char.ofNat (first + width + column)
  if 0xaa ≤ a && a ≤ 0xaf then high.map (char 0xe000 (94 * (a - 0xaa)))
  else if 0xf8 ≤ a && a ≤ 0xfe then high.map (char 0xe234 (94 * (a - 0xf8)))
  else if 0xa1 ≤ a && a ≤ 0xa7 then low.map (char 0xe4c6 (96 * (a - 0xa1)))
  else none

/-- The pairs of bytes with the lead bytes and trail bytes of GBK. -/
def gbkPlaces : List (UInt8 × UInt8) :=
  (List.range 126).flatMap fun row => (List.range 190).map fun column =>
    (UInt8.ofNat (0x81 + row), UInt8.ofNat (if column < 63 then 0x40 + column else 0x41 + column))

/-- The pairs of bytes that GBK leaves free outside the areas for private use. -/
def gbkGaps : Thunk (List (UInt8 × UInt8)) :=
  Thunk.mk fun _ => gbkPlaces.filter fun (lead, trail) =>
    (gbkChar? lead trail).isNone && (privateChar? lead trail).isNone

/-- The character of two bytes that GBK leaves free: one that was filled in, or a private one. -/
def gapChar? (lead trail : UInt8) : Option Char := do
  let index ← gbkGaps.get.findIdx? (· == (lead, trail))
  let filled ← gb18030Filled.toList[index]?
  return if filled = noChar then Char.ofNat (0xe766 + index) else filled

/-- The character of two bytes of GB 18030. -/
def gb18030Char? (lead trail : UInt8) : Option Char :=
  (gbkChar? lead trail).or ((privateChar? lead trail).or (gapChar? lead trail))

/-- The characters of the first plane of Unicode that have no two bytes, in rising order. -/
def gb18030Rest : Thunk (Array Char) :=
  Thunk.mk fun _ =>
    codesWithout (gbkPlaces.filterMap fun (lead, trail) => gb18030Char? lead trail) 0x80 0xffff

/-- The character of four bytes: those of the first plane by their number, the others by their
code points. -/
def gb18030Long? (a b c d : UInt8) : Option Char :=
  if a < 0x81 || a = 0xff || c < 0x81 || c = 0xff || d < 0x30 || 0x39 < d then none
  else
    let lower := (b.toNat - 0x30) * 1260 + (c.toNat - 0x81) * 10 + (d.toNat - 0x30)
    let high := a.toNat - 0x81
    if high < 4 then gb18030Rest.get[high * 12600 + lower]?
    else if high < 15 then none
    else
      let code := 0x10000 + (high - 15) * 12600 + lower
      if 0x10ffff < code then none else some (Char.ofNat code)

/-- The piece at the head of bytes of GB 18030. -/
def gb18030Step : Unit → Bytes → Step Unit
  | _, [] => .ok ([], 1, ())
  | _, a :: bytes =>
    if a < 0x80 then .ok ([byteChar a], 1, ())
    else match bytes with
    | [] => incompleteBytes [a]
    | b :: rest =>
      if 0x30 ≤ b && b ≤ 0x39 then
        match rest with
        | c :: d :: _ =>
          match gb18030Long? a b c d with
          | some char => .ok ([char], 4, ())
          | none => illegalByte
        | _ => incompleteBytes (a :: bytes)
      else match gb18030Char? a b with
      | some c => .ok ([c], 2, ())
      | none => illegalByte

/-! ## HZ -/

/-- The piece at the head of bytes of HZ; the state tells whether GB 2312 is on. -/
def hzStep : Bool → Bytes → Step Bool
  | on, [] => .ok ([], 1, on)
  | on, a :: bytes =>
    if a = 0x7e then
      match bytes with
      | [] => incompleteBytes [a]
      | b :: _ =>
        if b = 0x7e && !on then .ok (['~'], 2, on)
        else if b = 0x7b && !on then .ok ([], 2, true)
        else if b = 0x0a && !on then .ok ([], 2, on)
        else if b = 0x7d && on then .ok ([], 2, false)
        else illegalByte
    else if 0x80 ≤ a then illegalByte
    else if !on then .ok ([byteChar a], 1, on)
    else match bytes with
    | [] => incompleteBytes [a]
    | b :: _ =>
      match gb2312.char? a.toNat b.toNat with
      | some c => .ok ([c], 2, on)
      | none => illegalByte

/-! ## Big5 -/

/-- The bytes that follow a lead byte in Big5. -/
def big5Trails : List (Nat × Nat) := [(0x40, 0x7e), (0xa1, 0xfe)]

/-- The character of two bytes in grids with the columns of Big5. -/
def big5Columns? (grids : List CharacterGrid) (lead trail : UInt8) : Option Char := do
  let column ← columnIn? big5Trails trail.toNat
  grids.findSome? fun grid => grid.char? lead.toNat column

/-- The text of two bytes of Big5. -/
def big5Pair? (lead trail : UInt8) : Option (List Char) :=
  (big5Columns? [big5] lead trail).map ([·])

/-- The signs that code page 950 takes in place of those of Big5. -/
def cp950Changes : List (Nat × Char) := [
  (0xa145, '‧'), (0xa14e, '﹑'), (0xa1c2, '¯'), (0xa1e3, '～'), (0xa1f2, '⊕'), (0xa1f3, '⊙'),
  (0xa241, '∕'), (0xa242, '﹨'), (0xa244, '￥'), (0xa246, '￠'), (0xa247, '￡'), (0xa3e1, '€')]

/-- The characters that code page 950 adds at the end of the row `F9`. -/
def cp950Last : String := "碁銹裏墻恒粧嫺╔╦╗╠╬╣╚╩╝╒╤╕╞╪╡╘╧╛╓╥╖╟╫╢╙╨╜║═╭╮╰╯▓"

/-- The text of two bytes of code page 950. -/
def cp950Pair? (lead trail : UInt8) : Option (List Char) :=
  let changed := cp950Changes.lookup (lead.toNat * 256 + trail.toNat)
  let added := if lead = 0xf9 && 0xd6 ≤ trail then cp950Last.toList[trail.toNat - 0xd6]? else none
  ((changed.or added).or (big5Columns? [big5] lead trail)).map ([·])

/-- Whether two bytes are in the part of Big5 that the Hong Kong set replaces. -/
def isReplaced (lead trail : UInt8) : Bool :=
  let place := lead.toNat * 256 + trail.toNat
  0xc6a1 ≤ place && place ≤ 0xc8ff

/-- The text of two bytes of Big5 with the Hong Kong set. -/
def hongKongPair? (lead trail : UInt8) : Option (List Char) :=
  let old := if isReplaced lead trail then none else big5Columns? [big5] lead trail
  let new := big5Columns? [hongKongLow, hongKongMiddle, hongKongHigh] lead trail
  match old.or new with
  | some c => some [c]
  | none => (hongKongPairs.lookup (lead.toNat * 256 + trail.toNat)).map String.toList

end ThriftSchema
