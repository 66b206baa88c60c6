import ThriftSchema.Source.Encoding.Chinese
import ThriftSchema.Source.Encoding.Japanese
import ThriftSchema.Source.Encoding.Korean

set_option autoImplicit false

/-! # ISO 2022

Bytes of seven bits stand for characters of the set that is switched to. An escape names the set
of one of three registers; the first register is used, the second one after a shift, and the
third one for a single character. Any other escape stands for itself up to its last letter.

* `CharacterSet`, `Profile`: the sets, and which of them an encoding has.
* `iso2022Step`: the piece at the head of bytes.
-/

namespace ThriftSchema

open CharacterGrid

/-! ## Sets and profiles -/

/-- A set that an escape can name. -/
inductive CharacterSet where
  | ascii
  | latin1
  | greek
  | romanKana
  | halfKana
  | jis0208
  | jis0208Old
  | jis0212
  | jis0213First (edition : Edition)
  | jis0213Second (edition : Edition)
  | gb2312
  | ksx1001
deriving DecidableEq, Repr

/-- The last letter of the escape for a set. -/
def CharacterSet.letter : CharacterSet → Char
  | ascii => 'B'
  | latin1 => 'A'
  | greek => 'F'
  | romanKana => 'J'
  | halfKana => 'I'
  | jis0208 => 'B'
  | jis0208Old => '@'
  | jis0212 => 'D'
  | jis0213First .first => 'O'
  | jis0213First .second => 'Q'
  | jis0213Second _ => 'P'
  | gb2312 => 'A'
  | ksx1001 => 'C'

/-- Whether the characters of a set take two bytes. -/
def CharacterSet.isDouble : CharacterSet → Bool
  | ascii | latin1 | greek | romanKana | halfKana => false
  | _ => true

/-- The text of a byte in a set of single bytes. -/
def CharacterSet.single? (set : CharacterSet) (byte : UInt8) : Option (List Char) :=
  match set with
  | romanKana =>
    if byte = 0x5c then some ['¥'] else if byte = 0x7e then some ['‾'] else some [byteChar byte]
  | halfKana => (halfKana? (byte ^^^ 0x80)).map ([·])
  | _ => some [byteChar byte]

/-- The text of two bytes in a set of double bytes. -/
def CharacterSet.double? (set : CharacterSet) (a b : UInt8) : Option (List Char) :=
  let (row, column) := (a.toNat, b.toNat)
  match set with
  | jis0208 | jis0208Old => (CharacterGrid.jis0208.char? row column).map ([·])
  | jis0212 => (CharacterGrid.jis0212.char? row column).map ([·])
  | jis0213First edition => jis0213First? edition row column
  | jis0213Second edition => jis0213Second? edition row column
  | gb2312 => (CharacterGrid.gb2312.char? row column).map ([·])
  | ksx1001 => (CharacterGrid.ksx1001.char? row column).map ([·])
  | _ => none

/-- An encoding: its name, its sets besides ASCII, and which kinds of switches it knows. -/
structure Profile where
  codec : String
  sets : List CharacterSet
  /-- Whether there are shifts to the second register. -/
  shifts : Bool
  /-- Whether there is a third register. -/
  hasThird : Bool
  /-- Whether an escape for the revised JIS X 0208 can stand in front of that for the set. -/
  hasRevision : Bool
deriving DecidableEq, Repr

namespace Profile

/-- Korean. -/
def kr : Profile := ⟨"iso2022_kr", [.ksx1001], true, false, false⟩

/-- Japanese. -/
def jp : Profile := ⟨"iso2022_jp", [.jis0208, .romanKana, .jis0208Old], false, false, true⟩

/-- Japanese with JIS X 0212. -/
def jp1 : Profile :=
  ⟨"iso2022_jp_1", [.jis0208, .jis0212, .romanKana, .jis0208Old], false, false, true⟩

/-- Japanese with other languages. -/
def jp2 : Profile :=
  ⟨"iso2022_jp_2",
    [.jis0208, .jis0212, .ksx1001, .gb2312, .romanKana, .jis0208Old, .latin1, .greek],
    false, true, true⟩

/-- Japanese with JIS X 0213 in its second edition. -/
def jp2004 : Profile :=
  ⟨"iso2022_jp_2004", [.jis0208, .jis0213First .second, .jis0213Second .second],
    false, false, true⟩

/-- Japanese with JIS X 0213 in its first edition. -/
def jp3 : Profile :=
  ⟨"iso2022_jp_3", [.jis0208, .jis0213First .first, .jis0213Second .first], false, false, true⟩

/-- Japanese with half-width syllables. -/
def jpExt : Profile :=
  ⟨"iso2022_jp_ext", [.jis0208, .jis0212, .romanKana, .halfKana, .jis0208Old],
    false, false, true⟩

/-- The set of the last letter of an escape. -/
def set? (profile : Profile) (isDouble : Bool) (letter : UInt8) : Option CharacterSet :=
  if !isDouble && byteChar letter = 'B' then some .ascii
  else profile.sets.find? fun set => set.isDouble = isDouble && set.letter = byteChar letter

end Profile

/-! ## Escapes -/

/-- What is switched on: the registers, whether the second one is used, and whether an escape of
another kind is being passed through. -/
structure Shifts where
  first : CharacterSet
  second : CharacterSet
  third : CharacterSet
  shifted : Bool
  passing : Bool
deriving DecidableEq, Repr

/-- What is switched on at the start. -/
def Shifts.start : Shifts := ⟨.ascii, .ascii, .ascii, false, false⟩

/-- The escape mark. -/
def escapeMark : UInt8 := 0x1b

/-- Whether a byte ends an escape. -/
def endsEscape (byte : UInt8) : Bool := (0x41 ≤ byte && byte ≤ 0x5a) || byte = 0x40

/-- How many bytes of an escape are looked at. -/
def escapeLimit : Nat := 16

/-- The number of bytes of an escape that starts the bytes, from the index on; none if they end
before the escape does, and zero if it is too long. Behind the mark of a revision the last
letter of the mark does not end the escape. -/
def escapeLength? (profile : Profile) (bytes : Bytes) : Nat → Nat → Option Nat
  | 0, _ => some 0
  | rounds + 1, index =>
    if escapeLimit ≤ index then some 0
    else match bytes[index]? with
    | none => none
    | some byte =>
      if endsEscape byte then some (index + 1)
      else if profile.hasRevision && byte = 0x26 && bytes[index + 1]? = some 0x40 then
        escapeLength? profile bytes rounds (index + 3)
      else escapeLength? profile bytes rounds (index + 1)

/-- A register. -/
inductive Register where
  | first
  | second
  | third

/-- What is switched on after a register gets a set. -/
def Shifts.put (shifts : Shifts) (register : Register) (set : CharacterSet) : Shifts :=
  match register with
  | .first => { shifts with first := set }
  | .second => { shifts with second := set }
  | .third => { shifts with third := set }

/-- The register and the set of a complete escape. -/
def designation? (profile : Profile) (escape : Bytes) : Option (Register × CharacterSet) :=
  let put (register : Register) (isDouble : Bool) (letter : UInt8) :=
    (profile.set? isDouble letter).map fun set => (register, set)
  match escape with
  | [_, 0x24, letter] => put .first true letter
  | [_, 0x28, letter] => put .first false letter
  | [_, 0x29, letter] => put .second false letter
  | [_, 0x2e, letter] => if profile.hasThird then put .third false letter else none
  | [_, 0x24, 0x28, letter] => put .first true letter
  | [_, 0x24, 0x29, letter] => put .second true letter
  | [_, _, _, 0x1b, 0x24, 0x42] => if profile.hasRevision then put .first true 0x42 else none
  | _ => none

/-- The piece of an escape that names a set. -/
def designationStep (profile : Profile) (shifts : Shifts) (bytes : Bytes) : Step Shifts :=
  match escapeLength? profile bytes escapeLimit 1 with
  | none => incompleteBytes bytes
  | some 0 => illegalByte
  | some length =>
    match designation? profile (bytes.take length) with
    | some (register, set) => .ok ([], length, shifts.put register set)
    | none => .error (length, .illegalSequence)

/-- The character of a byte with its top bit set in the Greek set. -/
def greekChar? (byte : UInt8) : Option Char :=
  let n := byte.toNat
  let same := [0xa0, 0xa3, 0xa6, 0xa7, 0xa8, 0xa9, 0xab, 0xac, 0xad, 0xb0, 0xb1, 0xb2, 0xb3, 0xb7,
    0xbb, 0xbd]
  if n < 0xa0 || same.contains n then some (Char.ofNat n)
  else if 0xb4 ≤ n && n ≤ 0xfe && n ≠ 0xd2 then some (Char.ofNat (0x2d0 + n))
  else if n = 0xa1 then some '‘'
  else if n = 0xa2 then some '’'
  else if n = 0xaf then some '―'
  else none

/-- The character of a byte in the third register. -/
def thirdChar? (set : CharacterSet) (byte : UInt8) : Option Char :=
  match set with
  | .latin1 => if byte < 0x80 then some (Char.ofNat (byte.toNat + 0x80)) else none
  | .greek => greekChar? (byte ^^^ 0x80)
  | _ => if byte < 0x80 then some (byteChar byte) else none

/-- The piece of a character of the third register. -/
def thirdStep (shifts : Shifts) (bytes : Bytes) : Step Shifts :=
  match bytes with
  | _ :: _ :: byte :: _ =>
    match thirdChar? shifts.third byte with
    | some c => .ok ([c], 3, shifts)
    | none => .error (3, .illegalSequence)
  | _ => incompleteBytes bytes

/-- The bytes that can follow the escape mark of a set. -/
def designators : List UInt8 := [0x28, 0x29, 0x24, 0x2e, 0x26]

/-- The piece at an escape mark. -/
def escapeStep (profile : Profile) (shifts : Shifts) (bytes : Bytes) : Step Shifts :=
  match bytes with
  | mark :: next :: _ =>
    if designators.contains next then designationStep profile shifts bytes
    else if profile.hasThird && next = 0x4e then thirdStep shifts bytes
    else .ok ([byteChar mark], 1, { shifts with passing := true })
  | _ => incompleteBytes bytes

/-! ## Characters -/

/-- The piece of a character of the set in use. -/
def characterStep (shifts : Shifts) (bytes : Bytes) : Step Shifts :=
  let set := if shifts.shifted then shifts.second else shifts.first
  match bytes with
  | [] => .ok ([], 1, shifts)
  | a :: rest =>
    if set.isDouble then
      match rest with
      | [] => incompleteBytes bytes
      | b :: _ =>
        match set.double? a b with
        | some text => .ok (text, 2, shifts)
        | none => .error (2, .illegalSequence)
    else match set.single? a with
    | some text => .ok (text, 1, shifts)
    | none => illegalByte

/-- The piece at the head of bytes. A newline ends a shift. -/
def iso2022Step (profile : Profile) (shifts : Shifts) : Bytes → Step Shifts
  | [] => .ok ([], 1, shifts)
  | byte :: bytes =>
    let self := [byteChar byte]
    if shifts.passing then .ok (self, 1, { shifts with passing := !endsEscape byte })
    else if byte = escapeMark then escapeStep profile shifts (byte :: bytes)
    else if profile.shifts && byte = 0x0f then .ok ([], 1, { shifts with shifted := false })
    else if profile.shifts && byte = 0x0e then .ok ([], 1, { shifts with shifted := true })
    else if byte = 0x0a then .ok (self, 1, { shifts with shifted := false })
    else if byte < 0x20 then .ok (self, 1, shifts)
    else if 0x80 ≤ byte then illegalByte
    else characterStep shifts (byte :: bytes)

end ThriftSchema
