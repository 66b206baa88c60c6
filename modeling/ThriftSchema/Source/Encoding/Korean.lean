import ThriftSchema.Source.Encoding.Grid.Ksx1001

set_option autoImplicit false

/-! # Korean encodings

KS X 1001 holds the common syllables only. The encodings differ in how they write the others:
code page 949 numbers them, EUC spells them with letters, and Johab composes every syllable of
the numbers of its letters.

* `cp949Pair?`: code page 949.
* `eucKrStep`: EUC.
* `johabPair?`: Johab.
-/

namespace ThriftSchema

open CharacterGrid

/-! ## Code page 949 -/

/-- The character of KS X 1001 of two bytes with their top bits set. -/
def ksx1001Char? (lead trail : UInt8) : Option Char :=
  let (row, column) := dropTopBits lead trail
  ksx1001.char? row column

/-- The syllables that KS X 1001 lacks, in rising order. -/
def otherSyllables : Thunk (Array Char) :=
  Thunk.mk fun _ => codesWithout ksx1001.chars 0xac00 0xd7a3

/-- The number of a syllable that KS X 1001 lacks: the rows up to `A0` are longer. -/
def otherIndex? (lead trail : UInt8) : Option Nat :=
  if 0x81 ≤ lead && lead ≤ 0xa0 then
    (columnIn? [(0x41, 0x5a), (0x61, 0x7a), (0x81, 0xfe)] trail.toNat).map
      (178 * (lead.toNat - 0x81) + ·)
  else if 0xa1 ≤ lead then
    (columnIn? [(0x41, 0x5a), (0x61, 0x7a), (0x81, 0xa0)] trail.toNat).map
      (178 * 32 + 84 * (lead.toNat - 0xa1) + ·)
  else none

/-- The text of two bytes of code page 949. -/
def cp949Pair? (lead trail : UInt8) : Option (List Char) :=
  let other := (otherIndex? lead trail).bind fun index => otherSyllables.get[index]?
  ((ksx1001Char? lead trail).or other).map ([·])

/-! ## Letters of syllables -/

/-- The letters that start a syllable. -/
def initialLetters : String := "ㄱㄲㄴㄷㄸㄹㅁㅂㅃㅅㅆㅇㅈㅉㅊㅋㅌㅍㅎ"

/-- The letters in the middle of a syllable. -/
def medialLetters : String := "ㅏㅐㅑㅒㅓㅔㅕㅖㅗㅘㅙㅚㅛㅜㅝㅞㅟㅠㅡㅢㅣ"

/-- The letters that end a syllable. -/
def finalLetters : String := "ㄱㄲㄳㄴㄵㄶㄷㄹㄺㄻㄼㄽㄾㄿㅀㅁㅂㅄㅅㅆㅇㅈㅊㅋㅌㅍㅎ"

/-- The syllable of the numbers of its letters; zero is no final letter. -/
def syllable (initial medial final : Nat) : Char :=
  Char.ofNat (0xac00 + initial * 588 + medial * 28 + final)

/-! ## EUC -/

/-- The number of the letter of two bytes among some letters. -/
def letterIndex? (letters : String) (lead trail : UInt8) : Option Nat := do
  letters.toList.idxOf? (← ksx1001Char? lead trail)

/-- The number of the final letter of two bytes; a filler is none. -/
def finalIndex? (lead trail : UInt8) : Option Nat :=
  if trail = 0xd4 then some 0 else (letterIndex? finalLetters lead trail).map (· + 1)

/-- The syllable that three letters behind a filler spell. -/
def spelled? : Bytes → Option Char
  | [0xa4, 0xd4, 0xa4, a, 0xa4, b, 0xa4, c] => do
    let initial ← letterIndex? initialLetters 0xa4 a
    let medial ← letterIndex? medialLetters 0xa4 b
    let final ← finalIndex? 0xa4 c
    return syllable initial medial final
  | _ => none

/-- The piece at the head of bytes of EUC. -/
def eucKrStep (_ : Unit) (bytes : Bytes) : Step Unit :=
  if bytes.take 2 = [0xa4, 0xd4] then
    if bytes.length < 8 then incompleteBytes bytes
    else match spelled? (bytes.take 8) with
    | some c => .ok ([c], 8, ())
    | none => illegalByte
  else pairStep (fun lead trail => (ksx1001Char? lead trail).map ([·])) () bytes

/-! ## Johab -/

/-- The part of a syllable that five bits stand for. -/
inductive SyllablePart where
  | filler
  | letter (index : Nat)
deriving DecidableEq, Repr

/-- The part of a number of five bits: the number of the filler, and ranges of the letters. -/
def partOf? (filler : Nat) (letters : List (Nat × Nat)) (bits : Nat) : Option SyllablePart :=
  if bits = filler then some .filler else (columnIn? letters bits).map .letter

/-- The letter of a number among some letters. -/
def letterAt? (letters : String) (index : Nat) : Option Char := letters.toList[index]?

/-- The character of sixteen bits, of which the lower fifteen are three parts of a syllable. A
part alone is a letter. -/
def composed? (bits : Nat) : Option Char := do
  let initial ← partOf? 1 [(2, 20)] (bits / 1024 % 32)
  let medial ← partOf? 2 [(3, 7), (10, 15), (18, 23), (26, 29)] (bits / 32 % 32)
  let final ← partOf? 1 [(2, 17), (19, 29)] (bits % 32)
  match initial, medial, final with
  | .filler, .filler, .filler => some '\u3000'
  | .letter index, .filler, .filler => letterAt? initialLetters index
  | .filler, .letter index, .filler => letterAt? medialLetters index
  | .filler, .filler, .letter index => letterAt? finalLetters index
  | .letter i, .letter m, .filler => some (syllable i m 0)
  | .letter i, .letter m, .letter f => some (syllable i m (f + 1))
  | _, _, _ => none

/-- The character of KS X 1001 that is no syllable and no letter, of two bytes of Johab: two rows
share a lead byte. -/
def johabOther? (lead trail : UInt8) : Option Char := do
  let a := lead.toNat
  let place ← columnIn? [(0x31, 0x7e), (0x91, 0xfe)] trail.toNat
  let isLetter := a = 0xda && 0xa1 ≤ trail && trail ≤ 0xd3
  if a < 0xd9 || a = 0xdf || 0xf9 < a || isLetter then none
  else
    let first := if a < 0xe0 then 2 * (a - 0xd9) else 2 * a - 0x197
    ksx1001.char? (first + place / 94 + 0x21) (place % 94 + 0x21)

/-- The text of two bytes of Johab. -/
def johabPair? (lead trail : UInt8) : Option (List Char) :=
  let c := if lead < 0xd8 then composed? (lead.toNat * 256 + trail.toNat)
    else johabOther? lead trail
  c.map ([·])

end ThriftSchema
