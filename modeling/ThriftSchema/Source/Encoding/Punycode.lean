import ThriftSchema.Source.Encoding.CharacterGrid

set_option autoImplicit false

/-! # Punycode and names of hosts

Punycode puts the ASCII characters of a text first and then, behind the last minus sign, a
series of numbers that tell which other characters to insert and where. In names of hosts it is
used for single labels.

* `Punycode.decode`: the text of bytes.
* `decodeHost`: the text of bytes whose labels can be in Punycode.
-/

namespace ThriftSchema

namespace Punycode

/-- The value of a digit, a letter of either case or a decimal digit. -/
def digitValue? (byte : UInt8) : Option Nat :=
  let n := byte.toNat
  if 0x41 ≤ n && n ≤ 0x5a then some (n - 0x41)
  else if 0x61 ≤ n && n ≤ 0x7a then some (n - 0x61)
  else if 0x30 ≤ n && n ≤ 0x39 then some (n - 0x30 + 26)
  else none

/-- The least digit that does not end a number at a place, which goes up by 36 for each digit. -/
def threshold (place bias : Nat) : Nat := min 26 (max 1 (36 * (place + 1) - bias))

/-- A letter in upper case. -/
def upperChar (byte : UInt8) : Char := (Char.ofNat byte.toNat).toUpper

/-- The number at the head of bytes, and the bytes behind it. -/
def readNumber (bias : Nat) : Bytes → Nat → Nat → Nat → Except EncodingError (Nat × Bytes)
  | [], _, _, _ => .error .unendedNumber
  | byte :: bytes, place, weight, number =>
    match digitValue? byte with
    | none => .error (.invalidDigit (upperChar byte))
    | some digit =>
      let number := number + digit * weight
      if digit < threshold place bias then .ok (number, bytes)
      else readNumber bias bytes (place + 1) (weight * (36 - threshold place bias)) number

/-- Divides by 35 until the number is at most 455, and counts 36 for each division. -/
def adaptWithin : Nat → Nat → Nat → Nat
  | 0, bias, _ => bias
  | rounds + 1, bias, delta =>
    if 455 < delta then adaptWithin rounds (bias + 36) (delta / 35)
    else bias + 36 * delta / (delta + 38)

/-- The bias after a number, for a text that has got so many characters. -/
def adapt (delta length : Nat) (isFirst : Bool) : Nat :=
  let scaled := if isFirst then delta / 700 else delta / 2
  let delta := scaled + scaled / length
  adaptWithin delta 0 delta

/-- The state of inserting: the text so far, the place of the last insertion plus one, the last
code point, and the bias. -/
structure Insertion where
  text : List Char
  place : Nat
  code : Nat
  bias : Nat

/-- The text with the characters inserted that bytes tell; the number of rounds bounds the number
of characters. -/
def insertWithin : Nat → Bool → Insertion → Bytes → Except EncodingError (List Char)
  | 0, _, state, _ => .ok state.text
  | _ + 1, _, state, [] => .ok state.text
  | rounds + 1, isFirst, state, bytes => do
    let (delta, rest) ← readNumber state.bias bytes 0 1 0
    let length := state.text.length + 1
    let place := state.place + delta
    let code := state.code + place / length
    if 0x10ffff < code then throw (.outsideUnicode code)
    let place := place % length
    let c := if isSurrogateCode code then noChar else Char.ofNat code
    let text := state.text.take place ++ c :: state.text.drop place
    insertWithin rounds false ⟨text, place + 1, code, adapt delta length isFirst⟩ rest

/-- The bytes in front of the last minus sign, and those behind it; without one all bytes are
behind. -/
def splitLast (bytes : Bytes) : Bytes × Bytes :=
  let behind := (bytes.reverse.takeWhile (· != 0x2d)).reverse
  (bytes.take (bytes.length - behind.length - 1), behind)

/-- The text of bytes. -/
def decode (bytes : Bytes) : Except EncodingError (List Char) := do
  let (base, numbers) := splitLast bytes
  let text ← (decodeAscii base).mapError .undecodable
  let _ ← (decodeAscii numbers).mapError .undecodable
  insertWithin numbers.length true ⟨text, 0, 0x80, 72⟩ numbers

end Punycode

/-! ## Names of hosts -/

/-- What a label in Punycode starts with. -/
def labelMark : Bytes := [0x78, 0x6e, 0x2d, 0x2d]

/-- The text of a label. -/
def decodeLabel (label : Bytes) : Except EncodingError (List Char) :=
  if labelMark.isPrefixOf label then
    if 1024 < label.length then .error .longLabel
    else Punycode.decode (label.drop labelMark.length)
  else .ok (label.map byteChar)

/-- The labels of bytes, between the points. -/
def labelsOf : Bytes → List Bytes
  | [] => [[]]
  | byte :: bytes =>
    if byte = 0x2e then [] :: labelsOf bytes
    else match labelsOf bytes with
    | [] => [[byte]]
    | label :: labels => (byte :: label) :: labels

/-- The text of bytes whose labels can be in Punycode. -/
def decodeHost (bytes : Bytes) : Except EncodingError (List Char) := do
  let _ ← (decodeAscii bytes).mapError .undecodable
  let labels ← (labelsOf bytes).mapM decodeLabel
  return ['.'].intercalate labels

end ThriftSchema
