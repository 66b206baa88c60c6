import ThriftSchema.Source.Encoding.CharacterGrid

set_option autoImplicit false

/-! # UTF-7

ASCII characters stand for themselves, and a plus sign starts a section of digits of six bits
each, which make up UTF-16 units. A minus sign ends the section and is no text; any other
character ends it too.

* `utf7Step`, `decodeUtf7`: one piece, and the text of bytes.
-/

namespace ThriftSchema

/-- The value of a digit of six bits. -/
def sixBits? (byte : UInt8) : Option Nat :=
  let n := byte.toNat
  if 0x41 ≤ n && n ≤ 0x5a then some (n - 0x41)
  else if 0x61 ≤ n && n ≤ 0x7a then some (n - 0x61 + 26)
  else if 0x30 ≤ n && n ≤ 0x39 then some (n - 0x30 + 52)
  else if n = 0x2b then some 62
  else if n = 0x2f then some 63
  else none

/-- The number of six-bit digits, the highest first. -/
def sixBitNumber (digits : List Nat) : Nat :=
  digits.foldl (fun number digit => number * 64 + digit) 0

/-- The first `count` units of sixteen bits of a number of `bits` bits. -/
def unitsOf (number bits count : Nat) : List Nat :=
  (List.range count).map fun i => number / Nat.pow 2 (bits - 16 * (i + 1)) % 0x10000

/-- The text of UTF-16 units, and whether the last unit waits for another one. A unit that has
no partner is no character. -/
def textOfUnits : List Nat → List Char × Bool
  | [] => ([], false)
  | [unit] =>
    if 0xd800 ≤ unit && unit < 0xdc00 then ([], true)
    else if isSurrogateCode unit then ([noChar], false) else ([Char.ofNat unit], false)
  | unit :: low :: units =>
    if 0xd800 ≤ unit && unit < 0xdc00 && 0xdc00 ≤ low && low < 0xe000 then
      let (text, waits) := textOfUnits units
      (Char.ofNat (0x10000 + (unit - 0xd800) * 0x400 + (low - 0xdc00)) :: text, waits)
    else
      let (text, waits) := textOfUnits (low :: units)
      ((if isSurrogateCode unit then noChar else Char.ofNat unit) :: text, waits)

/-- The piece of a section behind a plus sign. The bits that fill no unit have to be zero and
fewer than a digit has. -/
def utf7Section (bytes : Bytes) : Step Unit :=
  let run := bytes.takeWhile fun byte => (sixBits? byte).isSome
  let digits := run.filterMap sixBits?
  let bits := 6 * digits.length
  let number := sixBitNumber digits
  let (text, waits) := textOfUnits (unitsOf number bits (bits / 16))
  let padding := number % Nat.pow 2 (bits % 16)
  match bytes.drop run.length with
  | [] =>
    if waits || 6 ≤ bits % 16 || padding ≠ 0 then .error (run.length + 1, .unterminatedShift)
    else .ok (text, run.length + 1, ())
  | next :: _ =>
    if 6 ≤ bits % 16 then .error (run.length + 2, .partialShift)
    else if padding ≠ 0 then .error (run.length + 2, .paddedShift)
    else
      let text := if waits && next < 0x80 && next != 0x2b then text ++ [noChar] else text
      .ok (text, run.length + (if next = 0x2d then 2 else 1), ())

/-- The piece at the head of bytes. -/
def utf7Step : Unit → Bytes → Step Unit
  | _, [] => .ok ([], 1, ())
  | _, byte :: bytes =>
    if byte = 0x2b then
      match bytes with
      | [] => utf7Section []
      | next :: _ =>
        if next = 0x2d then .ok (['+'], 2, ())
        else if (sixBits? next).isNone then .error (2, .illFormedShift)
        else utf7Section bytes
    else if byte < 0x80 then .ok ([byteChar byte], 1, ())
    else .error (1, .specialCharacter)

/-- The text of UTF-7 bytes. -/
def decodeUtf7 (bytes : Bytes) : Except DecodeError (List Char) :=
  decodeSteps "utf7" utf7Step () bytes

end ThriftSchema
