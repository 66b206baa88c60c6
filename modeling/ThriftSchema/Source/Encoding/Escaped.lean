import ThriftSchema.Source.Encoding.CharacterGrid

set_option autoImplicit false

/-! # Text with escapes

Bytes are code points, and a backslash starts an escape for any other character. In the raw
form only the numbered escapes count.

* `decodeEscaped`: the text of bytes with all escapes.
* `decodeRawEscaped`: the text of bytes with numbered escapes only.
-/

namespace ThriftSchema

/-- The value of a hexadecimal digit. -/
def hexByte? (byte : UInt8) : Option Nat :=
  let n := byte.toNat
  if 0x30 ≤ n && n ≤ 0x39 then some (n - 0x30)
  else if 0x61 ≤ n && n ≤ 0x66 then some (n - 0x57)
  else if 0x41 ≤ n && n ≤ 0x46 then some (n - 0x37)
  else none

/-- The character of a code point; half a pair is no character. -/
def codeChar (code : Nat) : Char := if isSurrogateCode code then noChar else Char.ofNat code

/-- The piece of an escape with a letter that asks for some hexadecimal digits, which `bytes`
start with; `fault` is what is wrong with a number that is no code point. -/
def digitEscape (letter : Char) (count : Nat) (fault : DecodeFault) (bytes : Bytes) :
    Step Unit :=
  let digits := ((bytes.take count).takeWhile fun byte => (hexByte? byte).isSome).filterMap hexByte?
  if digits.length < count then .error (digits.length + 2, .truncatedEscape letter count)
  else
    let code := digits.foldl (fun code digit => code * 16 + digit) 0
    if 0x10ffff < code then .error (count + 2, fault)
    else .ok ([codeChar code], count + 2, ())

/-- The piece of an escape with a name between braces, which `bytes` start with. Names are not
known. -/
def namedEscape (bytes : Bytes) : Step Unit :=
  match bytes with
  | 0x7b :: rest =>
    let name := rest.takeWhile (· != 0x7d)
    if name.length = rest.length then .error (name.length + 3, .malformedName)
    else if name.isEmpty then .error (3, .malformedName)
    else .error (name.length + 4, .unknownName)
  | _ => .error (2, .malformedName)

/-- The character of an escape with a letter or a mark alone. -/
def simpleEscape? (byte : UInt8) : Option (List Char) :=
  match byteChar byte with
  | '\n' => some []
  | '\\' => some ['\\']
  | '\x27' => some ['\x27']
  | '\x22' => some ['\x22']
  | 'a' => some ['\x07']
  | 'b' => some ['\x08']
  | 't' => some ['\t']
  | 'n' => some ['\n']
  | 'v' => some ['\x0b']
  | 'f' => some ['\x0c']
  | 'r' => some ['\r']
  | _ => none

/-- Whether a byte is an octal digit. -/
def isOctal (byte : UInt8) : Bool := 0x30 ≤ byte && byte ≤ 0x37

/-- The piece at the head of bytes with all escapes. -/
def escapedStep : Unit → Bytes → Step Unit
  | _, [] => .ok ([], 1, ())
  | _, [byte] =>
    if byte = 0x5c then .error (1, .danglingBackslash) else .ok ([byteChar byte], 1, ())
  | _, byte :: next :: bytes =>
    if byte ≠ 0x5c then .ok ([byteChar byte], 1, ())
    else match simpleEscape? next with
    | some text => .ok (text, 2, ())
    | none =>
      if isOctal next then
        let digits := ((next :: bytes).take 3).takeWhile isOctal
        let code := digits.foldl (fun code digit => code * 8 + (digit.toNat - 0x30)) 0
        .ok ([Char.ofNat code], digits.length + 1, ())
      else match byteChar next with
      | 'x' => digitEscape 'x' 2 .illegalEscape bytes
      | 'u' => digitEscape 'u' 4 .illegalEscape bytes
      | 'U' => digitEscape 'U' 8 .illegalEscape bytes
      | 'N' => namedEscape bytes
      | c => .ok (['\\', c], 2, ())

/-- The piece at the head of bytes with numbered escapes only. -/
def rawEscapedStep : Unit → Bytes → Step Unit
  | _, [] => .ok ([], 1, ())
  | _, [byte] => .ok ([byteChar byte], 1, ())
  | _, byte :: next :: bytes =>
    if byte ≠ 0x5c then .ok ([byteChar byte], 1, ())
    else match byteChar next with
    | 'u' => digitEscape 'u' 4 .unrangedEscape bytes
    | 'U' => digitEscape 'U' 8 .unrangedEscape bytes
    | c => .ok (['\\', c], 2, ())

/-- The text of bytes with all escapes. -/
def decodeEscaped (bytes : Bytes) : Except DecodeError (List Char) :=
  decodeSteps "unicodeescape" escapedStep () bytes

/-- The text of bytes with numbered escapes only. -/
def decodeRawEscaped (bytes : Bytes) : Except DecodeError (List Char) :=
  decodeSteps "rawunicodeescape" rawEscapedStep () bytes

end ThriftSchema
