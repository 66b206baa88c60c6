set_option autoImplicit false

/-! # Bytes as text

The bytes of a file are text in an encoding. Bytes that are none are an error, which says where
they are and why; positions count bytes.

* `DecodeError`: where and why bytes are no text.
* `EncodingError`: all that can be wrong with an encoding and with bytes in it.
* `Step`, `decodeSteps`: reading bytes piece by piece.
* `decodeAscii`: the text of ASCII bytes.
-/

namespace ThriftSchema

/-- The bytes of a file. -/
abbrev Bytes := List UInt8

/-! ## Bytes that are no text -/

/-- Why bytes are no text. -/
inductive DecodeFault where
  | outsideAscii
  | invalidStart
  | invalidContinuation
  | unexpectedEnd
  | truncated
  | unpairedLow
  | unpairedHigh
  | surrogate
  | outsideUnicode
  /-- A byte without a character in a code page. -/
  | undefined
  | illegalSequence
  | incompleteSequence
  | specialCharacter
  | illFormedShift
  | partialShift
  | paddedShift
  | unterminatedShift
  /-- An escape with fewer digits than the letter asks for. -/
  | truncatedEscape (letter : Char) (digits : Nat)
  | illegalEscape
  | unrangedEscape
  | malformedName
  | unknownName
  | danglingBackslash
deriving DecidableEq, Repr

/-- The wording of a fault. -/
def DecodeFault.text : DecodeFault → String
  | outsideAscii => "ordinal not in range(128)"
  | invalidStart => "invalid start byte"
  | invalidContinuation => "invalid continuation byte"
  | unexpectedEnd => "unexpected end of data"
  | truncated => "truncated data"
  | unpairedLow => "illegal encoding"
  | unpairedHigh => "illegal UTF-16 surrogate"
  | surrogate => "code point in surrogate code point range(0xd800, 0xe000)"
  | outsideUnicode => "code point not in range(0x110000)"
  | undefined => "character maps to <undefined>"
  | illegalSequence => "illegal multibyte sequence"
  | incompleteSequence => "incomplete multibyte sequence"
  | specialCharacter => "unexpected special character"
  | illFormedShift => "ill-formed sequence"
  | partialShift => "partial character in shift sequence"
  | paddedShift => "non-zero padding bits in shift sequence"
  | unterminatedShift => "unterminated shift sequence"
  | truncatedEscape letter digits =>
    "truncated \\" ++ String.singleton letter ++ String.ofList (List.replicate digits 'X')
      ++ " escape"
  | illegalEscape => "illegal Unicode character"
  | unrangedEscape => "\\Uxxxxxxxx out of range"
  | malformedName => "malformed \\N character escape"
  | unknownName => "unknown Unicode character name"
  | danglingBackslash => "\\ at end of string"

/-- The bytes that are no text: their first position, the bytes themselves, the fault, and the
encoding they should be in. -/
structure DecodeError where
  codec : String
  position : Nat
  bytes : Bytes
  fault : DecodeFault
deriving DecidableEq, Repr

/-- A byte as two hexadecimal digits. -/
def byteText (byte : UInt8) : String :=
  let digits := Nat.toDigits 16 byte.toNat
  String.ofList (if digits.length < 2 then '0' :: digits else digits)

/-- The message of an error: a single byte is shown, several are told by their positions. -/
def DecodeError.message (error : DecodeError) : String :=
  let head := "'" ++ error.codec ++ "' codec can't decode "
  let place := match error.bytes with
    | [byte] => "byte 0x" ++ byteText byte ++ " in position " ++ toString error.position
    | bytes =>
      "bytes in position " ++ toString error.position ++ "-"
        ++ toString (error.position + bytes.length - 1)
  head ++ place ++ ": " ++ error.fault.text

/-! ## All errors -/

/-- Why bytes give no text in an encoding. -/
inductive EncodingError where
  | undecodable (error : DecodeError)
  /-- No encoding has the name. -/
  | unknown (name : String)
  /-- The name is that of a code whose bytes are not text. -/
  | notText (name : String)
  /-- A name with a null character. -/
  | nullInName
  /-- No mark tells the order of the bytes of units of so many bits. -/
  | unmarkedOrder (bits : Nat)
  /-- The encoding in which nothing is text. -/
  | never
  /-- A number of Punycode without its last digit. -/
  | unendedNumber
  /-- A character that is no digit of Punycode. -/
  | invalidDigit (c : Char)
  /-- A number of Punycode that leads to no code point. -/
  | outsideUnicode (code : Nat)
  /-- A label of more characters than are read. -/
  | longLabel
deriving DecidableEq, Repr

/-- The message of an error. -/
def EncodingError.message : EncodingError → String
  | undecodable error => error.message
  | unknown name => "unknown encoding: " ++ name
  | notText name =>
    "'" ++ name ++ "' is not a text encoding; use codecs.open() to handle arbitrary codecs"
  | nullInName => "embedded null character"
  | unmarkedOrder bits => "UTF-" ++ toString bits ++ " stream does not start with BOM"
  | never => "undefined encoding"
  | unendedNumber => "incomplete punicode string"
  | invalidDigit c => "Invalid extended code point '" ++ String.singleton c ++ "'"
  | outsideUnicode code => "Invalid character U+" ++ String.ofList (Nat.toDigits 16 code)
  | longLabel => "label way too long"

/-! ## Reading piece by piece -/

/-- The text at the head of bytes, the number of bytes it takes, and the state behind it; or the
number of bytes at the head that are no text, and why. -/
abbrev Step (σ : Type) := Except (Nat × DecodeFault) (List Char × Nat × σ)

/-- The text of bytes from a position on, piece by piece; the number of rounds bounds the number
of pieces. -/
def decodeWithin {σ : Type} (codec : String) (step : σ → Bytes → Step σ) :
    Nat → σ → Bytes → Nat → Except DecodeError (List Char)
  | 0, _, _, _ => .ok []
  | _ + 1, _, [], _ => .ok []
  | rounds + 1, state, bytes, position =>
    match step state bytes with
    | .error (length, fault) => .error ⟨codec, position, bytes.take length, fault⟩
    | .ok (text, length, state) => do
      let rest ← decodeWithin codec step rounds state (bytes.drop length) (position + length)
      return text ++ rest

/-- The text of bytes, piece by piece from a state. Every piece takes at least one byte. -/
def decodeSteps {σ : Type} (codec : String) (step : σ → Bytes → Step σ) (state : σ)
    (bytes : Bytes) : Except DecodeError (List Char) :=
  decodeWithin codec step bytes.length state bytes 0

/-! ## Single bytes -/

/-- The character of a single byte. -/
def byteChar (byte : UInt8) : Char := Char.ofNat byte.toNat

/-- The piece of a single ASCII byte. -/
def asciiStep : Unit → Bytes → Step Unit
  | _, [] => .ok ([], 1, ())
  | _, byte :: _ =>
    if byte < 0x80 then .ok ([byteChar byte], 1, ()) else .error (1, .outsideAscii)

/-- The text of ASCII bytes. -/
def decodeAscii (bytes : Bytes) : Except DecodeError (List Char) :=
  decodeSteps "ascii" asciiStep () bytes

end ThriftSchema
