import ThriftSchema.Source.Encoding.Basic

set_option autoImplicit false

/-! # UTF-8

A lead byte tells how many bytes follow it and in which ranges they are, so that every code
point has one form only.

* `decodeUtf8`: the text of bytes.
* `decodeUtf8Marked`: the same behind a mark that may be missing.
-/

namespace ThriftSchema

/-! ## Bytes of a character -/

/-- A closed range of bytes. -/
structure ByteRange where
  first : UInt8
  last : UInt8

/-- Whether a byte is in a range. -/
def ByteRange.contains (range : ByteRange) (byte : UInt8) : Bool :=
  range.first ≤ byte && byte ≤ range.last

/-- The bytes that continue a character. -/
def tailRange : ByteRange := ⟨0x80, 0xBF⟩

/-- What a lead byte gives to the code point, and the ranges of the bytes that have to follow
it. -/
def leadByte? (byte : UInt8) : Option (Nat × List ByteRange) :=
  let n := byte.toNat
  if byte < 0x80 then some (n, [])
  else if byte < 0xC2 then none
  else if byte < 0xE0 then some (n - 0xC0, [tailRange])
  else if byte = 0xE0 then some (0, [⟨0xA0, 0xBF⟩, tailRange])
  else if byte = 0xED then some (n - 0xE0, [⟨0x80, 0x9F⟩, tailRange])
  else if byte < 0xF0 then some (n - 0xE0, [tailRange, tailRange])
  else if byte = 0xF0 then some (0, [⟨0x90, 0xBF⟩, tailRange, tailRange])
  else if byte < 0xF4 then some (n - 0xF0, [tailRange, tailRange, tailRange])
  else if byte = 0xF4 then some (4, [⟨0x80, 0x8F⟩, tailRange, tailRange])
  else none

/-- The code point of a value and the bytes that follow a lead byte, or how many of them fit
and what is wrong behind them. -/
def readTail : List ByteRange → Bytes → Nat → Except (Nat × DecodeFault) Nat
  | [], _, value => .ok value
  | _ :: _, [], _ => .error (0, .unexpectedEnd)
  | range :: ranges, byte :: bytes, value =>
    if range.contains byte then
      match readTail ranges bytes (value * 64 + (byte.toNat - 0x80)) with
      | .ok value => .ok value
      | .error (count, fault) => .error (count + 1, fault)
    else .error (0, .invalidContinuation)

/-! ## Text -/

/-- The text of UTF-8 bytes; the number of rounds bounds the number of characters. -/
def decodeUtf8Within : Nat → Bytes → Nat → Except DecodeError (List Char)
  | 0, _, _ => .ok []
  | _ + 1, [], _ => .ok []
  | rounds + 1, byte :: bytes, position =>
    match leadByte? byte with
    | none => .error ⟨"utf-8", position, [byte], .invalidStart⟩
    | some (value, ranges) =>
      match readTail ranges bytes value with
      | .error (count, fault) =>
        .error ⟨"utf-8", position, byte :: bytes.take count, fault⟩
      | .ok value => do
        let rest ← decodeUtf8Within rounds (bytes.drop ranges.length)
          (position + 1 + ranges.length)
        return Char.ofNat value :: rest

/-- The text of UTF-8 bytes. -/
def decodeUtf8 (bytes : Bytes) : Except DecodeError (List Char) :=
  decodeUtf8Within bytes.length bytes 0

/-- The mark in front of UTF-8 bytes. -/
def utf8Mark : Bytes := [0xEF, 0xBB, 0xBF]

/-- The text of UTF-8 bytes behind a mark; a part of the mark alone is no text and no error. -/
def decodeUtf8Marked (bytes : Bytes) : Except DecodeError (List Char) :=
  if utf8Mark.isPrefixOf bytes then decodeUtf8 (bytes.drop utf8Mark.length)
  else if bytes.isPrefixOf utf8Mark then .ok []
  else decodeUtf8 bytes

end ThriftSchema
