import ThriftSchema.Source.Encoding.CharacterGrid

set_option autoImplicit false

/-! # UTF-16 and UTF-32

Code points are written in units of two or of four bytes, in either order of the bytes. A mark
in front of the text can tell the order.

* `decodeUtf16`, `decodeUtf32`: the text of bytes in an order.
* `decodeUtf16Marked`, `decodeUtf32Marked`: the text of bytes behind a mark.
-/

namespace ThriftSchema

/-- The order of the bytes of a unit. -/
inductive ByteOrder where
  | little
  | big
deriving DecidableEq, Repr

/-! ## UTF-16 -/

/-- The name of UTF-16 in an order. -/
def ByteOrder.utf16Name : ByteOrder → String
  | little => "utf-16-le"
  | big => "utf-16-be"

/-- The unit of two bytes. -/
def ByteOrder.unit (order : ByteOrder) (a b : UInt8) : Nat :=
  match order with
  | little => b.toNat * 256 + a.toNat
  | big => a.toNat * 256 + b.toNat

/-- Whether a unit is the first of a pair. -/
def isHighUnit (unit : Nat) : Bool := 0xD800 ≤ unit && unit < 0xDC00

/-- Whether a unit is the second of a pair. -/
def isLowUnit (unit : Nat) : Bool := 0xDC00 ≤ unit && unit < 0xE000

/-- The text of UTF-16 bytes from a position on. -/
def decodeUtf16 (order : ByteOrder) : Bytes → Nat → Except DecodeError (List Char)
  | [], _ => .ok []
  | [a], position => .error ⟨order.utf16Name, position, [a], .truncated⟩
  | a :: b :: bytes, position =>
    let unit := order.unit a b
    if isHighUnit unit then
      match bytes with
      | c :: d :: rest =>
        let low := order.unit c d
        if isLowUnit low then do
          let text ← decodeUtf16 order rest (position + 4)
          return Char.ofNat (0x10000 + (unit - 0xD800) * 0x400 + (low - 0xDC00)) :: text
        else .error ⟨order.utf16Name, position, [a, b], .unpairedHigh⟩
      | rest => .error ⟨order.utf16Name, position, a :: b :: rest, .unexpectedEnd⟩
    else if isLowUnit unit then .error ⟨order.utf16Name, position, [a, b], .unpairedLow⟩
    else do
      return Char.ofNat unit :: (← decodeUtf16 order bytes (position + 2))

/-- The text of bytes behind a mark that tells their order. -/
def decodeUtf16Marked : Bytes → Except EncodingError (List Char)
  | [] => .ok []
  | 0xFF :: 0xFE :: bytes => (decodeUtf16 .little bytes 2).mapError .undecodable
  | 0xFE :: 0xFF :: bytes => (decodeUtf16 .big bytes 2).mapError .undecodable
  | bytes =>
    match decodeUtf16 .little bytes 0 with
    | .ok _ => .error (.unmarkedOrder 16)
    | .error error => .error (.undecodable error)

/-! ## UTF-32 -/

/-- The name of UTF-32 in an order. -/
def ByteOrder.utf32Name : ByteOrder → String
  | little => "utf-32-le"
  | big => "utf-32-be"

/-- The unit of four bytes. -/
def ByteOrder.longUnit (order : ByteOrder) (a b c d : UInt8) : Nat :=
  match order with
  | little => order.unit c d * 0x10000 + order.unit a b
  | big => order.unit a b * 0x10000 + order.unit c d

/-- The text of UTF-32 bytes from a position on. -/
def decodeUtf32 (order : ByteOrder) : Bytes → Nat → Except DecodeError (List Char)
  | [], _ => .ok []
  | a :: b :: c :: d :: bytes, position =>
    let unit := order.longUnit a b c d
    if isSurrogateCode unit then
      .error ⟨order.utf32Name, position, [a, b, c, d], .surrogate⟩
    else if 0x10FFFF < unit then
      .error ⟨order.utf32Name, position, [a, b, c, d], .outsideUnicode⟩
    else do
      return Char.ofNat unit :: (← decodeUtf32 order bytes (position + 4))
  | bytes, position => .error ⟨order.utf32Name, position, bytes, .truncated⟩

/-- The text of bytes behind a mark of four bytes that tells their order. -/
def decodeUtf32Marked : Bytes → Except EncodingError (List Char)
  | [] => .ok []
  | 0xFF :: 0xFE :: 0x00 :: 0x00 :: bytes => (decodeUtf32 .little bytes 4).mapError .undecodable
  | 0x00 :: 0x00 :: 0xFE :: 0xFF :: bytes => (decodeUtf32 .big bytes 4).mapError .undecodable
  | bytes =>
    match decodeUtf32 .little bytes 0 with
    | .ok _ => .error (.unmarkedOrder 32)
    | .error error => .error (.undecodable error)

end ThriftSchema
