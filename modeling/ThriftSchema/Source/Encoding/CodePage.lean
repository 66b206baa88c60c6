import ThriftSchema.Source.Encoding.Basic

set_option autoImplicit false

/-! # Code pages

A code page gives each byte at most one character.

* `CodePage`: the type, and the ways to write one down.
* `CodePage.decode`: the text of bytes.
-/

namespace ThriftSchema

/-- The characters of the bytes in rising order. -/
structure CodePage where
  chars : List Char
deriving DecidableEq, Repr

/-- What stands in a table where there is no character. -/
def noChar : Char := '\ufffd'

namespace CodePage

/-- The characters whose code points are `count` numbers from `first` on. -/
def codes (first count : Nat) : List Char := (List.range count).map fun i => Char.ofNat (first + i)

/-- The page of some rows of characters. -/
def ofRows (rows : List String) : CodePage := ⟨rows.flatMap String.toList⟩

/-- A page whose lower half is ASCII and whose upper half consists of some rows. -/
def asciiPage (rows : List String) : CodePage := ⟨codes 0 128 ++ rows.flatMap String.toList⟩

/-- A page whose bytes up to `9F` are the ASCII characters and the controls, with rows for the
other ones. -/
def isoPage (rows : List String) : CodePage := ⟨codes 0 160 ++ rows.flatMap String.toList⟩

/-- A page with other characters for some bytes. -/
def change (page : CodePage) (changes : List (Nat × Char)) : CodePage :=
  ⟨changes.foldl (fun chars change => chars.set change.1 change.2) page.chars⟩

/-- The page on which bytes are code points. -/
def latin1 : CodePage := ⟨codes 0 256⟩

/-- The character of a byte. -/
def char? (page : CodePage) (byte : UInt8) : Option Char :=
  page.chars[byte.toNat]?.filter (· != noChar)

/-- The piece of a single byte. -/
def step (page : CodePage) : Unit → Bytes → Step Unit
  | _, [] => .ok ([], 1, ())
  | _, byte :: _ =>
    match page.char? byte with
    | some c => .ok ([c], 1, ())
    | none => .error (1, .undefined)

/-- The text of bytes on a page. -/
def decode (page : CodePage) (bytes : Bytes) : Except DecodeError (List Char) :=
  decodeSteps "charmap" page.step () bytes

end CodePage

end ThriftSchema
