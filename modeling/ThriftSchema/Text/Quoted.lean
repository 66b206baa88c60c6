import ThriftSchema.Text.Printable

set_option autoImplicit false

/-! # Quoted texts

Messages and trees show a text between quotes, so that every character of it can be told. The
quote is single, and double for a text that holds a single quote and no double one. A
backslash, the quote itself, and the three common controls are written with a backslash; any
other character that is not printable is written by its code point in two, four or eight
hexadecimal digits.

* `quote`: a text between quotes.
-/

namespace ThriftSchema.Text

/-- The single quote. -/
def singleMark : Char := '\x27'

/-- The double quote. -/
def doubleMark : Char := '\x22'

/-- The lower-case hexadecimal digit of a number below sixteen. -/
def hexDigit (n : Nat) : Char :=
  if n < 10 then Char.ofNat (48 + n) else Char.ofNat (87 + n)

/-- The last `width` hexadecimal digits of a number, the highest first. -/
def hexDigits : Nat → Nat → List Char
  | 0, _ => []
  | width + 1, n => hexDigits width (n / 16) ++ [hexDigit (n % 16)]

/-- A character by its code point: `x` and two digits, `u` and four, or `U` and eight. -/
def numberedEscape (c : Char) : List Char :=
  let n := c.toNat
  if n < 0x100 then '\\' :: 'x' :: hexDigits 2 n
  else if n < 0x10000 then '\\' :: 'u' :: hexDigits 4 n
  else '\\' :: 'U' :: hexDigits 8 n

/-- The quote for a text: double if that saves escapes of single quotes. -/
def quoteMark (cs : List Char) : Char :=
  if cs.contains singleMark && !cs.contains doubleMark then doubleMark else singleMark

/-- One character of a text between the quotes `mark`. -/
def quoteChar (mark c : Char) : List Char :=
  if c = '\\' then ['\\', '\\']
  else if c = mark then ['\\', mark]
  else if c = '\n' then ['\\', 'n']
  else if c = '\r' then ['\\', 'r']
  else if c = '\t' then ['\\', 't']
  else if isPrintable c then [c]
  else numberedEscape c

/-- The characters of a text between quotes. -/
def quoteChars (cs : List Char) : List Char :=
  let mark := quoteMark cs
  mark :: cs.flatMap (quoteChar mark) ++ [mark]

/-- A text between quotes. -/
def quote (text : String) : String :=
  String.ofList (quoteChars text.toList)

end ThriftSchema.Text
