import ThriftSchema.Text.Digit
import ThriftSchema.Text.Split

set_option autoImplicit false

/-! # Integers in decimal and hexadecimal

Integers have any size, but decimal text has a limit: no decimal integer of more digits is read
or written. Hexadecimal text has none. The digits may be those of any script, and a single
underscore may stand between two of them.

* `readDecimal`, `readHexadecimal`: from text.
* `isWritable`: whether the decimal text of an integer keeps to the limit.
-/

namespace ThriftSchema.Number

/-- The greatest number of digits of decimal text, the sign not counted. -/
def digitLimit : Nat := 4300

/-- Why a text is no integer. -/
inductive IntegerError where
  | malformed
  | tooLong (digits : Nat)

/-- The value of a hexadecimal digit of either case. -/
def digitValue (c : Char) : Option Nat :=
  if c.isDigit then some (c.toNat - 48)
  else if 'a' ≤ c && c ≤ 'f' then some (c.toNat - 87)
  else if 'A' ≤ c && c ≤ 'F' then some (c.toNat - 55)
  else none

/-- The number that digits of a base denote, the highest first, after those already read. -/
def readDigits (base : Nat) : List Char → Nat → Option Nat
  | [], value => some value
  | c :: cs, value =>
    match digitValue c with
    | some digit => if digit < base then readDigits base cs (value * base + digit) else none
    | none => none

/-- Splits a sign off: whether it is a minus, and the rest. -/
def splitSign : List Char → Bool × List Char
  | '-' :: cs => (true, cs)
  | '+' :: cs => (false, cs)
  | cs => (false, cs)

/-- A number with a sign. -/
def signed (negative : Bool) (n : Nat) : Int :=
  if negative then -(n : Int) else n

/-- The number of a text that is not empty. -/
def readNumeral (base : Nat) : List Char → Option Nat
  | [] => none
  | cs => readDigits base cs 0

/-- The digits of a numeral that may be grouped by single underscores, if no group is empty. -/
def ungroup (cs : List Char) : Option (List Char) :=
  let groups := Text.splitChars '_' cs
  if groups.any List.isEmpty then none else some groups.flatten

/-- Whether a character is a digit of a base or the mark between groups. -/
def isNumeralPart (base : Nat) (c : Char) : Bool :=
  c == '_' || (digitValue c).any (· < base)

/-- The integer of a sign and decimal digits; leading zeros count as digits. That there are too
many digits is told even if more text stands behind them. -/
def readDecimal (text : List Char) : Except IntegerError Int :=
  let (negative, body) := splitSign (text.map Text.asciiDigit)
  match ungroup (body.takeWhile (isNumeralPart 10)) with
  | none => .error .malformed
  | some digits =>
    if digitLimit < digits.length then .error (.tooLong digits.length)
    else if !(body.dropWhile (isNumeralPart 10)).isEmpty then .error .malformed
    else match readNumeral 10 digits with
      | some n => .ok (signed negative n)
      | none => .error .malformed

/-- The text behind the mark of hexadecimal numerals, which may be missing, and behind an
underscore that follows it. -/
def dropHexMark : List Char → List Char
  | '0' :: 'x' :: '_' :: cs | '0' :: 'X' :: '_' :: cs => cs
  | '0' :: 'x' :: cs | '0' :: 'X' :: cs => cs
  | cs => cs

/-- The integer of a sign, `0x` and hexadecimal digits; the `0x` may be missing. -/
def readHexadecimal (text : List Char) : Except IntegerError Int :=
  let (negative, body) := splitSign (text.map Text.asciiDigit)
  match (ungroup (dropHexMark body)).bind (readNumeral 16) with
  | some n => .ok (signed negative n)
  | none => .error .malformed

/-- The least number whose decimal text is too long. -/
def writeBound : Nat := Nat.pow 10 digitLimit

/-- Whether the decimal text of an integer keeps to the limit. -/
def isWritable (n : Int) : Bool := n.natAbs < writeBound

end ThriftSchema.Number
