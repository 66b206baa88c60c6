import ThriftSchema.Number.Integer

set_option autoImplicit false

/-! # Doubles

A double is a sign and a code. The codes number the magnitudes that the format can hold in
rising order: code `e * 2^52 + f` stands for `f * 2^-1074` if `e` is zero and for
`(2^52 + f) * 2^(e - 1075)` otherwise, the code with `e = 2047` and `f = 0` for infinity, and
those above it for what is not a number.

* `Double`: the type; its equality tells zero and minus zero apart.
* `Double.nearest`: the double nearest to a fraction, a half going to the even code.
* `Double.ofDecimal`, `Double.read`: the double nearest to a decimal, and to decimal text.
-/

namespace ThriftSchema.Number

/-- A sign and the code of a magnitude. -/
structure Double where
  negative : Bool
  code : Nat
deriving DecidableEq, Repr

namespace Double

/-- The number of fractions between two powers of two. -/
def fractions : Nat := Nat.pow 2 52

/-- The code of infinity. -/
def infinite : Nat := 2047 * fractions

/-- A code of what is not a number. -/
def notNumber : Nat := infinite + 1

/-- Whether the code is that of what is not a number. -/
def isNaN (d : Double) : Bool := infinite < d.code

/-- Whether the magnitude is infinite. -/
def isInfinite (d : Double) : Bool := d.code == infinite

/-- The magnitude of a code as `m * 2^q`: the pair of `m` and `q + 1074`. -/
def decode (code : Nat) : Nat × Nat :=
  let e := code / fractions
  let f := code % fractions
  if e = 0 then (f, 0) else (fractions + f, e - 1)

/-- Whether the magnitude is an integer. -/
def isIntegral (d : Double) : Bool :=
  let (m, q) := decode d.code
  d.code < infinite && (1074 ≤ q || m % Nat.pow 2 (1074 - q) = 0)

/-- The quotient rounded to the nearest integer, a half to the even one. -/
def roundDiv (num den : Nat) : Nat :=
  let q := num / den
  let r := num % den
  if 2 * r < den then q
  else if den < 2 * r then q + 1
  else if q % 2 = 0 then q else q + 1

/-- The code of the finite or infinite magnitude nearest to `num / den`. -/
def nearest (num den : Nat) : Nat :=
  if num = 0 then 0
  else
    -- `num / den` lies between `2^(guess + 51)` and `2^(guess + 53)`
    let guess : Int := (num.log2 : Int) - den.log2 - 52
    let scale (q : Int) : Nat × Nat :=
      if q < 0 then (num <<< q.natAbs, den) else (num, den <<< q.natAbs)
    let (n, d) := scale guess
    let exponent := max (if n < d * fractions then guess - 1 else guess) (-1074)
    let (n, d) := scale exponent
    min infinite ((exponent + 1074).toNat * fractions + roundDiv n d)

/-- The double nearest to `digits * 10^exponent`. Decimals that are far above or below all
finite doubles are told without computing the power. -/
def ofDecimal (negative : Bool) (digits : Nat) (exponent : Int) : Double :=
  if digits = 0 then ⟨negative, 0⟩
  else if 310 < exponent then ⟨negative, infinite⟩
  else if 3 * exponent + digits.log2 < -1200 then ⟨negative, 0⟩
  else if exponent < 0 then ⟨negative, nearest digits (Nat.pow 10 exponent.natAbs)⟩
  else ⟨negative, nearest (digits * Nat.pow 10 exponent.natAbs) 1⟩

/-- Whether an underscore that stands behind a character and in front of others is between two
digits. -/
def joinsDigits (before : Option Char) (after : List Char) : Bool :=
  before.any Char.isDigit && after.head?.any Char.isDigit

/-- A text without its underscores, if each of them is between two digits; the character in
front of the text counts. -/
def dropUnderscores (before : Option Char) : List Char → Option (List Char)
  | [] => some []
  | c :: cs =>
    if c = '_' then if joinsDigits before cs then dropUnderscores (some c) cs else none
    else (dropUnderscores (some c) cs).map (c :: ·)

/-- The exponent of decimal text: nothing, or an `e`, a sign and digits. -/
def readExponent : List Char → Option Int
  | [] => some 0
  | c :: cs =>
    if c == 'e' || c == 'E' then
      let (negative, digits) := splitSign cs
      (readNumeral 10 digits).map (signed negative)
    else none

/-- The double nearest to decimal text without a sign: digits with a point among them or none,
and an exponent that may be missing. -/
def readMagnitude (negative : Bool) (cs : List Char) : Option Double :=
  let whole := cs.takeWhile Char.isDigit
  let rest := cs.dropWhile Char.isDigit
  let (fraction, tail) := match rest with
    | '.' :: after => (after.takeWhile Char.isDigit, after.dropWhile Char.isDigit)
    | after => ([], after)
  match readNumeral 10 (whole ++ fraction), readExponent tail with
  | some digits, some exponent => some (ofDecimal negative digits (exponent - fraction.length))
  | _, _ => none

/-- The code of a word for a magnitude that has no digits. -/
def codeOfWord? (cs : List Char) : Option Nat :=
  match String.ofList (cs.map Char.toLower) with
  | "inf" | "infinity" => some infinite
  | "nan" => some notNumber
  | _ => none

/-- The double nearest to decimal text with a sign that may be missing. The digits may be those
of any script, and a single underscore may stand between two of them; words stand for infinity
and for what is not a number. -/
def read (text : List Char) : Option Double := do
  let (negative, body) := splitSign (← dropUnderscores none (text.map Text.asciiDigit))
  match codeOfWord? body with
  | some code => some ⟨negative, code⟩
  | none => readMagnitude negative body

/-- Equality of values: zero has no sign, and what is not a number equals nothing. -/
def sameValue (a b : Double) : Bool :=
  !a.isNaN && a.code == b.code && (a.negative == b.negative || a.code == 0)

end Double

end ThriftSchema.Number
