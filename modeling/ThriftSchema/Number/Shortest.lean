import ThriftSchema.Number.Double

set_option autoImplicit false

/-! # The shortest text of a double

A double is written with the fewest digits that read back to it, and of those with the nearest
to its value. Numbers from `10^-4` up to `10^16` are written positionally, with a point and at
least one digit after it; others with an exponent of at least two digits.

* `Double.shortest`: the digits and the place of the point.
* `Double.text`: the text.
-/

namespace ThriftSchema.Number.Double

/-! ## Digits -/

/-- The number of a numeral scaled by a power of ten, as a fraction. -/
def scaled (n : Nat) (power : Int) : Nat × Nat :=
  if power < 0 then (n, Nat.pow 10 power.natAbs) else (n * Nat.pow 10 power.natAbs, 1)

/-- The value of a code as a fraction. -/
def fraction (code : Nat) : Nat × Nat :=
  let (m, q) := decode code
  if q < 1074 then (m, Nat.pow 2 (1074 - q)) else (m * Nat.pow 2 (q - 1074), 1)

/-- Whether `num / den` is at least `10^power`. -/
def atLeastPower (num den : Nat) (power : Int) : Bool :=
  let (n, d) := scaled 1 power
  n * den ≤ num * d

/-- Raises a power of ten while the next one is still not above `num / den`. -/
def raisePower (num den : Nat) : Nat → Int → Int
  | 0, power => power
  | rounds + 1, power =>
    if atLeastPower num den (power + 1) then raisePower num den rounds (power + 1) else power

/-- The greatest power of ten that is not above `num / den`. The binary logarithm gives a
power from below that is at most three too low. -/
def leadingPower (num den : Nat) : Int :=
  let guess : Int := ((num.log2 : Int) - den.log2 - 1) * 30103 / 100000 - 1
  raisePower num den 4 guess

/-- Of the numerals `low` and `low + 1` at a power of ten, the one that reads back to the code
and is nearer to `num / den`; if both are as near, the even one. -/
def readsBack (code num den : Nat) (power : Int) : Option Nat :=
  let back (n : Nat) : Bool :=
    let (a, b) := scaled n power
    nearest a b == code
  -- `num / den` is `n / d` times `10^power`
  let (a, b) := scaled 1 power
  let n := num * b
  let d := den * a
  let low := n / d
  let rest := n % d
  match back low, back (low + 1) with
  | true, true =>
    if 2 * rest < d then some low
    else if d < 2 * rest then some (low + 1)
    else if low % 2 = 0 then some low else some (low + 1)
  | true, false => some low
  | false, true => some (low + 1)
  | false, false => none

/-- The first numeral that reads back, with rising numbers of digits. -/
def searchDigits (code num den : Nat) (top : Int) : Nat → Nat → Nat × Int
  | 0, count => ((num / den), count)
  | rounds + 1, count =>
    let power := top - count
    match readsBack code num den power with
    | some n => (n, power)
    | none => searchDigits code num den top rounds (count + 1)

/-- The shortest numeral that reads back to a finite code that is not zero, and its power of
ten. Seventeen digits are always enough. -/
def shortest (code : Nat) : Nat × Int :=
  let (num, den) := fraction code
  searchDigits code num den (leadingPower num den) 17 0

/-! ## Text -/

/-- The digits of a number without its zeros at the end. -/
def significant (n : Nat) : List Char :=
  ((Nat.toDigits 10 n).reverse.dropWhile (· == '0')).reverse

/-- An exponent: its sign and at least two digits. -/
def exponentText (exponent : Int) : List Char :=
  let digits := Nat.toDigits 10 exponent.natAbs
  let padded := if digits.length < 2 then '0' :: digits else digits
  'e' :: (if exponent < 0 then '-' else '+') :: padded

/-- A positional numeral: the point stands after `point` digits. -/
def positional (digits : List Char) (point : Int) : List Char :=
  if point ≤ 0 then '0' :: '.' :: (List.replicate point.natAbs '0' ++ digits)
  else
    let count := point.toNat
    if digits.length ≤ count then
      digits ++ List.replicate (count - digits.length) '0' ++ ['.', '0']
    else digits.take count ++ '.' :: digits.drop count

/-- A numeral with one digit before the point and an exponent. -/
def scientific (digits : List Char) (exponent : Int) : List Char :=
  match digits with
  | [] => []
  | [d] => d :: exponentText exponent
  | d :: rest => d :: '.' :: (rest ++ exponentText exponent)

/-- The text of a magnitude. -/
def magnitudeText (code : Nat) : List Char :=
  if code = infinite then ['i', 'n', 'f']
  else if code = 0 then ['0', '.', '0']
  else
    let (n, power) := shortest code
    let exponent := power + ((Nat.toDigits 10 n).length : Int) - 1
    if -4 ≤ exponent ∧ exponent < 16 then positional (significant n) (exponent + 1)
    else scientific (significant n) exponent

/-- The text of a double; what is not a number has no sign. -/
def text (d : Double) : String :=
  if d.isNaN then "nan"
  else String.ofList (if d.negative then '-' :: magnitudeText d.code else magnitudeText d.code)

end ThriftSchema.Number.Double
