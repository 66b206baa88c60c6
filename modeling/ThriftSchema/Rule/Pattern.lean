set_option autoImplicit false

/-! # Lexical patterns

A pattern is a regular expression together with the function that measures its match at the
head of a text. The expression names the pattern in messages; the function decides.

* `Pattern`: the pair.
* `Pattern.layout`, `identifier`, `dashedIdentifier`, `literal`, `integer`, `hexadecimal`,
  `decimal`, `separator`, `digits`: the patterns of the interface language.

All classes are of ASCII characters, as the expressions are.
-/

namespace ThriftSchema

/-- A regular expression and the length of its match at the head of a text, if it matches. -/
structure Pattern where
  regex : String
  measure : List Char → Option Nat

namespace Pattern

/-! ## Character classes -/

/-- Space, tab, return, newline and form feed. -/
def isLayout (c : Char) : Bool :=
  c == ' ' || c == '\t' || c == '\r' || c == '\n' || c == '\x0c'

/-- A letter or an underscore. -/
def isNameStart (c : Char) : Bool :=
  c.isAlpha || c == '_'

/-- A character that can continue an identifier. -/
def isNameChar (c : Char) : Bool :=
  c.isAlphanum || c == '_' || c == '.'

/-- A character that can continue an identifier with dashes. -/
def isDashedNameChar (c : Char) : Bool :=
  isNameChar c || c == '-'

/-- A hexadecimal digit of either case. -/
def isHexDigit (c : Char) : Bool :=
  c.isDigit || ('a' ≤ c && c ≤ 'f') || ('A' ≤ c && c ≤ 'F')

/-! ## Measures -/

/-- The length of the longest run of a class at the head of a text. -/
def spanLength (p : Char → Bool) (cs : List Char) : Nat :=
  (cs.takeWhile p).length

/-- The length of a run of at least one character. -/
def someLength (p : Char → Bool) (cs : List Char) : Option Nat :=
  match spanLength p cs with
  | 0 => none
  | n + 1 => some (n + 1)

/-- The length of a sign, which may be missing. -/
def signLength : List Char → Nat
  | c :: _ => if c == '+' || c == '-' then 1 else 0
  | [] => 0

/-- The length of one character of the class `p` and a run of the class `q`. -/
def wordLength (p q : Char → Bool) : List Char → Option Nat
  | c :: cs => if p c then some (1 + spanLength q cs) else none
  | [] => none

/-- The length of a quoted text: from a mark to its next occurrence. -/
def quotedLength : List Char → Option Nat
  | c :: cs =>
    if c == '\x22' || c == '\x27' then
      let content := spanLength (· != c) cs
      if (cs.drop content).isEmpty then none else some (content + 2)
    else none
  | [] => none

/-- The length of a sign and digits. -/
def integerLength (cs : List Char) : Option Nat :=
  let sign := signLength cs
  (someLength Char.isDigit (cs.drop sign)).map (sign + ·)

/-- The length of a sign, a zero, an `x` and hexadecimal digits. -/
def hexadecimalLength (cs : List Char) : Option Nat :=
  let sign := signLength cs
  match cs.drop sign with
  | '0' :: x :: rest =>
    if x == 'x' || x == 'X' then (someLength isHexDigit rest).map (sign + 2 + ·) else none
  | _ => none

/-- The length of an exponent: an `e`, a sign and digits. -/
def exponentLength : List Char → Option Nat
  | c :: cs => if c == 'e' || c == 'E' then (integerLength cs).map (1 + ·) else none
  | [] => none

/-- The length of a point, digits and an exponent, which may be missing. -/
def fractionLength : List Char → Option Nat
  | c :: cs =>
    if c == '.' then
      (someLength Char.isDigit cs).map fun n =>
        1 + n + ((exponentLength (cs.drop n)).getD 0)
    else none
  | [] => none

/-- The length of a decimal: digits with an exponent, or a fraction with digits before it or
none. -/
def decimalLength (cs : List Char) : Option Nat :=
  let sign := signLength cs
  let whole := spanLength Char.isDigit (cs.drop sign)
  let rest := cs.drop (sign + whole)
  if whole = 0 then (fractionLength rest).map (sign + ·)
  else ((exponentLength rest).or (fractionLength rest)).map (sign + whole + ·)

/-- The length of a list separator. -/
def separatorLength : List Char → Option Nat
  | c :: _ => if c == ',' || c == ';' then some 1 else none
  | [] => none

/-! ## Patterns -/

/-- Any run of layout, also the empty one. -/
def layout : Pattern := ⟨"[ \\t\\r\\n\\f]*", fun cs => some (spanLength isLayout cs)⟩

/-- A name: a letter or underscore, then letters, digits, underscores and points. -/
def identifier : Pattern := ⟨"[A-Za-z_][A-Za-z0-9_.]*", wordLength isNameStart isNameChar⟩

/-- A name that may also hold dashes. -/
def dashedIdentifier : Pattern :=
  ⟨"[A-Za-z_][A-Za-z0-9_.\\-]*", wordLength isNameStart isDashedNameChar⟩

/-- A text between two equal quotes, without an escape for the quote. -/
def literal : Pattern := ⟨"\\\"[^\\\"]*\\\"|'[^']*'", quotedLength⟩

/-- A decimal integer. -/
def integer : Pattern := ⟨"[+-]?[0-9]+", integerLength⟩

/-- A hexadecimal integer. -/
def hexadecimal : Pattern := ⟨"[+-]?0[xX][0-9a-fA-F]+", hexadecimalLength⟩

/-- A number with an exponent or a fraction. -/
def decimal : Pattern :=
  ⟨"[+-]?(?:[0-9]+[eE][+-]?[0-9]+|[0-9]*\\.[0-9]+(?:[eE][+-]?[0-9]+)?)", decimalLength⟩

/-- A comma or a semicolon. -/
def separator : Pattern := ⟨"[,;]", separatorLength⟩

/-- Digits without a sign. -/
def digits : Pattern := ⟨"[0-9]+", someLength Char.isDigit⟩

end Pattern

end ThriftSchema
