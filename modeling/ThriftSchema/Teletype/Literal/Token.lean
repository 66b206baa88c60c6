import ThriftSchema.Number.Integer

set_option autoImplicit false

/-! # Tokens of literals

A literal is split into numbers, quoted texts, words and marks. Blanks and comments stand
between them. A line that is not inside brackets ends with a token of its own unless it is
empty, and it may not be indented. A backslash joins a line to the next one.

* `LiteralToken`: the type.
* `literalTokens?`: the tokens of a text.
-/

namespace ThriftSchema.Teletype

open Text

/-! ## The tokens -/

/-- A number without a sign, with the magnitude of an integer. -/
inductive Numeral where
  | integer (magnitude : Nat)
  | real
  | imaginary
deriving DecidableEq, Repr

/-- A token of a literal. -/
inductive LiteralToken where
  | number (numeral : Numeral)
  /-- Quoted characters, or quoted bytes. -/
  | quoted (isBytes : Bool)
  | word (name : String)
  | mark (c : Char)
  | ellipsis
  | lineEnd
deriving DecidableEq, Repr

/-- A way to take a token off the start of a text. -/
abbrev TokenReader := List Char → Option (LiteralToken × List Char)

/-- A character that can stand inside a word. -/
def isNameChar (c : Char) : Bool := c.isAlphanum || c == '_' || 128 ≤ c.toNat

/-! ## Numbers -/

/-- The rest of the digits of a number, among which single underscores may stand, and the text
behind them. -/
def moreDigits (isDigit : Char → Bool) : List Char → List Char × List Char
  | [] => ([], [])
  | c :: cs =>
    if isDigit c || (c == '_' && cs.head?.any isDigit) then
      let (digits, rest) := moreDigits isDigit cs
      (if c = '_' then digits else c :: digits, rest)
    else ([], c :: cs)

/-- The digits at the start of a text, and the text behind them. -/
def takeDigits (isDigit : Char → Bool) (cs : List Char) : List Char × List Char :=
  if cs.head?.any isDigit then moreDigits isDigit cs else ([], cs)

/-- Digits of a base, in front of which an underscore may stand. -/
def basedNumeral? (base : Nat) (cs : List Char) : Option (Numeral × List Char) :=
  let cs := match cs with
    | '_' :: rest => rest
    | _ => cs
  let (digits, rest) := takeDigits (fun c => (Number.digitValue c).any (· < base)) cs
  (Number.readNumeral base digits).map fun n => (.integer n, rest)

/-- The integer of decimal digits, which are not too many and do not start with a zero unless
all of them are zeros. -/
def plainInteger? (digits : List Char) : Option Numeral :=
  if digits.all (· == '0') then some (.integer 0)
  else if digits.head? = some '0' || Number.digitLimit < digits.length then none
  else (Number.readNumeral 10 digits).map .integer

/-- The text behind an exponent, if one stands there: its mark and at least one digit. -/
def dropExponent? : List Char → Option (Bool × List Char)
  | 'e' :: cs | 'E' :: cs =>
    let (digits, rest) := takeDigits Char.isDigit (Number.splitSign cs).2
    if digits.isEmpty then none else some (true, rest)
  | cs => some (false, cs)

/-- A number in decimal: digits, a fraction, an exponent and the mark of an imaginary number. -/
def decimalNumeral? (cs : List Char) : Option (Numeral × List Char) := do
  let (digits, rest) := takeDigits Char.isDigit cs
  let (hasPoint, rest) := match rest with
    | '.' :: rest => (true, (takeDigits Char.isDigit rest).2)
    | _ => (false, rest)
  let (hasExponent, rest) ← dropExponent? rest
  match rest with
  | 'j' :: rest | 'J' :: rest => return (.imaginary, rest)
  | _ =>
    if hasPoint || hasExponent then return (.real, rest)
    else return (← plainInteger? digits, rest)

/-- A number. No word may follow it at once. -/
def numberToken? : TokenReader := fun cs => do
  let (numeral, rest) ← match cs with
    | '0' :: 'x' :: rest | '0' :: 'X' :: rest => basedNumeral? 16 rest
    | '0' :: 'o' :: rest | '0' :: 'O' :: rest => basedNumeral? 8 rest
    | '0' :: 'b' :: rest | '0' :: 'B' :: rest => basedNumeral? 2 rest
    | _ => decimalNumeral? cs
  if rest.head?.any isNameChar then none else return (.number numeral, rest)

/-! ## Quoted texts -/

/-- Whether a character is a quote. -/
def isQuote (c : Char) : Bool := c == '\x22' || c == '\x27'

/-- The text up to a quote on the same line, and what is behind it. -/
def untilQuote? (quote : Char) : List Char → Option (List Char × List Char)
  | '\\' :: c :: cs => (untilQuote? quote cs).map fun (body, rest) => ('\\' :: c :: body, rest)
  | c :: cs =>
    if c = quote then some ([], cs)
    else if c = '\n' then none
    else (untilQuote? quote cs).map fun (body, rest) => (c :: body, rest)
  | [] => none

/-- The text up to three quotes in a row, and what is behind them. -/
def untilThreeQuotes? (quote : Char) : List Char → Option (List Char × List Char)
  | '\\' :: c :: cs =>
    (untilThreeQuotes? quote cs).map fun (body, rest) => ('\\' :: c :: body, rest)
  | c :: cs =>
    if c = quote && cs.take 2 = [quote, quote] then some ([], cs.drop 2)
    else (untilThreeQuotes? quote cs).map fun (body, rest) => (c :: body, rest)
  | [] => none

/-- The number of hexadecimal digits behind a character that follows a backslash. -/
def escapeDigits (isBytes : Bool) (c : Char) : Nat :=
  if c = 'x' then 2
  else if isBytes then 0
  else if c = 'u' then 4
  else if c = 'U' then 8
  else 0

/-- Whether each backslash that asks for a character by its number has its digits. Characters
have no other names. -/
def hasGoodEscapes (isBytes : Bool) : List Char → Bool
  | '\\' :: c :: cs =>
    let digits := cs.take (escapeDigits isBytes c)
    (isBytes || c != 'N')
      && (escapeDigits isBytes c == 0
        || (digits.length == escapeDigits isBytes c
          && (Number.readNumeral 16 digits).any (· < 0x110000)))
      && hasGoodEscapes isBytes cs
  | _ :: cs => hasGoodEscapes isBytes cs
  | [] => true

/-- The letters that can stand in front of a quoted text, in lower case. -/
def quoteLetters : List String := ["", "b", "r", "u", "br", "rb"]

/-- A quoted text behind letters: `b` stands for bytes, which are ASCII, and `r` leaves
backslashes as they are. -/
def quotedToken? (letters : List Char) : TokenReader
  | [] => none
  | quote :: cs => do
    let letters := letters.map Char.toLower
    let isBytes := letters.contains 'b'
    let (body, rest) ←
      if cs.take 2 = [quote, quote] then untilThreeQuotes? quote (cs.drop 2)
      else untilQuote? quote cs
    if quoteLetters.contains (String.ofList letters)
        && (letters.contains 'r' || hasGoodEscapes isBytes body)
        && (!isBytes || body.all (·.toNat < 128)) then
      return (.quoted isBytes, rest)
    else none

/-! ## Words and marks -/

/-- A word, or a quoted text behind letters. -/
def wordToken? : TokenReader := fun cs =>
  let word := cs.takeWhile isNameChar
  let rest := cs.dropWhile isNameChar
  if rest.head?.any isQuote then quotedToken? word rest
  else some (.word (String.ofList word), rest)

/-- The marks of literals. -/
def literalMarks : List Char := ['(', ')', '\x7b', '\x7d', ',', ':', '+', '-']

/-- The token at the start of a text that does not start with a blank. -/
def firstToken? : TokenReader
  | '.' :: '.' :: '.' :: cs => some (.ellipsis, cs)
  | c :: cs =>
    if c.isDigit || (c == '.' && cs.head?.any Char.isDigit) then numberToken? (c :: cs)
    else if isQuote c then quotedToken? [] (c :: cs)
    else if isNameChar c then wordToken? (c :: cs)
    else if literalMarks.contains c then some (.mark c, cs)
    else none
  | [] => none

/-! ## Lines -/

/-- Whether a line is indented, and its text. A form feed starts the line anew; a line that is
joined to an indented one stays indented. -/
def indentation (isJoined isIndented : Bool) : List Char → Bool × List Char
  | ' ' :: cs | '\t' :: cs => indentation isJoined true cs
  | '\x0c' :: cs => indentation isJoined false cs
  | '\\' :: '\n' :: c :: cs => indentation (isJoined || isIndented) isIndented (c :: cs)
  | cs => (isJoined || isIndented, cs)

/-- The text of a line behind its indentation. Outside brackets only a line without tokens may
be indented. -/
def startLine? (depth : Nat) (cs : List Char) : Option (List Char) :=
  let (isIndented, rest) := indentation false false cs
  let isEmpty := rest.head?.all fun c => c == '#' || c == '\n'
  if depth = 0 && isIndented && !isEmpty then none else some rest

/-- The greatest number of brackets around a token. -/
def depthLimit : Nat := 200

/-- The number of brackets around what follows a token. -/
def depthBehind? (depth : Nat) : LiteralToken → Option Nat
  | .mark c =>
    if c = '(' || c = '\x7b' then if depth < depthLimit then some (depth + 1) else none
    else if c = ')' || c = '\x7d' then some (depth - 1)
    else some depth
  | _ => some depth

/-- The tokens of a text of less than `bound` characters, inside some brackets, and behind a
token on the same line or not. -/
def tokensWithin? : Nat → Nat → Bool → List Char → Option (List LiteralToken)
  | 0, _, _, _ => none
  | _ + 1, _, _, [] => some []
  | bound + 1, depth, isBehindToken, c :: cs =>
    if c == ' ' || c == '\t' || c == '\x0c' then tokensWithin? bound depth isBehindToken cs
    else if c = '#' then tokensWithin? bound depth isBehindToken (cs.dropWhile (· != '\n'))
    else if c = '\n' then do
      let tokens ← tokensWithin? bound depth false (← startLine? depth cs)
      return if depth = 0 && isBehindToken then .lineEnd :: tokens else tokens
    else if c = '\\' then
      match cs with
      | '\n' :: d :: rest => tokensWithin? bound depth isBehindToken (d :: rest)
      | _ => none
    else do
      let (token, rest) ← firstToken? (c :: cs)
      let tokens ← tokensWithin? bound (← depthBehind? depth token) true rest
      return token :: tokens

/-- The tokens of a text. A null character is no part of any token. -/
def literalTokens? (text : List Char) : Option (List LiteralToken) := do
  if text.contains '\x00' then none
  else
    let cs ← startLine? 0 (unifyNewlines text)
    tokensWithin? (cs.length + 1) 0 false cs

end ThriftSchema.Teletype
