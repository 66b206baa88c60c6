import ThriftSchema.Teletype.Literal.Token

set_option autoImplicit false

/-! # Literals

A literal is a value written out: a number, a quoted text, a truth value, nothing, an ellipsis,
a tuple, a set or a dictionary. Only what cannot change, and holds nothing that can, is an
element of a set or a key of a dictionary. An integer or a real number and an imaginary one can
be added and subtracted.

* `LiteralShape`: what the grammar has to know of a value.
* `isLiteral`: whether a text is a literal.
-/

namespace ThriftSchema.Teletype

open Text

/-! ## Shapes -/

/-- What the grammar has to know of a value. -/
inductive LiteralShape where
  | number (numeral : Numeral) (isSigned : Bool)
  /-- Another value that cannot change. -/
  | fixed
  /-- A value that can change, or holds one that can. -/
  | changeable
  /-- The word that makes an empty set when it is called. It is no value. -/
  | setMaker
deriving DecidableEq, Repr

namespace LiteralShape

/-- Whether a value can be an element of a set or a key. -/
def isFixed : LiteralShape → Bool
  | number _ _ | fixed => true
  | changeable | setMaker => false

/-- Whether a shape is that of a value. -/
def isValue (shape : LiteralShape) : Bool := shape != setMaker

/-- The shape of a tuple. -/
def tuple? (shapes : List LiteralShape) : Option LiteralShape :=
  if shapes.all isFixed then some fixed
  else if shapes.all isValue then some changeable
  else none

end LiteralShape

/-- The least integer that is beyond all real numbers when it is rounded to one. -/
def realBound : Nat := Nat.pow 2 1024 - Nat.pow 2 970

/-- Whether an imaginary number can be added to a number. -/
def Numeral.isRealPart : Numeral → Bool
  | integer magnitude => magnitude < realBound
  | real => true
  | imaginary => false

/-! ## The grammar -/

/-- What is read off the start of some tokens, and the tokens behind it. -/
abbrev Taken (α : Type) : Type := α × List LiteralToken

/-- Quoted texts in a row, all characters or all bytes. -/
def quotedRow? (isBytes : Bool) : List LiteralToken → Option (Taken LiteralShape)
  | .quoted other :: rest => if other = isBytes then quotedRow? isBytes rest else none
  | rest => some (.fixed, rest)

mutual

/-- A value in one piece, nested at most `bound` deep as all of the following are. -/
def piece? (bound : Nat) (tokens : List LiteralToken) : Option (Taken LiteralShape) :=
  match bound with
  | 0 => none
  | bound + 1 =>
    match tokens with
    | .number numeral :: rest => some (.number numeral false, rest)
    | .quoted isBytes :: rest => quotedRow? isBytes rest
    | .ellipsis :: rest => some (.fixed, rest)
    | .word name :: rest =>
      if name = "set" then some (.setMaker, rest)
      else if ["True", "False", "None"].contains name then some (.fixed, rest)
      else none
    | .mark '(' :: rest => group? bound rest
    | .mark '\x7b' :: rest => collection? bound rest
    | _ => none

/-- A value, which may have a sign, be the sum of two numbers, or be a new set. -/
def value? (bound : Nat) (tokens : List LiteralToken) : Option (Taken LiteralShape) :=
  match bound with
  | 0 => none
  | bound + 1 => do
    let isSign (c : Char) : Bool := c == '+' || c == '-'
    let (shape, rest) ← match tokens with
      | .mark c :: rest =>
        if isSign c then
          match piece? bound rest with
          | some (.number numeral false, rest) => some (.number numeral true, rest)
          | _ => none
        else piece? bound tokens
      | _ => piece? bound tokens
    match shape, rest with
    | .setMaker, .mark '(' :: .mark ')' :: rest => return (.changeable, rest)
    | .number numeral _, .mark c :: more =>
      if isSign c then
        match piece? bound more with
        | some (.number .imaginary false, rest) =>
          if numeral.isRealPart then return (.fixed, rest) else none
        | _ => none
      else return (shape, rest)
    | _, _ => return (shape, rest)

/-- The values behind a value up to a closing mark, and whether a comma stands before it. -/
def moreValues? (bound : Nat) (close : Char) (tokens : List LiteralToken) :
    Option (Taken (List LiteralShape × Bool)) :=
  match bound with
  | 0 => none
  | bound + 1 =>
    match tokens with
    | .mark c :: rest =>
      if c = close then some (([], false), rest)
      else if c = ',' then
        if rest.head? = some (.mark close) then some (([], true), rest.tail)
        else do
          let (shape, rest) ← value? bound rest
          let ((shapes, hasComma), rest) ← moreValues? bound close rest
          return ((shape :: shapes, hasComma), rest)
      else none
    | _ => none

/-- What is behind an opening parenthesis: a tuple, or a value alone. -/
def group? (bound : Nat) (tokens : List LiteralToken) : Option (Taken LiteralShape) :=
  match bound with
  | 0 => none
  | bound + 1 =>
    match tokens with
    | .mark ')' :: rest => some (.fixed, rest)
    | _ => do
      let (shape, rest) ← value? bound tokens
      match ← moreValues? bound ')' rest with
      | (([], false), rest) => return (shape, rest)
      | ((shapes, _), rest) => return (← LiteralShape.tuple? (shape :: shapes), rest)

/-- What is behind an opening brace: a set, or a dictionary. -/
def collection? (bound : Nat) (tokens : List LiteralToken) : Option (Taken LiteralShape) :=
  match bound with
  | 0 => none
  | bound + 1 =>
    match tokens with
    | .mark '\x7d' :: rest => some (.changeable, rest)
    | _ => do
      let (shape, rest) ← value? bound tokens
      if !shape.isFixed then none
      else match rest with
        | .mark ':' :: rest => do
          let (shape, rest) ← value? bound rest
          if shape.isValue then moreEntries? bound rest else none
        | _ => do
          let ((shapes, _), rest) ← moreValues? bound '\x7d' rest
          if shapes.all LiteralShape.isFixed then return (.changeable, rest) else none

/-- The keys and values behind those at the start of a dictionary. -/
def moreEntries? (bound : Nat) (tokens : List LiteralToken) : Option (Taken LiteralShape) :=
  match bound with
  | 0 => none
  | bound + 1 =>
    match tokens with
    | .mark '\x7d' :: rest | .mark ',' :: .mark '\x7d' :: rest => some (.changeable, rest)
    | .mark ',' :: rest => do
      let (key, rest) ← value? bound rest
      match rest with
      | .mark ':' :: rest =>
        let (shape, rest) ← value? bound rest
        if key.isFixed && shape.isValue then moreEntries? bound rest else none
      | _ => none
    | _ => none

end

/-- Whether a text is a literal. The parentheses around a tuple may be missing. -/
def isLiteral (text : List Char) : Bool :=
  match literalTokens? text with
  | none => false
  | some tokens =>
    let tokens := (tokens.reverse.dropWhile (· == .lineEnd)).reverse
    let answer := group? (3 * tokens.length + 3) (tokens ++ [.mark ')'])
    !tokens.isEmpty && answer.any fun (shape, rest) => shape.isValue && rest.isEmpty

end ThriftSchema.Teletype
