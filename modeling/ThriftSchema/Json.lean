import ThriftSchema.Number.Shortest
import ThriftSchema.Text.Quoted

set_option autoImplicit false

/-! # JSON values

The export of a document is a JSON value, and its text keeps to ASCII: two spaces of
indentation for each level, members in the order of the value, other characters by the code
units of UTF-16.

* `Json`: the values. Objects keep the order of their members.
* `Json.text`: the text of a value over several lines.
-/

namespace ThriftSchema

open Number (Double)

/-- JSON values; integers and doubles are told apart. -/
inductive Json where
  | null
  | bool (value : Bool)
  | integer (value : Int)
  | double (value : Double)
  | string (value : String)
  | array (items : List Json)
  | object (members : List (String × Json))
deriving Inhabited, Repr

namespace Json

/-! ## Strings -/

/-- A code unit as `\u` and four digits. -/
def unitEscape (unit : Nat) : List Char := '\\' :: 'u' :: Text.hexDigits 4 unit

/-- One character of a string. -/
def stringChar (c : Char) : List Char :=
  if c = '\x22' then ['\\', '\x22']
  else if c = '\\' then ['\\', '\\']
  else if c = '\n' then ['\\', 'n']
  else if c = '\r' then ['\\', 'r']
  else if c = '\t' then ['\\', 't']
  else if c = '\x08' then ['\\', 'b']
  else if c = '\x0c' then ['\\', 'f']
  else
    let n := c.toNat
    if 32 ≤ n && n < 127 then [c]
    else if n < 0x10000 then unitEscape n
    else
      -- a pair of surrogates
      unitEscape (0xD800 + (n - 0x10000) / 0x400) ++ unitEscape (0xDC00 + (n - 0x10000) % 0x400)

/-- A string between double quotes. -/
def stringText (value : String) : String :=
  String.ofList ('\x22' :: value.toList.flatMap stringChar ++ ['\x22'])

/-! ## Values -/

/-- The text of a double; infinity and what is not a number are spelled out. -/
def doubleText (d : Double) : String :=
  if d.isNaN then "NaN"
  else if d.isInfinite then (if d.negative then "-Infinity" else "Infinity") else d.text

/-- The start of a line at a level. -/
def indentation (level : Nat) : String := String.ofList (List.replicate (2 * level) ' ')

/-- Lines between two brackets, or the brackets alone. -/
def bracket (first last : String) (level : Nat) (lines : List String) : String :=
  if lines.isEmpty then first ++ last
  else
    first ++ "\n" ++ ",\n".intercalate (lines.map fun line => indentation (level + 1) ++ line)
      ++ "\n" ++ indentation level ++ last

mutual

/-- The text of a value that starts on a line of the given level. -/
def textAt (level : Nat) : Json → String
  | null => "null"
  | bool value => if value then "true" else "false"
  | integer value => toString value
  | double value => doubleText value
  | string value => stringText value
  | array items => bracket "[" "]" level (itemTexts (level + 1) items)
  | object members => bracket "\x7b" "\x7d" level (memberTexts (level + 1) members)

/-- The texts of items. -/
def itemTexts (level : Nat) : List Json → List String
  | [] => []
  | item :: items => textAt level item :: itemTexts level items

/-- The texts of members. -/
def memberTexts (level : Nat) : List (String × Json) → List String
  | [] => []
  | (name, value) :: members =>
    (stringText name ++ ": " ++ textAt level value) :: memberTexts level members

end

/-- The text of a value. -/
def text (value : Json) : String := textAt 0 value

end Json

end ThriftSchema
