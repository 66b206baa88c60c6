import ThriftSchema.Assembly.Error
import ThriftSchema.Number.Double
import ThriftSchema.Text.Blank

set_option autoImplicit false

/-! # Leaves

A leaf is an entry made of matched text alone. The match may include the layout behind a token,
which is trimmed off first.
-/

namespace ThriftSchema.Leaf

open Number (Double)

/-- How a leaf is made of its text. -/
abbrev Builder := String → Except BuildError Entry

/-- A name. -/
def identifier : Builder := fun text => .ok (.identifier (Text.trim text))

/-- The text between the quotes of a literal. -/
def literal : Builder := fun text =>
  .ok (.literal (String.ofList ((Text.trimBlanks text.toList).drop 1).dropLast))

/-- A decimal integer. -/
def integer : Builder := fun text =>
  match Number.readDecimal (Text.trimBlanks text.toList) with
  | .ok value => .ok (.integer value)
  | .error .malformed => .error (.notInteger 10 (Text.trim text))
  | .error (.tooLong digits) => .error (.integerTooLong digits)

/-- A hexadecimal integer. -/
def hexadecimal : Builder := fun text =>
  match Number.readHexadecimal (Text.trimBlanks text.toList) with
  | .ok value => .ok (.integer value)
  | .error _ => .error (.notInteger 16 (Text.trim text))

/-- A double. -/
def double : Builder := fun text =>
  match Double.read (Text.trimBlanks text.toList) with
  | some value => .ok (.double value)
  | none => .error (.notDouble (Text.trim text))

/-- A base type. -/
def baseType : Builder := fun text => .ok (.baseType (Text.trim text))

/-- The result of a function that returns nothing. -/
def void : Builder := fun _ => .ok .void

/-- A requiredness. -/
def requiredness : Builder := fun text =>
  match Text.trim text with
  | "required" => .ok (.requiredness .required)
  | "optional" => .ok (.requiredness .optional)
  | word => .error (.notRequiredness word)

/-- The language that a namespace is for. -/
def scope : Builder := fun text => .ok (.literal (Text.trim text))

end ThriftSchema.Leaf
