import ThriftSchema.Number.Shortest
import ThriftSchema.Text.Quoted

set_option autoImplicit false

/-! # Outlines

An outline shows a document part as a tree of named nodes with named fields. It is what the
export, the printed tree and the messages have in common: each of them is a function of the
outline alone.

* `Outline`: the type.
* `Outline.sameValue`: equality of values.
* `Outline.describe`: an outline on one line, as messages show it.
* `Outline.isWritable`: whether all integers in it can be written in decimal.
-/

namespace ThriftSchema

open Number (Double)

/-- A value seen through its node names and field names. -/
inductive Outline where
  | absent
  | flag (value : Bool)
  | integer (value : Int)
  | double (value : Double)
  | text (value : String)
  /-- A member of an enumeration: its type, its name, and the word it stands for. -/
  | member (type name word : String)
  | node (kind : String) (fields : List (String × Outline))
  | tuple (items : List Outline)
  | list (items : List Outline)
deriving Repr

namespace Outline

/-- A text that may be missing. -/
def ofText? : Option String → Outline
  | none => absent
  | some value => text value

/-- An integer that may be missing. -/
def ofInteger? : Option Int → Outline
  | none => absent
  | some value => integer value

/-- The field of a node. -/
def field? (name : String) : Outline → Option Outline
  | node _ fields => fields.lookup name
  | _ => none

/-- The item of a tuple or list. -/
def item? (index : Nat) : Outline → Option Outline
  | tuple items | list items => items[index]?
  | _ => none

/-! ## Equality of values -/

mutual

/-- Equality of values: nodes of one kind with equal fields; zero has no sign. -/
def sameValue : Outline → Outline → Bool
  | absent, absent => true
  | flag a, flag b => a == b
  | integer a, integer b => a == b
  | double a, double b => a.sameValue b
  | text a, text b => a == b
  | member _ _ a, member _ _ b => a == b
  | node kind fields, node kind' fields' => kind == kind' && sameFields fields fields'
  | tuple items, tuple items' => sameItems items items'
  | list items, list items' => sameItems items items'
  | _, _ => false

/-- Equality of two lists of items. -/
def sameItems : List Outline → List Outline → Bool
  | [], [] => true
  | a :: as, b :: bs => sameValue a b && sameItems as bs
  | _, _ => false

/-- Equality of two lists of fields. -/
def sameFields : List (String × Outline) → List (String × Outline) → Bool
  | [], [] => true
  | (name, a) :: as, (name', b) :: bs => name == name' && sameValue a b && sameFields as bs
  | _, _ => false

end

/-! ## One line -/

/-- The word for a truth value. -/
def flagWord (value : Bool) : String := if value then "True" else "False"

mutual

/-- An outline on one line. -/
def describe : Outline → String
  | absent => "None"
  | flag value => flagWord value
  | integer value => toString value
  | double value => value.text
  | text value => Text.quote value
  | member type name word => "<" ++ type ++ "." ++ name ++ ": " ++ Text.quote word ++ ">"
  | node kind fields => kind ++ "(" ++ ", ".intercalate (describeFields fields) ++ ")"
  | tuple [item] => "(" ++ describe item ++ ",)"
  | tuple items => "(" ++ ", ".intercalate (describeItems items) ++ ")"
  | list items => "[" ++ ", ".intercalate (describeItems items) ++ "]"

/-- Each item on one line. -/
def describeItems : List Outline → List String
  | [] => []
  | item :: items => describe item :: describeItems items

/-- Each field on one line, after its name. -/
def describeFields : List (String × Outline) → List String
  | [] => []
  | (name, value) :: fields => (name ++ "=" ++ describe value) :: describeFields fields

end

/-- An outline on one line, where a name is shown bare and a member by its name. -/
def display : Outline → String
  | node "IdentifierNode" [("name", text name)] => name
  | member type name _ => type ++ "." ++ name
  | text value => value
  | other => other.describe

/-! ## Writable integers -/

mutual

/-- Whether every integer in an outline can be written in decimal. -/
def isWritable : Outline → Bool
  | integer value => Number.isWritable value
  | node _ fields => fieldsWritable fields
  | tuple items | list items => itemsWritable items
  | _ => true

/-- Whether every integer in a list of items can be written in decimal. -/
def itemsWritable : List Outline → Bool
  | [] => true
  | item :: items => isWritable item && itemsWritable items

/-- Whether every integer in a list of fields can be written in decimal. -/
def fieldsWritable : List (String × Outline) → Bool
  | [] => true
  | (_, value) :: fields => isWritable value && fieldsWritable fields

end

end Outline

end ThriftSchema
