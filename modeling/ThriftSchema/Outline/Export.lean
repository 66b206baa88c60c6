import ThriftSchema.Json
import ThriftSchema.Outline.OfSchema

set_option autoImplicit false

/-! # The export of a document

The export turns an outline into a JSON value: a node becomes an object that holds the name of
the node under `node` and then its fields, tuples and lists become arrays, a member of an
enumeration becomes its word, and what is absent becomes `null`.

* `Outline.toJson`: the export of an outline.
* `Document.toJson`: the export of a document.
-/

namespace ThriftSchema

mutual

/-- The JSON value of an outline. -/
def Outline.toJson : Outline → Json
  | .absent => .null
  | .flag value => .bool value
  | .integer value => .integer value
  | .double value => .double value
  | .text value => .string value
  | .member _ _ word => .string word
  | .node kind fields => .object (("node", .string kind) :: fieldsToJson fields)
  | .tuple items | .list items => .array (itemsToJson items)

/-- The JSON values of items. -/
def itemsToJson : List Outline → List Json
  | [] => []
  | item :: items => item.toJson :: itemsToJson items

/-- The JSON members of fields. -/
def fieldsToJson : List (String × Outline) → List (String × Json)
  | [] => []
  | (name, value) :: fields => (name, value.toJson) :: fieldsToJson fields

end

/-- The JSON value of a document. -/
def Document.toJson (d : Document) : Json := d.outline.toJson

end ThriftSchema
