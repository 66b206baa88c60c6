import ThriftSchema.Outline.Basic
import ThriftSchema.Schema.Document

set_option autoImplicit false

/-! # Outlines of document parts

Every part of a document has an outline. A field that is missing is there as `absent`, so that
the fields of a node depend on its kind alone.
-/

namespace ThriftSchema

open Outline

/-- The outline of a name that refers to something. -/
def Outline.identifier (name : String) : Outline :=
  node "IdentifierNode" [("name", text name)]

/-- The outline of a type. -/
def FieldType.outline : FieldType → Outline
  | named name => .identifier name
  | base name => node "BaseTypeNode" [("name", text name)]
  | map key value hint =>
    node "MapTypeNode" [("key", key.outline), ("value", value.outline), ("cpp_type", ofText? hint)]
  | set element hint =>
    node "SetTypeNode" [("element", element.outline), ("cpp_type", ofText? hint)]
  | list element hint =>
    node "ListTypeNode" [("element", element.outline), ("cpp_type", ofText? hint)]

mutual

/-- The outline of a constant. -/
def ConstValue.outline : ConstValue → Outline
  | .integer value => node "IntConstNode" [("value", integer value)]
  | .double value => node "DoubleConstNode" [("value", double value)]
  | .literal value => node "LiteralNode" [("value", text value)]
  | .reference name => .identifier name
  | .list values => node "ConstListNode" [("values", tuple (constOutlines values))]
  | .map entries => node "ConstMapNode" [("entries", tuple (entryOutlines entries))]

/-- The outlines of constants. -/
def constOutlines : List ConstValue → List Outline
  | [] => []
  | value :: values => value.outline :: constOutlines values

/-- The outlines of map entries. -/
def entryOutlines : List (ConstValue × ConstValue) → List Outline
  | [] => []
  | (key, value) :: entries =>
    node "ConstMapEntryNode" [("key", key.outline), ("value", value.outline)]
      :: entryOutlines entries

end

/-- The word of a requiredness. -/
def Requiredness.word : Requiredness → String
  | required => "required"
  | optional => "optional"

/-- The outline of a requiredness. -/
def Requiredness.outline : Requiredness → Outline
  | required => member "Requiredness" "REQUIRED" "required"
  | optional => member "Requiredness" "OPTIONAL" "optional"

/-- The outline of something that may be missing. -/
def Outline.ofOption {α : Type} (outline : α → Outline) : Option α → Outline
  | none => absent
  | some value => outline value

mutual

/-- The outline of a field. -/
def Field.outline : Field → Outline
  | ⟨type, name, id, default, requiredness, exported⟩ =>
    node "FieldNode" [
      ("field_type", type.outline),
      ("name", text name),
      ("field_id", ofInteger? id),
      ("default", .ofOption ConstValue.outline default),
      ("requiredness", .ofOption Requiredness.outline requiredness),
      ("xsd_options", exportedOutline exported)]

/-- The outline of the export options of a field. -/
def exportedOutline : Option (ExportOptions Field) → Outline
  | none => absent
  | some ⟨optional, nillable, attributes⟩ =>
    node "XsdFieldOptionsNode" [
      ("optional", flag optional),
      ("nillable", flag nillable),
      ("attributes", tuple (fieldOutlines attributes))]

/-- The outlines of fields. -/
def fieldOutlines : List Field → List Outline
  | [] => []
  | field :: fields => field.outline :: fieldOutlines fields

end

/-- The outline of export options. -/
def ExportOptions.outline (options : ExportOptions Field) : Outline :=
  exportedOutline (some options)

/-- The outline of a list of thrown errors. -/
def throwsOutline (fields : List Field) : Outline :=
  node "ThrowsNode" [("fields", tuple (fieldOutlines fields))]

/-- The outline of a result type. -/
def ReturnType.outline : ReturnType → Outline
  | void => node "VoidNode" []
  | type t => t.outline

/-- The outline of a function. -/
def Function.outline (f : Function) : Outline :=
  node "FunctionNode" [
    ("return_type", f.returns.outline),
    ("name", text f.name),
    ("arguments", tuple (fieldOutlines f.arguments)),
    ("throws", .ofOption throwsOutline f.throws),
    ("oneway", flag f.oneway)]

/-- The node name of a header. -/
def Header.kind : Header → String
  | .include _ => "IncludeNode"
  | cppInclude _ => "CppIncludeNode"
  | targetNamespace _ _ => "NamespaceNode"
  | phpNamespace _ => "PhpNamespaceNode"
  | xsdNamespace _ => "XsdNamespaceNode"
  | smalltalkCategory _ => "SmalltalkCategoryNode"
  | smalltalkPrefix _ => "SmalltalkPrefixNode"

/-- The fields of a header in an outline. -/
def Header.outlineFields : Header → List (String × Outline)
  | .include path | cppInclude path => [("path", text path)]
  | targetNamespace scope name => [("scope", text scope), ("name", .identifier name)]
  | phpNamespace name | xsdNamespace name | smalltalkCategory name | smalltalkPrefix name =>
    [("name", .identifier name)]

/-- The outline of a header. -/
def Header.outline (h : Header) : Outline := node h.kind h.outlineFields

/-- The outline of a value of an enumeration. -/
def EnumValue.outline (v : EnumValue) : Outline :=
  node "EnumValueNode" [
    ("name", text v.name), ("value", ofInteger? v.value), ("auto_numbered", flag v.counted)]

/-- The node name of a definition. -/
def Definition.kind : Definition → String
  | const _ _ _ => "ConstNode"
  | typedef _ _ => "TypedefNode"
  | enum _ _ => "EnumNode"
  | senum _ _ => "SenumNode"
  | struct _ _ _ => "StructNode"
  | union _ _ _ => "UnionNode"
  | exception _ _ => "ExceptionNode"
  | service _ _ _ => "ServiceNode"

/-- The fields of a definition in an outline. -/
def Definition.outlineFields : Definition → List (String × Outline)
  | const type name value =>
    [("const_type", type.outline), ("name", text name), ("value", value.outline)]
  | typedef type name => [("definition_type", type.outline), ("name", text name)]
  | enum name values => [("name", text name), ("values", tuple (values.map EnumValue.outline))]
  | senum name values => [("name", text name), ("values", tuple (values.map text))]
  | struct name fields exportAll | union name fields exportAll =>
    [("name", text name), ("fields", tuple (fieldOutlines fields)),
      ("xsd_all", flag exportAll)]
  | exception name fields => [("name", text name), ("fields", tuple (fieldOutlines fields))]
  | service name parent functions =>
    [("name", text name), ("extends", .ofOption .identifier parent),
      ("functions", tuple (functions.map Function.outline))]

/-- The outline of a definition. -/
def Definition.outline (d : Definition) : Outline := node d.kind d.outlineFields

/-- The outline of a document. -/
def Document.outline (d : Document) : Outline :=
  node "ThriftDocument" [
    ("headers", list (d.headers.map Header.outline)),
    ("definitions", list (d.definitions.map Definition.outline))]

/-- The definitions of a node name. -/
def Document.definitionsOf (d : Document) (kind : String) : List Definition :=
  d.definitions.filter fun definition => definition.kind == kind

/-- Whether two documents have equal headers and equal definitions. -/
def Document.sameValue (d e : Document) : Bool := d.outline.sameValue e.outline

end ThriftSchema
