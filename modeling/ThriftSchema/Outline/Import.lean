import ThriftSchema.Outline.Export

set_option autoImplicit false

/-! # Reading an export back

An object of an export holds the name of its node first, and then the fields of that node in their
order. Texts, flags and arrays mean what the field that they stand in says.

* `Document.ofJson?`: the document of an export.
-/

namespace ThriftSchema

/-! ## Plain values -/

namespace Json

/-- A text, or nothing. -/
def asText? : Json → Option (Option String)
  | null => some none
  | string value => some (some value)
  | _ => none

/-- An integer, or nothing. -/
def asInteger? : Json → Option (Option Int)
  | null => some none
  | integer value => some (some value)
  | _ => none

/-- A value that is read, or nothing. -/
def asOption? {α : Type} (read : Json → Option α) : Json → Option (Option α)
  | null => some none
  | json => (read json).map some

/-- A text. -/
def text? : Json → Option String
  | string value => some value
  | _ => none

end Json

/-- The name in the export of something that refers to it. -/
def Json.identifier? : Json → Option String
  | .object [("node", .string "IdentifierNode"), ("name", .string name)] => some name
  | _ => none

/-! ## Types and constants -/

/-- The type of an export. -/
def FieldType.ofJson? : Json → Option FieldType
  | .object [("node", .string "IdentifierNode"), ("name", .string name)] => some (.named name)
  | .object [("node", .string "BaseTypeNode"), ("name", .string name)] => some (.base name)
  | .object [("node", .string "MapTypeNode"), ("key", key), ("value", value),
      ("cpp_type", hint)] =>
    return .map (← ofJson? key) (← ofJson? value) (← hint.asText?)
  | .object [("node", .string "SetTypeNode"), ("element", element), ("cpp_type", hint)] =>
    return .set (← ofJson? element) (← hint.asText?)
  | .object [("node", .string "ListTypeNode"), ("element", element), ("cpp_type", hint)] =>
    return .list (← ofJson? element) (← hint.asText?)
  | _ => none
termination_by structural json => json

mutual

/-- The constant of an export. -/
def ConstValue.ofJson? : Json → Option ConstValue
  | .object [("node", .string "IntConstNode"), ("value", .integer value)] =>
    some (.integer value)
  | .object [("node", .string "DoubleConstNode"), ("value", .double value)] =>
    some (.double value)
  | .object [("node", .string "LiteralNode"), ("value", .string text)] => some (.literal text)
  | .object [("node", .string "IdentifierNode"), ("name", .string name)] =>
    some (.reference name)
  | .object [("node", .string "ConstListNode"), ("values", .array values)] =>
    return .list (← constsOfJson? values)
  | .object [("node", .string "ConstMapNode"), ("entries", .array entries)] =>
    return .map (← entriesOfJson? entries)
  | _ => none
termination_by structural json => json

/-- The constants of exports. -/
def constsOfJson? : List Json → Option (List ConstValue)
  | [] => some []
  | json :: rest => return (← ConstValue.ofJson? json) :: (← constsOfJson? rest)
termination_by structural jsons => jsons

/-- The map entries of exports. -/
def entriesOfJson? : List Json → Option (List (ConstValue × ConstValue))
  | [] => some []
  | .object [("node", .string "ConstMapEntryNode"), ("key", key), ("value", value)] :: rest =>
    return (← ConstValue.ofJson? key, ← ConstValue.ofJson? value) :: (← entriesOfJson? rest)
  | _ => none
termination_by structural jsons => jsons

end

/-! ## Fields and functions -/

/-- The requiredness of an export. -/
def Requiredness.ofJson? : Json → Option Requiredness
  | .string "required" => some required
  | .string "optional" => some optional
  | _ => none

mutual

/-- The field of an export. -/
def Field.ofJson? : Json → Option Field
  | .object [("node", .string "FieldNode"), ("field_type", type), ("name", .string name),
      ("field_id", id), ("default", default), ("requiredness", requiredness),
      ("xsd_options", exported)] =>
    return ⟨← FieldType.ofJson? type, name, ← id.asInteger?,
      ← default.asOption? ConstValue.ofJson?, ← requiredness.asOption? Requiredness.ofJson?,
      ← exportedOfJson? exported⟩
  | _ => none
termination_by structural json => json

/-- The export options of a field, or that there are none. -/
def exportedOfJson? : Json → Option (Option (ExportOptions Field))
  | .null => some none
  | .object [("node", .string "XsdFieldOptionsNode"), ("optional", .bool optional),
      ("nillable", .bool nillable), ("attributes", .array attributes)] =>
    return some ⟨optional, nillable, ← fieldsOfJson? attributes⟩
  | _ => none
termination_by structural json => json

/-- The fields of exports. -/
def fieldsOfJson? : List Json → Option (List Field)
  | [] => some []
  | json :: rest => return (← Field.ofJson? json) :: (← fieldsOfJson? rest)
termination_by structural jsons => jsons

end

/-- The thrown errors of an export. -/
def throwsOfJson? : Json → Option (List Field)
  | .object [("node", .string "ThrowsNode"), ("fields", .array fields)] => fieldsOfJson? fields
  | _ => none

/-- The result type of an export. -/
def ReturnType.ofJson? : Json → Option ReturnType
  | .object [("node", .string "VoidNode")] => some .void
  | json => (FieldType.ofJson? json).map .type

/-- The function of an export. -/
def Function.ofJson? : Json → Option Function
  | .object [("node", .string "FunctionNode"), ("return_type", returns), ("name", .string name),
      ("arguments", .array arguments), ("throws", throws), ("oneway", .bool oneway)] =>
    return ⟨← ReturnType.ofJson? returns, name, ← fieldsOfJson? arguments,
      ← throws.asOption? throwsOfJson?, oneway⟩
  | _ => none

/-! ## Headers and definitions -/

/-- The header of an export. -/
def Header.ofJson? : Json → Option Header
  | .object [("node", .string "IncludeNode"), ("path", .string path)] => some (.include path)
  | .object [("node", .string "CppIncludeNode"), ("path", .string path)] =>
    some (.cppInclude path)
  | .object [("node", .string "NamespaceNode"), ("scope", .string scope), ("name", name)] =>
    return .targetNamespace scope (← name.identifier?)
  | .object [("node", .string "PhpNamespaceNode"), ("name", name)] =>
    return .phpNamespace (← name.identifier?)
  | .object [("node", .string "XsdNamespaceNode"), ("name", name)] =>
    return .xsdNamespace (← name.identifier?)
  | .object [("node", .string "SmalltalkCategoryNode"), ("name", name)] =>
    return .smalltalkCategory (← name.identifier?)
  | .object [("node", .string "SmalltalkPrefixNode"), ("name", name)] =>
    return .smalltalkPrefix (← name.identifier?)
  | _ => none

/-- The value of an enumeration of an export. -/
def EnumValue.ofJson? : Json → Option EnumValue
  | .object [("node", .string "EnumValueNode"), ("name", .string name), ("value", value),
      ("auto_numbered", .bool counted)] =>
    return ⟨name, ← value.asInteger?, counted⟩
  | _ => none

/-- The definition of an export. -/
def Definition.ofJson? : Json → Option Definition
  | .object [("node", .string "ConstNode"), ("const_type", type), ("name", .string name),
      ("value", value)] =>
    return .const (← FieldType.ofJson? type) name (← ConstValue.ofJson? value)
  | .object [("node", .string "TypedefNode"), ("definition_type", type),
      ("name", .string name)] =>
    return .typedef (← FieldType.ofJson? type) name
  | .object [("node", .string "EnumNode"), ("name", .string name), ("values", .array values)] =>
    return .enum name (← values.mapM EnumValue.ofJson?)
  | .object [("node", .string "SenumNode"), ("name", .string name), ("values", .array values)] =>
    return .senum name (← values.mapM Json.text?)
  | .object [("node", .string "StructNode"), ("name", .string name), ("fields", .array fields),
      ("xsd_all", .bool exportAll)] =>
    return .struct name (← fieldsOfJson? fields) exportAll
  | .object [("node", .string "UnionNode"), ("name", .string name), ("fields", .array fields),
      ("xsd_all", .bool exportAll)] =>
    return .union name (← fieldsOfJson? fields) exportAll
  | .object [("node", .string "ExceptionNode"), ("name", .string name),
      ("fields", .array fields)] =>
    return .exception name (← fieldsOfJson? fields)
  | .object [("node", .string "ServiceNode"), ("name", .string name), ("extends", parent),
      ("functions", .array functions)] =>
    return .service name (← parent.asOption? Json.identifier?)
      (← functions.mapM Function.ofJson?)
  | _ => none

/-! ## Documents -/

/-- The document of an export. -/
def Document.ofJson? : Json → Option Document
  | .object [("node", .string "ThriftDocument"), ("headers", .array headers),
      ("definitions", .array definitions)] =>
    return ⟨← headers.mapM Header.ofJson?, ← definitions.mapM Definition.ofJson?⟩
  | _ => none

end ThriftSchema
