import ThriftSchema.Production
import ThriftSchema.Proofs.Reader.Basic

set_option autoImplicit false

/-! # The readers of the productions

Every production has a reader, which gives the part of a document that the production builds. A
reader hands the parts of its parts on as values; what the production keeps on the stack and in
the frame is nowhere to be seen.

* `Reader.identifier`, `Reader.literal` and the others: leaves, with the layout behind them.
* `Reader.fieldType`, `Reader.constant`, `Reader.field`: down to a depth of references.
* `Reader.document`: a whole document.
-/

namespace ThriftSchema

open Number (Double)

/-- Reads a part of a document. -/
abbrev PartReader (α : Type) := Reader BuildError α

namespace Reader

/-! ## Tokens -/

/-- A text without the layout at its front. -/
def skipLayout (cs : List Char) : List Char := cs.dropWhile Pattern.isLayout

/-- What is skipped is layout. -/
theorem exists_layout (cs : List Char) :
    ∃ blanks, cs = blanks ++ skipLayout cs ∧ ∀ c ∈ blanks, Pattern.isLayout c = true :=
  ⟨cs.takeWhile Pattern.isLayout, List.takeWhile_append_dropWhile.symm,
    List.all_eq_true.1 List.all_takeWhile⟩

/-- Skips layout. -/
def layout : PartReader Unit := fun input => .read () (skipLayout input)

/-- What a reader takes, and the layout behind it. -/
def spaced {α : Type} (p : PartReader α) : PartReader α := do
  let value ← p
  layout
  return value

theorem layout_eq (input : List Char) : layout input = .read () (skipLayout input) := rfl

theorem spaced_eq_read {α : Type} {p : PartReader α} {input rest : List Char} {a : α} :
    spaced p input = .read a rest ↔
      ∃ middle, p input = .read a middle ∧ skipLayout middle = rest := by
  simp only [spaced, bind_eq_read, layout_eq, pure_apply, Attempt.read.injEq]
  constructor
  · rintro ⟨_, middle, hp, _, _, ⟨-, rfl⟩, rfl, rfl⟩
    exact ⟨middle, hp, rfl⟩
  · rintro ⟨middle, hp, rfl⟩
    exact ⟨a, middle, hp, (), _, ⟨trivial, rfl⟩, rfl, rfl⟩

/-- The characters that a pattern measures. -/
def measured (pattern : Pattern) : PartReader (List Char) := fun input =>
  match pattern.measure input with
  | none => .failed
  | some count => .read (input.take count) (input.drop count)

/-- The characters of a word that does not run on into a name. -/
def keyword (text : String) : PartReader Unit := fun input =>
  if startsWithWord text.toList input then .read () (input.drop text.length) else .failed

/-- The characters of a text. -/
def characters (text : String) : PartReader Unit := fun input =>
  if text.toList.isPrefixOf input then .read () (input.drop text.length) else .failed

/-- The first of some words. -/
def firstKeyword : List String → PartReader String
  | [] => fail
  | text :: texts => (do keyword text; return text) <|> firstKeyword texts

/-- A lexeme of a pattern. -/
def lexeme (pattern : Pattern) : PartReader (List Char) := spaced (measured pattern)

/-- A word of the language. -/
def word (text : String) : PartReader Unit := spaced (keyword text)

/-- A punctuation mark. -/
def symbol (text : String) : PartReader Unit := spaced (characters text)

/-- One of some words. -/
def oneOf (words : List String) : PartReader String := spaced (firstKeyword words)

/-- Whether a word is there. -/
def flag (text : String) : PartReader Bool := do
  return (← optional (word text)).isSome

/-- A name. -/
def identifier : PartReader String := do
  return String.ofList (← lexeme Pattern.identifier)

/-- A name that may hold dashes. -/
def dashedIdentifier : PartReader String := do
  return String.ofList (← lexeme Pattern.dashedIdentifier)

/-- The text between two quotes. -/
def literal : PartReader String := do
  return String.ofList ((← lexeme Pattern.literal).drop 1).dropLast

/-- The value of decimal digits. -/
def decimalValue (cs : List Char) : PartReader Int :=
  match Number.readDecimal cs with
  | .ok value => pure value
  | .error (.tooLong digits) => stop (.raised (.integerTooLong digits))
  | .error .malformed => fail

/-- A decimal integer. -/
def integer : PartReader Int := do
  decimalValue (← lexeme Pattern.integer)

/-- The value of a hexadecimal numeral. -/
def hexadecimalValue (cs : List Char) : PartReader Int :=
  match Number.readHexadecimal cs with
  | .ok value => pure value
  | .error _ => fail

/-- A hexadecimal integer. -/
def hexadecimal : PartReader Int := do
  hexadecimalValue (← lexeme Pattern.hexadecimal)

/-- The value of a decimal. -/
def doubleValue (cs : List Char) : PartReader Double :=
  match Double.read cs with
  | some value => pure value
  | none => fail

/-- A number with a fraction or an exponent. -/
def double : PartReader Double := do
  doubleValue (← lexeme Pattern.decimal)

/-- A comma or a semicolon, or nothing. -/
def separator : PartReader Unit := do
  let _ ← optional (lexeme Pattern.separator)

/-! ## Types -/

/-- A hint for the type that implements a container. -/
def hint : PartReader (Option String) :=
  optional do
    word "cpp_type"
    literal

/-- A map type over given types. -/
def mapType (type : PartReader FieldType) : PartReader FieldType := do
  word "map"
  let hint ← hint
  symbol "<"
  let key ← type
  symbol ","
  let value ← type
  symbol ">"
  return .map key value hint

/-- A set type over given types. -/
def setType (type : PartReader FieldType) : PartReader FieldType := do
  word "set"
  let hint ← hint
  symbol "<"
  let element ← type
  symbol ">"
  return .set element hint

/-- A list type over given types. -/
def listType (type : PartReader FieldType) : PartReader FieldType := do
  word "list"
  symbol "<"
  let element ← type
  symbol ">"
  let hint ← hint
  return .list element hint

/-- A container type over given types. -/
def containerType (type : PartReader FieldType) : PartReader FieldType :=
  mapType type <|> setType type <|> listType type <|> fail

/-- A base type. -/
def baseType : PartReader FieldType := do
  return .base (← oneOf Production.baseTypeNames)

/-- A defined type, by its name. -/
def namedType : PartReader FieldType := do
  return .named (← identifier)

/-- A field type, down to a depth. -/
def fieldType : Nat → PartReader FieldType
  | 0 => stop .nestingTooDeep
  | depth + 1 => containerType (fieldType depth) <|> baseType <|> namedType <|> fail

/-- A type that can get a new name. -/
def definitionType (type : PartReader FieldType) : PartReader FieldType :=
  baseType <|> containerType type <|> fail

/-- What a function returns. -/
def returnType (type : PartReader FieldType) : PartReader ReturnType :=
  (do word "void"; return .void) <|> (do return .type (← type)) <|> fail

/-! ## Constants -/

/-- A constant and the separator behind it. -/
def listItem (constant : PartReader ConstValue) : PartReader ConstValue := do
  let value ← constant
  separator
  return value

/-- A list of given constants. -/
def constantList (constant : PartReader ConstValue) : PartReader ConstValue := do
  symbol "["
  let values ← many (listItem constant)
  symbol "]"
  return .list values

/-- A key and its value. -/
def mapEntry (constant : PartReader ConstValue) : PartReader (ConstValue × ConstValue) := do
  let key ← constant
  symbol ":"
  let value ← constant
  separator
  return (key, value)

/-- A map of given constants. -/
def constantMap (constant : PartReader ConstValue) : PartReader ConstValue := do
  symbol "\x7b"
  let entries ← many (mapEntry constant)
  symbol "\x7d"
  return .map entries

/-- A constant, down to a depth. -/
def constant : Nat → PartReader ConstValue
  | 0 => stop .nestingTooDeep
  | depth + 1 =>
    (do return .integer (← hexadecimal)) <|> (do return .double (← double))
      <|> (do return .integer (← integer)) <|> (do return .literal (← literal))
      <|> (do return .reference (← identifier)) <|> constantList (constant depth)
      <|> constantMap (constant depth) <|> fail

/-! ## Fields -/

/-- The number of a field. -/
def fieldId : PartReader Int := do
  let id ← integer
  symbol ":"
  return id

/-- The requiredness that a word says. -/
def requirednessOf : String → PartReader Requiredness
  | "required" => pure .required
  | "optional" => pure .optional
  | _ => fail

/-- Whether a field is required. -/
def requiredness : PartReader Requiredness := do
  requirednessOf (← oneOf ["required", "optional"])

/-- A value behind an equals sign. -/
def assigned {α : Type} (value : PartReader α) : PartReader α := do
  symbol "="
  value

/-- A word and a block of given fields between two marks. -/
def block (text opener closer : String) (field : PartReader Field) :
    PartReader (List Field) := do
  word text
  symbol opener
  let fields ← many field
  symbol closer
  return fields

/-- A block of attributes over given fields. -/
def attributes (field : PartReader Field) : PartReader (List Field) :=
  block "xsd_attrs" "\x7b" "\x7d" field

/-- The errors that a function throws, over given fields. -/
def throws (field : PartReader Field) : PartReader (List Field) :=
  block "throws" "(" ")" field

/-- The requiredness that options keep. -/
def keptRequiredness (options : BuildOptions) (requiredness : Option Requiredness) :
    Option Requiredness :=
  if options.retainRequiredness then requiredness else none

/-- A field over given types, constants and fields. -/
def fieldOver (options : BuildOptions) (type : PartReader FieldType)
    (constant : PartReader ConstValue) (field : PartReader Field) : PartReader Field := do
  let id ← optional fieldId
  let requiredness ← optional requiredness
  let type ← type
  let name ← identifier
  let default ← optional (assigned constant)
  let isOptional ← flag "xsd_optional"
  let isNillable ← flag "xsd_nillable"
  let attributes ← optional (attributes field)
  separator
  return ⟨type, name, id, default, keptRequiredness options requiredness,
    Reduction.exportOptions isOptional isNillable (attributes.map fun as => ⟨false, false, as⟩)⟩

/-- A field, down to a depth. -/
def field (options : BuildOptions) : Nat → PartReader Field
  | 0 => stop .nestingTooDeep
  | depth + 1 => fieldOver options (fieldType depth) (constant depth) (field options depth)

/-! ## Definitions -/

/-- A function over given types and fields. -/
def function (type : PartReader FieldType) (field : PartReader Field) :
    PartReader Function := do
  let oneway ← flag "oneway"
  let returns ← returnType type
  let name ← identifier
  symbol "("
  let arguments ← many field
  symbol ")"
  let throws ← optional (throws field)
  separator
  return ⟨returns, name, arguments, throws, oneway⟩

/-- A value of an enumeration. -/
def enumValue : PartReader EnumValue := do
  let name ← identifier
  let value ← optional (assigned (hexadecimal <|> integer <|> fail))
  separator
  return ⟨name, value, false⟩

/-- A literal and the separator behind it. -/
def literalItem : PartReader String := do
  let text ← literal
  separator
  return text

/-- A constant with a name. -/
def const (depth : Nat) : PartReader Definition := do
  word "const"
  let type ← fieldType depth
  let name ← identifier
  symbol "="
  let value ← constant depth
  separator
  return .const type name value

/-- A new name for a type. -/
def typedef (depth : Nat) : PartReader Definition := do
  word "typedef"
  let type ← definitionType (fieldType depth)
  let name ← identifier
  separator
  return .typedef type name

/-- The values of an enumeration, counted on if the options say so. -/
def countedValues (options : BuildOptions) (values : List EnumValue) : List EnumValue :=
  if options.numberEnums then countOn 0 values else values

/-- An enumeration. -/
def enum (options : BuildOptions) : PartReader Definition := do
  word "enum"
  let name ← identifier
  symbol "\x7b"
  let values ← many enumValue
  symbol "\x7d"
  return .enum name (countedValues options values)

/-- An enumeration of literals. -/
def senum : PartReader Definition := do
  word "senum"
  let name ← identifier
  symbol "\x7b"
  let values ← many literalItem
  symbol "\x7d"
  return .senum name values

/-- A word, a name, a flag and fields, which `make` puts together. -/
def flaggedFields (text : String) (make : String → List Field → Bool → Definition)
    (options : BuildOptions) (depth : Nat) : PartReader Definition := do
  word text
  let name ← identifier
  let exportAll ← flag "xsd_all"
  symbol "\x7b"
  let fields ← many (field options depth)
  symbol "\x7d"
  return make name fields exportAll

/-- A struct. -/
def struct (options : BuildOptions) (depth : Nat) : PartReader Definition :=
  flaggedFields "struct" .struct options depth

/-- A union. -/
def union (options : BuildOptions) (depth : Nat) : PartReader Definition :=
  flaggedFields "union" .union options depth

/-- An exception. -/
def exception (options : BuildOptions) (depth : Nat) : PartReader Definition := do
  word "exception"
  let name ← identifier
  symbol "\x7b"
  let fields ← many (field options depth)
  symbol "\x7d"
  return .exception name fields

/-- The name of the service that another one extends. -/
def parent : PartReader String := do
  word "extends"
  identifier

/-- A service. -/
def service (options : BuildOptions) (depth : Nat) : PartReader Definition := do
  word "service"
  let name ← identifier
  let parent ← optional parent
  symbol "\x7b"
  let functions ← many (function (fieldType depth) (field options depth))
  symbol "\x7d"
  return .service name parent functions

/-- A definition. -/
def definition (options : BuildOptions) (depth : Nat) : PartReader Definition :=
  const depth <|> typedef depth <|> enum options <|> senum <|> struct options depth
    <|> union options depth <|> exception options depth <|> service options depth <|> fail

/-! ## Headers and the document -/

/-- A word and a literal, which `make` turns into a header. -/
def literalHeader (text : String) (make : String → Header) : PartReader Header := do
  word text
  return make (← literal)

/-- A category for classes. -/
def smalltalkCategory : PartReader Header := do
  word "smalltalk.category"
  return .smalltalkCategory (← dashedIdentifier)

/-- A prefix for classes. -/
def smalltalkPrefix : PartReader Header := do
  word "smalltalk.prefix"
  return .smalltalkPrefix (← identifier)

/-- The scope and the name of a namespace. -/
def scopedName : PartReader Header := do
  let scope ← oneOf Production.namespaceScopes
  return .targetNamespace scope (← identifier)

/-- A namespace. -/
def targetNamespace : PartReader Header := do
  word "namespace"
  smalltalkCategory <|> smalltalkPrefix <|> scopedName <|> fail

/-- A header. -/
def header : PartReader Header :=
  literalHeader "include" .include <|> literalHeader "cpp_include" .cppInclude
    <|> targetNamespace
    <|> literalHeader "php_namespace" (fun text => .phpNamespace (Text.trim text))
    <|> literalHeader "xsd_namespace" (fun text => .xsdNamespace (Text.trim text)) <|> fail

/-- The end of the text. -/
def finish : PartReader Unit := fun input =>
  match input with
  | [] => .read () []
  | _ :: _ => .failed

/-- A document, where references nest down to a depth. -/
def document (options : BuildOptions) (depth : Nat) : PartReader Document := do
  layout
  let headers ← many header
  let definitions ← many (definition options depth)
  finish
  return ⟨headers, definitions⟩

end Reader

end ThriftSchema
