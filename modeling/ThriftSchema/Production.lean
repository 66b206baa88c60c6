import ThriftSchema.Assembly.Leaf
import ThriftSchema.Assembly.Reduction
import ThriftSchema.Rule.Run

set_option autoImplicit false

/-! # The productions of the interface language

Every production is a rule. A token takes the layout behind it, so that a production starts and
ends at a token. Parts that come before a list are captured in the frame of the production; the
others stay on the stack until the production ends with its reduction.

* `Production.fieldType`, `Production.constant`, `Production.field`: the productions that refer
  to themselves, each by its name.
* `Production.document`: a whole document.
* `Production.rules`: what the names refer to.
-/

namespace ThriftSchema

/-- A rule that assembles parts of a document. -/
abbrev Production := Rule Entry BuildError

namespace Production

/-! ## Tokens -/

/-- The blanks behind a token. -/
def layout : Production := .pattern "whitespace" Pattern.layout

/-- A rule and the layout behind it. -/
def spaced (rule : Production) : Production := .sequence [rule, layout]

/-- A word of the language. -/
def word (text : String) : Production := spaced (.keyword text)

/-- A punctuation mark. -/
def symbol (text : String) : Production := spaced (Rule.literal text)

/-- A leaf that is reported as one expectation. -/
def token (label : String) (build : Leaf.Builder) (rule : Production) : Production :=
  Rule.token label (.leaf build (spaced rule))

/-- A leaf of a pattern. -/
def ofPattern (label : String) (pattern : Pattern) (build : Leaf.Builder) : Production :=
  token label build (.pattern label pattern)

/-- A leaf that is one of some words. -/
def oneOf (label : String) (words : List String) (build : Leaf.Builder) : Production :=
  token label build (.firstOf (words.map .keyword))

/-- A word that sets the flag of its name. -/
def flagWord (text : String) : Production :=
  .opt (.sequence [word text, .setSlot text .flag])

/-- A name. -/
def identifier : Production := ofPattern "identifier" Pattern.identifier Leaf.identifier

/-- A name that may hold dashes. -/
def dashedIdentifier : Production :=
  ofPattern "identifier" Pattern.dashedIdentifier Leaf.identifier

/-- A quoted text. -/
def literal : Production := ofPattern "literal" Pattern.literal Leaf.literal

/-- A decimal integer. -/
def integer : Production := ofPattern "integer" Pattern.integer Leaf.integer

/-- A hexadecimal integer. -/
def hexadecimal : Production := ofPattern "hex integer" Pattern.hexadecimal Leaf.hexadecimal

/-- A number with a fraction or an exponent. -/
def double : Production := ofPattern "double" Pattern.decimal Leaf.double

/-- A comma or a semicolon, or nothing. -/
def separator : Production := .opt (spaced (.pattern "',' or ';'" Pattern.separator))

/-- The name of what is being defined. -/
def named : Production := .capture "name" identifier

/-- The end of a production. -/
def ending (name : String) (reduction : Reduction) : Production := .action name reduction

/-- The start of a list. -/
def opening (opener : String) : Production := .action "boundary" (Reduction.openList opener)

/-! ## Types -/

/-- The names of the base types. -/
def baseTypeNames : List String :=
  ["bool", "byte", "i8", "i16", "i32", "i64", "double", "string", "binary", "slist"]

/-- A base type. -/
def baseType : Production := oneOf "base type" baseTypeNames Leaf.baseType

/-- A field type, by its name. -/
def fieldTypeRef : Production := .ref "field type"

/-- A hint for the type that implements a container. -/
def hint : Production :=
  .opt (.capture "cpp_type" (.sequence [word "cpp_type", literal]))

/-- A map type. -/
def mapType : Production :=
  .scope <| .sequence [
    word "map", hint, symbol "<", .capture "key" fieldTypeRef, symbol ",",
    .capture "value" fieldTypeRef, symbol ">", ending "map type" Reduction.mapType]

/-- A set type. -/
def setType : Production :=
  .scope <| .sequence [
    word "set", hint, symbol "<", .capture "element" fieldTypeRef, symbol ">",
    ending "set type" Reduction.setType]

/-- A list type; its hint comes last. -/
def listType : Production :=
  .scope <| .sequence [
    word "list", symbol "<", .capture "element" fieldTypeRef, symbol ">", hint,
    ending "list type" Reduction.listType]

/-- A container type. -/
def containerType : Production := .firstOf [mapType, setType, listType]

/-- A field type. -/
def fieldType : Production := .firstOf [containerType, baseType, identifier]

/-- A type that can get a new name. -/
def definitionType : Production := .firstOf [baseType, containerType]

/-- What a function returns. -/
def returnType : Production := .firstOf [.leaf Leaf.void (word "void"), fieldTypeRef]

/-! ## Constants -/

/-- A constant, by its name. -/
def constantRef : Production := .ref "constant value"

/-- A list of constants. -/
def constantList : Production :=
  .sequence [
    symbol "[", opening "const_list", .star (.sequence [constantRef, separator]), symbol "]",
    ending "constant list" Reduction.constList]

/-- A key and its value. -/
def mapEntry : Production :=
  .sequence [
    constantRef, symbol ":", constantRef, separator, ending "map entry" Reduction.mapEntry]

/-- A map of constants. -/
def constantMap : Production :=
  .sequence [
    symbol "\x7b", opening "const_map", .star mapEntry, symbol "\x7d",
    ending "constant map" Reduction.constMap]

/-- A constant. -/
def constant : Production :=
  .firstOf [
    hexadecimal, double, integer, literal, identifier, constantList, constantMap]

/-! ## Fields -/

/-- A field, by its name. -/
def fieldRef : Production := .ref "field"

/-- The number of a field. -/
def fieldId : Production := .sequence [integer, symbol ":"]

/-- Whether a field is required. -/
def requiredness : Production :=
  oneOf "requiredness" ["required", "optional"] Leaf.requiredness

/-- A block of attributes. -/
def attributes : Production :=
  .sequence [
    word "xsd_attrs", symbol "\x7b", opening "xsd_attrs", .star fieldRef, symbol "\x7d",
    ending "attributes" Reduction.attributes]

/-- A field. -/
def field (options : BuildOptions) : Production :=
  .scope <| .sequence [
    .opt (.capture "id" fieldId), .opt (.capture "requiredness" requiredness),
    .capture "type" fieldTypeRef, named,
    .opt (.sequence [symbol "=", .capture "default" constantRef]),
    flagWord "xsd_optional", flagWord "xsd_nillable", .opt (.capture "xsd_attrs" attributes),
    separator, ending "field" (Reduction.field options)]

/-! ## Functions -/

/-- The errors that a function throws. -/
def throws : Production :=
  .sequence [
    word "throws", symbol "(", opening "throws", .star fieldRef, symbol ")",
    ending "throws" Reduction.throws]

/-- A function. -/
def function : Production :=
  .scope <| .sequence [
    flagWord "oneway", .capture "return_type" returnType, named, symbol "(",
    opening "arguments", .star fieldRef, symbol ")", .opt throws, separator,
    ending "function" Reduction.function]

/-! ## Definitions -/

/-- A constant with a name. -/
def const : Production :=
  .scope <| .sequence [
    word "const", .capture "type" fieldTypeRef, named, symbol "=",
    .capture "value" constantRef, separator, ending "constant" Reduction.const]

/-- A new name for a type. -/
def typedef : Production :=
  .scope <| .sequence [
    word "typedef", .capture "type" definitionType, named, separator,
    ending "type definition" Reduction.typedef]

/-- A value of an enumeration. -/
def enumValue : Production :=
  .scope <| .sequence [
    named,
    .opt (.sequence [symbol "=", .capture "value" (.firstOf [hexadecimal, integer])]),
    separator, ending "enumeration value" Reduction.enumValue]

/-- An enumeration. -/
def enum (options : BuildOptions) : Production :=
  .scope <| .sequence [
    word "enum", named, symbol "\x7b", .star enumValue, symbol "\x7d",
    ending "enumeration" (Reduction.enum options)]

/-- An enumeration of literals. -/
def senum : Production :=
  .scope <| .sequence [
    word "senum", named, symbol "\x7b", .star (.sequence [literal, separator]),
    symbol "\x7d", ending "literal enumeration" Reduction.senum]

/-- A struct. -/
def struct : Production :=
  .scope <| .sequence [
    word "struct", named, flagWord "xsd_all", symbol "\x7b", .star fieldRef, symbol "\x7d",
    ending "struct" Reduction.struct]

/-- A union. -/
def union : Production :=
  .scope <| .sequence [
    word "union", named, flagWord "xsd_all", symbol "\x7b", .star fieldRef, symbol "\x7d",
    ending "union" Reduction.union]

/-- An exception. -/
def exception : Production :=
  .scope <| .sequence [
    word "exception", named, symbol "\x7b", .star fieldRef, symbol "\x7d",
    ending "exception" Reduction.exception]

/-- A service. -/
def service : Production :=
  .scope <| .sequence [
    word "service", named,
    .opt (.sequence [word "extends", .capture "extends" identifier]),
    symbol "\x7b", .star function, symbol "\x7d", ending "service" Reduction.service]

/-- A definition. -/
def definition (options : BuildOptions) : Production :=
  .firstOf [const, typedef, enum options, senum, struct, union, exception, service]

/-! ## Headers -/

/-- The languages that a namespace can be for. -/
def namespaceScopes : List String := [
  "*", "cpp", "java", "py.twisted", "py", "perl", "php", "rb", "cocoa", "csharp",
  "c_glib", "go", "js", "lua", "netstd", "nodejs", "swift", "delphi", "haxe",
  "st", "xsd", "as3", "erl", "ocaml", "dart", "rs", "kotlin", "netcore"]

/-- The language of a namespace. -/
def namespaceScope : Production := oneOf "namespace scope" namespaceScopes Leaf.scope

/-- A word, a literal and an ending. -/
def literalHeader (text : String) (reduction : Reduction) : Production :=
  .sequence [word text, literal, ending text reduction]

/-- An include. -/
def includeHeader : Production := literalHeader "include" Reduction.includeHeader

/-- An include for C++. -/
def cppInclude : Production := literalHeader "cpp_include" Reduction.cppInclude

/-- A category for classes, which is no scope. -/
def smalltalkCategory : Production :=
  .sequence [
    word "smalltalk.category", dashedIdentifier,
    ending "category" Reduction.smalltalkCategory]

/-- A prefix for classes, which is no scope. -/
def smalltalkPrefix : Production :=
  .sequence [
    word "smalltalk.prefix", identifier, ending "class prefix" Reduction.smalltalkPrefix]

/-- The scope and the name of a namespace. -/
def scopedName : Production :=
  .scope <| .sequence [
    .capture "scope" namespaceScope, identifier,
    ending "namespace" Reduction.targetNamespace]

/-- A namespace. -/
def targetNamespace : Production :=
  .sequence [word "namespace", .firstOf [smalltalkCategory, smalltalkPrefix, scopedName]]

/-- A namespace of the old form for PHP. -/
def phpNamespace : Production := literalHeader "php_namespace" Reduction.phpNamespace

/-- A namespace of the old form for XSD. -/
def xsdNamespace : Production := literalHeader "xsd_namespace" Reduction.xsdNamespace

/-- A header. -/
def header : Production :=
  .firstOf [includeHeader, cppInclude, targetNamespace, phpNamespace, xsdNamespace]

/-! ## Documents -/

/-- A document: headers, definitions, and nothing behind them. -/
def document (options : BuildOptions) : Production :=
  .sequence [
    layout, .star header, .star (definition options), .finish,
    ending "document" Reduction.document]

/-- The productions that are referred to by name. -/
def find? (options : BuildOptions) : String → Option Production
  | "field type" => some fieldType
  | "constant value" => some constant
  | "field" => some (field options)
  | _ => none

/-- The productions as rules for references. -/
def rules (options : BuildOptions) : Rules Entry BuildError := ⟨find? options⟩

end Production

end ThriftSchema
