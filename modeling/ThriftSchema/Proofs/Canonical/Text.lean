import ThriftSchema.Number.Shortest
import ThriftSchema.Production
import ThriftSchema.Proofs.Text.Numeral

set_option autoImplicit false

/-! # Canonical texts

The canonical text of a document has the tokens of its productions in the order of the grammar,
with one space between them. Integers are decimal, and a comma stands behind every field,
function, value, list item, map entry, constant and new name for a type. How a literal is quoted
and how a double is spelled is left open.

* `Spelling`: a quote for every literal and a decimal for every double.
* `Spelling.document`: the tokens of a document; `Spelling.text`: its canonical text.
* `Spelling.DocumentFits`: what a document must keep to so that its canonical text says it.
-/

namespace ThriftSchema

open Number (Double)

/-- Chooses the quote around a literal and the decimal of a double. -/
structure Spelling where
  mark : String → Char
  double : Double → String

namespace Spelling

/-- Double quotes unless the literal has some, and the shortest decimals. -/
def usual : Spelling where
  mark text := if text.toList.contains '\x22' then '\x27' else '\x22'
  double := Double.text

variable (s : Spelling)

/-! ## Tokens of types and constants -/

/-- A literal between its quotes. -/
def literal (text : String) : String :=
  String.ofList (s.mark text :: (text.toList ++ [s.mark text]))

/-- The tokens of a hint. -/
def hint : Option String → List String
  | none => []
  | some text => ["cpp_type", s.literal text]

/-- The tokens of a type. -/
def type : FieldType → List String
  | .named name => [name]
  | .base name => [name]
  | .map key value hint =>
    "map" :: (s.hint hint ++ "<" :: (type key ++ "," :: (type value ++ [">"])))
  | .set element hint => "set" :: (s.hint hint ++ "<" :: (type element ++ [">"]))
  | .list element hint => "list" :: "<" :: (type element ++ ">" :: s.hint hint)

mutual

/-- The tokens of a constant. -/
def constant : ConstValue → List String
  | .integer value => [toString value]
  | .double value => [s.double value]
  | .literal text => [s.literal text]
  | .reference name => [name]
  | .list values => "[" :: (constants values ++ ["]"])
  | .map entries => "\x7b" :: (mapEntries entries ++ ["\x7d"])

/-- The tokens of list items. -/
def constants : List ConstValue → List String
  | [] => []
  | value :: values => constant value ++ "," :: constants values

/-- The tokens of map entries. -/
def mapEntries : List (ConstValue × ConstValue) → List String
  | [] => []
  | (key, value) :: entries =>
    constant key ++ ":" :: (constant value ++ "," :: mapEntries entries)

end

/-! ## Tokens of fields and functions -/

/-- A word if it is to be there. -/
def flag (word : String) (present : Bool) : List String :=
  if present then [word] else []

/-- The tokens of a field number. -/
def fieldId : Option Int → List String
  | none => []
  | some id => [toString id, ":"]

/-- The tokens of a requiredness. -/
def requiredness : Option Requiredness → List String
  | none => []
  | some .required => ["required"]
  | some .optional => ["optional"]

/-- The tokens of a default. -/
def default : Option ConstValue → List String
  | none => []
  | some value => "=" :: s.constant value

mutual

/-- The tokens of a field. -/
def field : Field → List String
  | ⟨type, name, id, default, requiredness, exported⟩ =>
    fieldId id ++ (Spelling.requiredness requiredness ++ (s.type type ++ name ::
      (s.default default ++ (exportOptions exported ++ [","]))))

/-- The tokens of export options. Without a flag the block is there even if it is empty. -/
def exportOptions : Option (ExportOptions Field) → List String
  | none => []
  | some ⟨optional, nillable, attributes⟩ =>
    flag "xsd_optional" optional ++ (flag "xsd_nillable" nillable ++
      if (optional || nillable) && attributes.isEmpty then []
      else "xsd_attrs" :: "\x7b" :: (fields attributes ++ ["\x7d"]))

/-- The tokens of fields. -/
def fields : List Field → List String
  | [] => []
  | f :: fs => field f ++ fields fs

end

/-- The tokens of what a function returns. -/
def returnType : ReturnType → List String
  | .void => ["void"]
  | .type type => s.type type

/-- The tokens of thrown errors. -/
def throws : Option (List Field) → List String
  | none => []
  | some errors => "throws" :: "(" :: (s.fields errors ++ [")"])

/-- The tokens of a function. -/
def function (f : Function) : List String :=
  flag "oneway" f.oneway ++ (s.returnType f.returns ++ f.name :: "(" ::
    (s.fields f.arguments ++ ")" :: (s.throws f.throws ++ [","])))

/-! ## Tokens of documents -/

/-- The tokens of a value of an enumeration. -/
def enumValue (v : EnumValue) : List String :=
  match v.value with
  | none => [v.name, ","]
  | some value => [v.name, "=", toString value, ","]

/-- The tokens of the service that is extended. -/
def parent : Option String → List String
  | none => []
  | some name => ["extends", name]

/-- The tokens of a definition. -/
def definition : Definition → List String
  | .const type name value => "const" :: (s.type type ++ name :: "=" :: (s.constant value ++ [","]))
  | .typedef type name => "typedef" :: (s.type type ++ [name, ","])
  | .enum name values => "enum" :: name :: "\x7b" :: (values.flatMap enumValue ++ ["\x7d"])
  | .senum name values =>
    "senum" :: name :: "\x7b" :: ((values.flatMap fun text => [s.literal text, ","]) ++ ["\x7d"])
  | .struct name fields exportAll =>
    "struct" :: name :: (flag "xsd_all" exportAll ++ "\x7b" :: (s.fields fields ++ ["\x7d"]))
  | .union name fields exportAll =>
    "union" :: name :: (flag "xsd_all" exportAll ++ "\x7b" :: (s.fields fields ++ ["\x7d"]))
  | .exception name fields => "exception" :: name :: "\x7b" :: (s.fields fields ++ ["\x7d"])
  | .service name extended functions =>
    "service" :: name :: (parent extended ++ "\x7b" :: (functions.flatMap s.function ++ ["\x7d"]))

/-- The tokens of a header. -/
def header : Header → List String
  | .include path => ["include", s.literal path]
  | .cppInclude path => ["cpp_include", s.literal path]
  | .targetNamespace scope name => ["namespace", scope, name]
  | .phpNamespace name => ["php_namespace", s.literal name]
  | .xsdNamespace name => ["xsd_namespace", s.literal name]
  | .smalltalkCategory name => ["namespace", "smalltalk.category", name]
  | .smalltalkPrefix name => ["namespace", "smalltalk.prefix", name]

/-- The tokens of a document. -/
def document (d : Document) : List String :=
  d.headers.flatMap s.header ++ d.definitions.flatMap s.definition

/-- The canonical text of a document. -/
def text (d : Document) : String := " ".intercalate (s.document d)

/-! ## What fits -/

/-- The quote of a literal is one of the two and does not occur in it. -/
def LiteralFits (text : String) : Prop :=
  IsQuote (s.mark text) ∧ s.mark text ∉ text.toList

instance (text : String) : Decidable (s.LiteralFits text) := inferInstanceAs (Decidable (_ ∧ _))

/-- A type that can be read down to a depth. The name of a base type names no other type. -/
inductive TypeFits : Nat → FieldType → Prop
  | named {depth : Nat} {name : String} (hname : IsName name.toList)
      (hbase : name ∉ Production.baseTypeNames) : TypeFits (depth + 1) (.named name)
  | base {depth : Nat} {name : String} (hbase : name ∈ Production.baseTypeNames) :
      TypeFits (depth + 1) (.base name)
  | map {depth : Nat} {key value : FieldType} {hint : Option String}
      (hkey : TypeFits depth key) (hvalue : TypeFits depth value)
      (hhint : ∀ text ∈ hint, s.LiteralFits text) : TypeFits (depth + 1) (.map key value hint)
  | set {depth : Nat} {element : FieldType} {hint : Option String}
      (helement : TypeFits depth element) (hhint : ∀ text ∈ hint, s.LiteralFits text) :
      TypeFits (depth + 1) (.set element hint)
  | list {depth : Nat} {element : FieldType} {hint : Option String}
      (helement : TypeFits depth element) (hhint : ∀ text ∈ hint, s.LiteralFits text) :
      TypeFits (depth + 1) (.list element hint)

/-- The decimal of a double reads back as it. -/
def DoubleFits (value : Double) : Prop :=
  IsDecimal (s.double value).toList ∧ Double.read (s.double value).toList = some value

/-- A constant that can be read down to a depth. A list or map needs room for items, even if it
has none. -/
inductive ConstantFits : Nat → ConstValue → Prop
  | integer {depth : Nat} {value : Int} (h : Number.isWritable value = true) :
      ConstantFits (depth + 1) (.integer value)
  | double {depth : Nat} {value : Double} (h : s.DoubleFits value) :
      ConstantFits (depth + 1) (.double value)
  | literal {depth : Nat} {text : String} (h : s.LiteralFits text) :
      ConstantFits (depth + 1) (.literal text)
  | reference {depth : Nat} {name : String} (h : IsName name.toList) :
      ConstantFits (depth + 1) (.reference name)
  | list {depth : Nat} {values : List ConstValue}
      (h : ∀ value ∈ values, ConstantFits (depth + 1) value) :
      ConstantFits (depth + 2) (.list values)
  | map {depth : Nat} {entries : List (ConstValue × ConstValue)}
      (hkeys : ∀ entry ∈ entries, ConstantFits (depth + 1) entry.1)
      (hvalues : ∀ entry ∈ entries, ConstantFits (depth + 1) entry.2) :
      ConstantFits (depth + 2) (.map entries)

/-- A field that can be read down to a depth. Without a requiredness its type is not named as
one. A block of attributes needs room for fields, even if it has none. -/
inductive FieldFits : Nat → Field → Prop
  | intro {depth : Nat} {f : Field} (htype : s.TypeFits depth f.type)
      (hname : IsName f.name.toList) (hid : ∀ id ∈ f.id, Number.isWritable id = true)
      (hdefault : ∀ value ∈ f.default, s.ConstantFits depth value)
      (hrequiredness : f.requiredness = none →
        f.type ≠ .named "required" ∧ f.type ≠ .named "optional")
      (hroom : f.exported.isSome → 2 ≤ depth)
      (hexported : ∀ options ∈ f.exported, ∀ g ∈ options.attributes, FieldFits depth g) :
      FieldFits (depth + 1) f

/-- A function that can be read down to a depth. The word for no result names no type of a
result, and a function that says nothing in front of its result does not start as one that
does. -/
structure FunctionFits (depth : Nat) (f : Function) : Prop where
  returns : ∀ type, f.returns = .type type → s.TypeFits depth type
  notVoid : f.returns ≠ .type (.named "void")
  notOneway : f.oneway = false → f.returns ≠ .type (.named "oneway")
  name : IsName f.name.toList
  arguments : ∀ g ∈ f.arguments, s.FieldFits depth g
  throws : ∀ errors ∈ f.throws, ∀ g ∈ errors, s.FieldFits depth g

/-- A value of an enumeration that was not counted on. -/
structure EnumValueFits (v : EnumValue) : Prop where
  name : IsName v.name.toList
  value : ∀ n ∈ v.value, Number.isWritable n = true
  notCounted : v.counted = false

/-- A definition that can be read down to a depth. A type that gets a new name is no name. -/
inductive DefinitionFits (depth : Nat) : Definition → Prop
  | const {type : FieldType} {name : String} {value : ConstValue} (htype : s.TypeFits depth type)
      (hname : IsName name.toList) (hvalue : s.ConstantFits depth value) :
      DefinitionFits depth (.const type name value)
  | typedef {type : FieldType} {name : String} (htype : s.TypeFits (depth + 1) type)
      (hnew : ∀ other, type ≠ .named other) (hname : IsName name.toList) :
      DefinitionFits depth (.typedef type name)
  | enum {name : String} {values : List EnumValue} (hname : IsName name.toList)
      (hvalues : ∀ v ∈ values, EnumValueFits v) : DefinitionFits depth (.enum name values)
  | senum {name : String} {values : List String} (hname : IsName name.toList)
      (hvalues : ∀ text ∈ values, s.LiteralFits text) : DefinitionFits depth (.senum name values)
  | struct {name : String} {fields : List Field} {exportAll : Bool} (hname : IsName name.toList)
      (hfields : ∀ f ∈ fields, s.FieldFits depth f) :
      DefinitionFits depth (.struct name fields exportAll)
  | union {name : String} {fields : List Field} {exportAll : Bool} (hname : IsName name.toList)
      (hfields : ∀ f ∈ fields, s.FieldFits depth f) :
      DefinitionFits depth (.union name fields exportAll)
  | exception {name : String} {fields : List Field} (hname : IsName name.toList)
      (hfields : ∀ f ∈ fields, s.FieldFits depth f) : DefinitionFits depth (.exception name fields)
  | service {name : String} {extended : Option String} {functions : List Function}
      (hname : IsName name.toList) (hextended : ∀ other ∈ extended, IsName other.toList)
      (hfunctions : ∀ f ∈ functions, s.FunctionFits depth f) :
      DefinitionFits depth (.service name extended functions)

/-- A header whose names and literals fit. The namespaces of the old forms are trimmed. -/
inductive HeaderFits : Header → Prop
  | include {path : String} (h : s.LiteralFits path) : HeaderFits (.include path)
  | cppInclude {path : String} (h : s.LiteralFits path) : HeaderFits (.cppInclude path)
  | targetNamespace {scope name : String} (hscope : scope ∈ Production.namespaceScopes)
      (hname : IsName name.toList) : HeaderFits (.targetNamespace scope name)
  | phpNamespace {name : String} (h : s.LiteralFits name) (htrim : Text.trim name = name) :
      HeaderFits (.phpNamespace name)
  | xsdNamespace {name : String} (h : s.LiteralFits name) (htrim : Text.trim name = name) :
      HeaderFits (.xsdNamespace name)
  | smalltalkCategory {name : String} (hname : IsDashedName name.toList) :
      HeaderFits (.smalltalkCategory name)
  | smalltalkPrefix {name : String} (hname : IsName name.toList) :
      HeaderFits (.smalltalkPrefix name)

/-- A document whose parts can be read down to a depth. -/
structure DocumentFits (depth : Nat) (d : Document) : Prop where
  headers : ∀ header ∈ d.headers, s.HeaderFits header
  definitions : ∀ definition ∈ d.definitions, s.DefinitionFits depth definition

end Spelling

end ThriftSchema
