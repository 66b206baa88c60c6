import ThriftSchema.Outline.OfSchema

set_option autoImplicit false

/-! # Entries

While a text is matched, the productions push the parts they recognize on a stack and take the
parts of their parts from it. An entry is one such part, or a boundary that marks where an inner
list starts, or a flag that a word was there.

* `Entry`: the entries.
* `Entry.asConst?`, `Entry.asType?` and the other views: an entry as a part of one kind. A name
  is both a constant and a type.
* `Entry.describe`, `Entry.kind`: an entry in a message.
-/

namespace ThriftSchema

open Number (Double)

/-- What productions leave on the stack and in the frame. -/
inductive Entry where
  | identifier (name : String)
  | literal (text : String)
  | integer (value : Int)
  | double (value : Double)
  | constList (values : List ConstValue)
  | constMap (entries : List (ConstValue × ConstValue))
  | mapEntry (key value : ConstValue)
  | baseType (name : String)
  | mapType (key value : FieldType) (hint : Option String)
  | setType (element : FieldType) (hint : Option String)
  | listType (element : FieldType) (hint : Option String)
  | void
  | requiredness (requiredness : Requiredness)
  | flag
  /-- Where the list of the production `opener` starts. -/
  | boundary (opener : String)
  | exported (options : ExportOptions Field)
  | field (field : Field)
  | throws (fields : List Field)
  | function (function : Function)
  | enumValue (value : EnumValue)
  | header (header : Header)
  | definition (definition : Definition)
  | document (document : Document)

namespace Entry

/-! ## Views -/

/-- The name of an identifier. -/
def asIdentifier? : Entry → Option String
  | identifier name => some name
  | _ => none

/-- The text of a literal. -/
def asLiteral? : Entry → Option String
  | literal text => some text
  | _ => none

/-- The value of an integer. -/
def asInteger? : Entry → Option Int
  | integer value => some value
  | _ => none

/-- An entry as a constant. -/
def asConst? : Entry → Option ConstValue
  | identifier name => some (.reference name)
  | literal text => some (.literal text)
  | integer value => some (.integer value)
  | double value => some (.double value)
  | constList values => some (.list values)
  | constMap entries => some (.map entries)
  | _ => none

/-- The key and the value of a map entry. -/
def asMapEntry? : Entry → Option (ConstValue × ConstValue)
  | mapEntry key value => some (key, value)
  | _ => none

/-- An entry as a type. -/
def asType? : Entry → Option FieldType
  | identifier name => some (.named name)
  | baseType name => some (.base name)
  | mapType key value hint => some (.map key value hint)
  | setType element hint => some (.set element hint)
  | listType element hint => some (.list element hint)
  | _ => none

/-- An entry as the result of a function. -/
def asReturn? : Entry → Option ReturnType
  | void => some .void
  | entry => entry.asType?.map .type

/-- A requiredness. -/
def asRequiredness? : Entry → Option Requiredness
  | requiredness r => some r
  | _ => none

/-- A flag, which stands for true. -/
def asFlag? : Entry → Option Bool
  | flag => some true
  | _ => none

/-- The options of an exported field. -/
def asExported? : Entry → Option (ExportOptions Field)
  | exported options => some options
  | _ => none

/-- A field. -/
def asField? : Entry → Option Field
  | field f => some f
  | _ => none

/-- The errors that a function throws. -/
def asThrows? : Entry → Option (List Field)
  | throws fields => some fields
  | _ => none

/-- A function. -/
def asFunction? : Entry → Option Function
  | function f => some f
  | _ => none

/-- A value of an enumeration. -/
def asEnumValue? : Entry → Option EnumValue
  | enumValue value => some value
  | _ => none

/-- A header. -/
def asHeader? : Entry → Option Header
  | header h => some h
  | _ => none

/-- A definition. -/
def asDefinition? : Entry → Option Definition
  | definition d => some d
  | _ => none

/-- A document. -/
def asDocument? : Entry → Option Document
  | document d => some d
  | _ => none

/-! ## Messages -/

/-- The outline of an entry; a boundary has none. -/
def outline? : Entry → Option Outline
  | identifier name => some (.identifier name)
  | literal text => some (ConstValue.literal text).outline
  | integer value => some (ConstValue.integer value).outline
  | double value => some (ConstValue.double value).outline
  | constList values => some (ConstValue.list values).outline
  | constMap entries => some (ConstValue.map entries).outline
  | mapEntry key value => (entryOutlines [(key, value)]).head?
  | baseType name => some (FieldType.base name).outline
  | mapType key value hint => some (FieldType.map key value hint).outline
  | setType element hint => some (FieldType.set element hint).outline
  | listType element hint => some (FieldType.list element hint).outline
  | void => some ReturnType.void.outline
  | requiredness r => some r.outline
  | flag => some (.flag true)
  | boundary _ => none
  | exported options => some options.outline
  | field f => some f.outline
  | throws fields => some (throwsOutline fields)
  | function f => some f.outline
  | enumValue value => some value.outline
  | header h => some h.outline
  | definition d => some d.outline
  | document d => some d.outline

/-- A boundary by its opener. -/
def boundaryText (opener : String) : String := "Boundary(" ++ opener ++ ")"

/-- An entry on one line. -/
def describe : Entry → String
  | boundary opener => boundaryText opener
  | entry => (entry.outline?.getD .absent).describe

/-- An entry on one line, where a name is shown bare. -/
def display : Entry → String
  | boundary opener => boundaryText opener
  | entry => (entry.outline?.getD .absent).display

/-- An entry on one line, if there is one. -/
def describe? : Option Entry → String
  | none => Outline.absent.describe
  | some entry => entry.describe

/-- The name of the kind of an entry. -/
def kind : Entry → String
  | boundary _ => "Boundary"
  | requiredness _ => "Requiredness"
  | flag => "bool"
  | entry =>
    match entry.outline? with
    | some (.node kind _) => kind
    | _ => ""

end Entry

end ThriftSchema
