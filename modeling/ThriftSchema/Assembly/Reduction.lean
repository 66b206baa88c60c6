import ThriftSchema.Assembly.Error
import ThriftSchema.Text.Blank

set_option autoImplicit false

/-! # Reductions

At its end a production takes its parts from the stack and the frame and pushes the whole. The
parts of a list are taken as long as the top of the stack is of their kind; where an enclosing
production could own parts of the same kind, the list starts with a boundary, and the reduction
takes it too. Parts that come before a list, such as a name, wait in the frame.

* `Reduction`: a step on stack and frame that may fail; what it took before it failed is gone.
* `takeRun`, `takeToBoundary`, `takeExpected`, `takeOptional`, `slot`, `slot?`: taking parts.
* `Reduction.field` and the others: one for each production.
-/

namespace ThriftSchema

/-- What of a document is kept or supplied. -/
structure BuildOptions where
  /-- Whether fields keep the words `required` and `optional`. -/
  retainRequiredness : Bool := false
  /-- Whether values of enumerations without a number are counted on. -/
  numberEnums : Bool := false
deriving DecidableEq, Repr

/-- A step on stack and frame. -/
abbrev Assembly (α : Type) := Action Entry BuildError α

/-- A step that ends a production. -/
abbrev Reduction := Assembly Unit

namespace Reduction

/-! ## Taking parts -/

/-- Splits a stack where `view` first gives nothing: the parts above, in the order in which
they were pushed, and the entries from there on. -/
def splitRun {α : Type} (view : Entry → Option α) :
    List Entry → List α → List α × List Entry
  | [], parts => (parts, [])
  | entry :: stack, parts =>
    match view entry with
    | some part => splitRun view stack (part :: parts)
    | none => (parts, entry :: stack)

/-- Takes parts as long as the top of the stack is one. -/
def takeRun {α : Type} (view : Entry → Option α) : Assembly (List α) := do
  let m ← get
  let (parts, stack) := splitRun view m.stack []
  set { m with stack }
  return parts

/-- Takes parts and the boundary below them. -/
def takeToBoundary {α : Type} (view : Entry → Option α) (opener : String) :
    Assembly (List α) := do
  let parts ← takeRun view
  match ← Action.peek with
  | some (.boundary name) =>
    if name = opener then
      let _ ← Action.pop
      return parts
    else Action.raise (.boundaryMissing opener parts.length (some (.boundary name)))
  | found => Action.raise (.boundaryMissing opener parts.length found)

/-- Takes the top of the stack, which has to be of a kind. -/
def takeExpected {α : Type} (view : Entry → Option α) : Assembly α := do
  let entry ← Action.pop
  match view entry with
  | some part => return part
  | none => Action.raise (.unexpected entry)

/-- Takes the top of the stack if it is of a kind. -/
def takeOptional {α : Type} (view : Entry → Option α) : Assembly (Option α) := do
  match (← Action.peek).bind view with
  | some part =>
    let _ ← Action.pop
    return some part
  | none => return none

/-- The part in a slot that has to be filled. -/
def slot {α : Type} (view : Entry → Option α) (name : String) : Assembly α := do
  let held ← Action.slot? name
  match held.bind view with
  | some part => return part
  | none => Action.raise (.slotHolds name held)

/-- The part in a slot that may be empty. -/
def slot? {α : Type} (view : Entry → Option α) (name : String) : Assembly (Option α) := do
  match ← Action.slot? name with
  | none => return none
  | some held =>
    match view held with
    | some part => return some part
    | none => Action.raise (.slotUnreadable name held)

/-- Whether a flag is set. -/
def flagged (name : String) : Assembly Bool := do
  return (← slot? Entry.asFlag? name).getD false

/-- The name of what is being defined. -/
def nameSlot : Assembly String := slot Entry.asIdentifier? "name"

/-- The type of what is being defined. -/
def typeSlot : Assembly FieldType := slot Entry.asType? "type"

/-- Opens a list. -/
def openList (opener : String) : Reduction := Action.push (.boundary opener)

/-! ## Types -/

/-- The hint for the type that implements a container. -/
def hintSlot : Assembly (Option String) := slot? Entry.asLiteral? "cpp_type"

/-- The end of a map type. -/
def mapType : Reduction := do
  let key ← slot Entry.asType? "key"
  let value ← slot Entry.asType? "value"
  Action.push (.mapType key value (← hintSlot))

/-- The end of a set type. -/
def setType : Reduction := do
  let element ← slot Entry.asType? "element"
  Action.push (.setType element (← hintSlot))

/-- The end of a list type. -/
def listType : Reduction := do
  let element ← slot Entry.asType? "element"
  Action.push (.listType element (← hintSlot))

/-! ## Constants -/

/-- The end of a list of constants. -/
def constList : Reduction := do
  Action.push (.constList (← takeToBoundary Entry.asConst? "const_list"))

/-- The end of a key and its value. -/
def mapEntry : Reduction := do
  let value ← takeExpected Entry.asConst?
  let key ← takeExpected Entry.asConst?
  Action.push (.mapEntry key value)

/-- The end of a map of constants. -/
def constMap : Reduction := do
  Action.push (.constMap (← takeToBoundary Entry.asMapEntry? "const_map"))

/-! ## Fields and functions -/

/-- The end of a block of attributes. -/
def attributes : Reduction := do
  let fields ← takeToBoundary Entry.asField? "xsd_attrs"
  Action.push (.exported ⟨false, false, fields⟩)

/-- The export options of a field, from its flags and its block of attributes. -/
def exportOptions (optional nillable : Bool) (block : Option (ExportOptions Field)) :
    Option (ExportOptions Field) :=
  match block with
  | some options => some ⟨optional, nillable, options.attributes⟩
  | none => if optional || nillable then some ⟨optional, nillable, []⟩ else none

/-- The end of a field. -/
def field (options : BuildOptions) : Reduction := do
  let block ← slot? Entry.asExported? "xsd_attrs"
  let optional ← flagged "xsd_optional"
  let nillable ← flagged "xsd_nillable"
  let type ← typeSlot
  let name ← nameSlot
  let id ← slot? Entry.asInteger? "id"
  let default ← slot? Entry.asConst? "default"
  let requiredness ←
    if options.retainRequiredness then slot? Entry.asRequiredness? "requiredness"
    else pure none
  Action.push <|
    .field ⟨type, name, id, default, requiredness, exportOptions optional nillable block⟩

/-- The end of a list of thrown errors. -/
def throws : Reduction := do
  Action.push (.throws (← takeToBoundary Entry.asField? "throws"))

/-- The end of a function. -/
def function : Reduction := do
  let throws ← takeOptional Entry.asThrows?
  let arguments ← takeToBoundary Entry.asField? "arguments"
  let returns ← slot Entry.asReturn? "return_type"
  let name ← nameSlot
  let oneway ← flagged "oneway"
  Action.push (.function ⟨returns, name, arguments, throws, oneway⟩)

/-! ## Definitions -/

/-- Pushes a definition. -/
def define (definition : Definition) : Reduction := Action.push (.definition definition)

/-- The end of a constant. -/
def const : Reduction := do
  let type ← typeSlot
  let name ← nameSlot
  define (.const type name (← slot Entry.asConst? "value"))

/-- The end of a type definition. -/
def typedef : Reduction := do
  let type ← typeSlot
  define (.typedef type (← nameSlot))

/-- The end of a value of an enumeration. -/
def enumValue : Reduction := do
  let name ← nameSlot
  let value ← slot? Entry.asInteger? "value"
  Action.push (.enumValue ⟨name, value, false⟩)

/-- The end of an enumeration. -/
def enum (options : BuildOptions) : Reduction := do
  let values ← takeRun Entry.asEnumValue?
  define (.enum (← nameSlot) (if options.numberEnums then countOn 0 values else values))

/-- The end of an enumeration of literals. -/
def senum : Reduction := do
  let values ← takeRun Entry.asLiteral?
  define (.senum (← nameSlot) values)

/-- The end of a struct. -/
def struct : Reduction := do
  let fields ← takeRun Entry.asField?
  let name ← nameSlot
  define (.struct name fields (← flagged "xsd_all"))

/-- The end of a union. -/
def union : Reduction := do
  let fields ← takeRun Entry.asField?
  let name ← nameSlot
  define (.union name fields (← flagged "xsd_all"))

/-- The end of an exception. -/
def exception : Reduction := do
  let fields ← takeRun Entry.asField?
  define (.exception (← nameSlot) fields)

/-- The end of a service. -/
def service : Reduction := do
  let functions ← takeRun Entry.asFunction?
  let name ← nameSlot
  define (.service name (← slot? Entry.asIdentifier? "extends") functions)

/-! ## Headers and the document -/

/-- Pushes a header. -/
def head (header : Header) : Reduction := Action.push (.header header)

/-- The end of an include header. -/
def includeHeader : Reduction := do head (.include (← takeExpected Entry.asLiteral?))

/-- The end of an include header for C++. -/
def cppInclude : Reduction := do head (.cppInclude (← takeExpected Entry.asLiteral?))

/-- The end of a namespace header. -/
def targetNamespace : Reduction := do
  let name ← takeExpected Entry.asIdentifier?
  let scope ← slot Entry.asLiteral? "scope"
  head (.targetNamespace scope name)

/-- The end of a namespace header of the old form for PHP. -/
def phpNamespace : Reduction := do
  head (.phpNamespace (Text.trim (← takeExpected Entry.asLiteral?)))

/-- The end of a namespace header of the old form for XSD. -/
def xsdNamespace : Reduction := do
  head (.xsdNamespace (Text.trim (← takeExpected Entry.asLiteral?)))

/-- The end of a category header. -/
def smalltalkCategory : Reduction := do
  head (.smalltalkCategory (← takeExpected Entry.asIdentifier?))

/-- The end of a class prefix header. -/
def smalltalkPrefix : Reduction := do
  head (.smalltalkPrefix (← takeExpected Entry.asIdentifier?))

/-- The end of a document: nothing may be left below its definitions and headers. -/
def document : Reduction := do
  let definitions ← takeRun Entry.asDefinition?
  let headers ← takeRun Entry.asHeader?
  let left := (← get).stack.length
  if left ≠ 0 then Action.raise (.unreduced left)
  Action.push (.document ⟨headers, definitions⟩)

end Reduction

end ThriftSchema
