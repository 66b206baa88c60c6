import ThriftSchema.Number.Double

set_option autoImplicit false

/-! # Interface definitions

The parts of an interface document: types, constants, fields, functions, headers and
definitions. A document lists its headers, then its definitions, each in the order of the text.

Names are kept as texts. A reference to a defined type is a dotted name too, and so is a
constant that names another one.
-/

namespace ThriftSchema

open Number (Double)

/-! ## Types and constants -/

/-- The type of a field, a constant or a result. A container may carry a hint for the type that
implements it. -/
inductive FieldType where
  | named (name : String)
  | base (name : String)
  | map (key value : FieldType) (hint : Option String)
  | set (element : FieldType) (hint : Option String)
  | list (element : FieldType) (hint : Option String)
deriving DecidableEq, Repr

/-- A constant value. -/
inductive ConstValue where
  | integer (value : Int)
  | double (value : Double)
  | literal (text : String)
  | reference (name : String)
  | list (values : List ConstValue)
  | map (entries : List (ConstValue × ConstValue))
deriving Repr

/-! ## Fields and functions -/

/-- Whether a value of a field must be present. -/
inductive Requiredness where
  | required
  | optional
deriving DecidableEq, Repr

/-- What a schema exporter is told about a field of type `α`. -/
structure ExportOptions (α : Type) where
  optional : Bool
  nillable : Bool
  attributes : List α
deriving Repr

/-- A member of a struct, an argument of a function or an error that it throws. -/
structure Field where
  type : FieldType
  name : String
  id : Option Int
  default : Option ConstValue
  requiredness : Option Requiredness
  exported : Option (ExportOptions Field)
deriving Repr

/-- What a function returns: nothing, or a value of a type. -/
inductive ReturnType where
  | void
  | type (type : FieldType)
deriving DecidableEq, Repr

/-- A function of a service. -/
structure Function where
  returns : ReturnType
  name : String
  arguments : List Field
  throws : Option (List Field)
  oneway : Bool
deriving Repr

/-! ## Headers -/

/-- What may stand before the definitions. -/
inductive Header where
  | include (path : String)
  | cppInclude (path : String)
  | targetNamespace (scope name : String)
  | phpNamespace (name : String)
  | xsdNamespace (name : String)
  | smalltalkCategory (name : String)
  | smalltalkPrefix (name : String)
deriving DecidableEq, Repr

/-! ## Definitions -/

/-- A name of an enumeration and its number, which may have been counted on. -/
structure EnumValue where
  name : String
  value : Option Int
  counted : Bool
deriving DecidableEq, Repr

/-- What a document defines. -/
inductive Definition where
  | const (type : FieldType) (name : String) (value : ConstValue)
  | typedef (type : FieldType) (name : String)
  | enum (name : String) (values : List EnumValue)
  | senum (name : String) (values : List String)
  | struct (name : String) (fields : List Field) (exportAll : Bool)
  | union (name : String) (fields : List Field) (exportAll : Bool)
  | exception (name : String) (fields : List Field)
  | service (name : String) (parent : Option String) (functions : List Function)
deriving Repr

/-- The name that a definition defines. -/
def Definition.name : Definition → String
  | const _ name _ | typedef _ name | enum name _ | senum name _ | struct name _ _
  | union name _ _ | exception name _ | service name _ _ => name

/-! ## Enumerations -/

/-- Gives each value without a number the number after that of its predecessor, the first
zero, and says that it was counted. -/
def countOn : Int → List EnumValue → List EnumValue
  | _, [] => []
  | next, v :: vs =>
    match v.value with
    | some n => v :: countOn (n + 1) vs
    | none => ⟨v.name, some next, true⟩ :: countOn (next + 1) vs

end ThriftSchema
