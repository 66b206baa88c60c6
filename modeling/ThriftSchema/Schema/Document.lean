import ThriftSchema.Schema.Basic

set_option autoImplicit false

/-! # Documents

A document is a list of headers and a list of definitions. Merging appends another document
behind, kind by kind; names are looked up from the front.

* `Document.merge`, `Document.includePaths`: assembling.
* `Document.find?`, `Document.structFields?`: looking up.
-/

namespace ThriftSchema

/-- Headers and definitions in the order of the text. -/
structure Document where
  headers : List Header
  definitions : List Definition
deriving Repr

namespace Document

/-- The document without headers and definitions. -/
def empty : Document := ⟨[], []⟩

/-- One document behind another, headers behind headers and definitions behind definitions. -/
def merge (d e : Document) : Document :=
  ⟨d.headers ++ e.headers, d.definitions ++ e.definitions⟩

/-- The path of an include header. -/
def includePath? : Header → Option String
  | .include path => some path
  | _ => none

/-- The paths of the include headers, in order. -/
def includePaths (d : Document) : List String :=
  d.headers.filterMap includePath?

/-- The first definition of a name. -/
def find? (d : Document) (name : String) : Option Definition :=
  d.definitions.find? fun definition => definition.name == name

/-- The fields of a struct of the given name. -/
def fieldsOf? (name : String) : Definition → Option (List Field)
  | .struct structName fields _ => if structName = name then some fields else none
  | _ => none

/-- The fields of the first struct of a name. -/
def structFields? (d : Document) (name : String) : Option (List Field) :=
  d.definitions.findSome? (fieldsOf? name)

@[simp] theorem headers_merge (d e : Document) :
    (d.merge e).headers = d.headers ++ e.headers := rfl

@[simp] theorem definitions_merge (d e : Document) :
    (d.merge e).definitions = d.definitions ++ e.definitions := rfl

end Document

end ThriftSchema
