import ThriftSchema.Failure
import ThriftSchema.Schema.Document

set_option autoImplicit false

/-! # Events

What happens on the way from a path to a document can be followed as a list of events.

* `Event`: the events.
* `Event.message`: their wording.
-/

namespace ThriftSchema

/-- How much an event matters. -/
inductive Severity where
  | debug
  | warning
deriving DecidableEq, Repr

/-- The name of a severity. -/
def Severity.name : Severity → String
  | debug => "DEBUG"
  | warning => "WARNING"

/-- A step on the way from a path to a document. -/
inductive Event where
  | loading (location : String)
  | parsing (source : Option String)
  | parsed (source : Option String) (headers definitions : Nat)
  | resolving (path includedFrom : String)
  | skipping (path includedFrom reason : String)
deriving DecidableEq, Repr

namespace Event

/-- The name of a text in events. -/
def sourceName : Option String → String
  | none | some "" => "<text>"
  | some source => source

/-- How much an event matters. -/
def severity : Event → Severity
  | skipping .. => .warning
  | _ => .debug

/-- The message of an event. -/
def message : Event → String
  | loading location => "Loading " ++ location
  | parsing source => "Parsing " ++ sourceName source
  | parsed source headers definitions =>
    "Parsed " ++ sourceName source ++ ": " ++ toString headers ++ " headers, "
      ++ toString definitions ++ " definitions"
  | resolving path includedFrom =>
    "Resolving include " ++ Text.quote path ++ " from " ++ Text.quote includedFrom
  | skipping path includedFrom reason =>
    "Skipping include " ++ Text.quote path ++ " from " ++ Text.quote includedFrom ++ ": "
      ++ reason

/-- The events of reading a text with a result. -/
def ofReading (source : Option String) : Except Failure Document → List Event
  | .error _ => [parsing source]
  | .ok d => [parsing source, parsed source d.headers.length d.definitions.length]

end Event

end ThriftSchema
