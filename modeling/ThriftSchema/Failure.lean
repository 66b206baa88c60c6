import ThriftSchema.Assembly.Error
import ThriftSchema.Rule.Run
import ThriftSchema.Source.FileError

set_option autoImplicit false

/-! # Failures

Everything that can go wrong between a path and a document, as causes. The first group, of
texts that cannot be had or do not match, is what an include may be skipped for; all other
failures end the reading.

* `SourceError`: a text that is missing, rejected or nested too deep.
* `Failure`: any failure.
* `SourceError.message`, `Failure.message`: their wording.
-/

namespace ThriftSchema

/-! ## Errors of one source -/

/-- Why one source gives no document. -/
inductive SourceError where
  /-- Nothing is stored at the path, or it cannot be read for the reason. -/
  | notFound (path : String) (reason : Option String)
  | rejected (rejection : Rejection)
  | tooDeep (place : Place)

/-- The message of an error of one source. -/
def SourceError.message : SourceError → String
  | notFound path reason =>
    let head := "Source not found: " ++ path
    match reason with
    | none | some "" => head
    | some reason => head ++ " (" ++ reason ++ ")"
  | rejected rejection => rejection.message
  | tooDeep place => place.tooDeepMessage

/-- The place in the text that an error points at. -/
def SourceError.place? : SourceError → Option Place
  | .notFound _ _ => none
  | .rejected rejection => some rejection.toPlace
  | .tooDeep place => some place

/-! ## All failures -/

/-- Why there is no document. -/
inductive Failure where
  | source (error : SourceError)
  /-- An include that may not be skipped. -/
  | includeFailed (path includedFrom : String) (cause : SourceError)
  /-- Includes that lead from a path back to the same source. -/
  | circular (chain : List String)
  /-- A match that was broken off. -/
  | stopped (stop : Stop BuildError)
  /-- An error of the system at a path that is not one of a single source. -/
  | file (path : Path) (error : FileError)
  /-- A chain of includes that is longer than there are sources. -/
  | bottomless

/-- The failure that a text did not match. -/
def Failure.ofMatch : MatchError BuildError → Failure
  | .rejected rejection => .source (.rejected rejection)
  | .nestingTooDeep place => .source (.tooDeep place)
  | .stopped stop => .stopped stop

/-- The message of a match that was broken off. -/
def Stop.message : Stop BuildError → String
  | .nestingTooDeep => "Nesting too deep"
  | .emptyStack => emptyStackMessage
  | .undefinedRule name => "undefined rule " ++ Text.quote name
  | .endless => "endless repetition"
  | .raised error => error.message

/-- The message of a failure. -/
def Failure.message : Failure → String
  | source error => error.message
  | includeFailed path includedFrom _ =>
    "Cannot include " ++ Text.quote path ++ " from " ++ Text.quote includedFrom
  | circular chain => "Circular include: " ++ " -> ".intercalate chain
  | stopped stop => stop.message
  | file path error => error.message path
  | bottomless => "more includes than sources"

end ThriftSchema
