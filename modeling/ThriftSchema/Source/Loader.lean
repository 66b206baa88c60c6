import ThriftSchema.Event

set_option autoImplicit false

/-! # Loaders

A loader gives the text at a path and the key of a path. Two paths of one key mean the same
source, which is how an include that leads back is found.
-/

namespace ThriftSchema

/-- Where texts come from. -/
structure Loader where
  /-- The name of a source that does not depend on how its path is spelled. -/
  key : String → Except Failure String
  /-- The text at a path. -/
  load : String → Except Failure String
  /-- The events of loading a path. -/
  events : String → List Event
  /-- How many sources there are. -/
  size : Nat

/-- A path at which nothing can be had. -/
def Failure.notFound (path : String) (reason : Option String) : Failure :=
  .source (.notFound path reason)

end ThriftSchema
