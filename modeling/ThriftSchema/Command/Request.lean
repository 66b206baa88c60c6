import ThriftSchema.Options

set_option autoImplicit false

/-! # Requests

What the command line asks for: to check files, or to parse one and show its document.

* `ParseRequest`, `Request`: the two kinds.
* `ParseRequest.options`: the options to parse with.
-/

namespace ThriftSchema.Command

/-- How a document is shown. -/
structure ParseRequest where
  file : Path
  root : Option Path
  strictIncludes : Bool
  requiredness : Bool
  autoNumber : Bool
  json : Bool
  out : Option Path

/-- The options of a request. -/
def ParseRequest.options (request : ParseRequest) : Options where
  retainRequiredness := request.requiredness
  numberEnums := request.autoNumber
  includeRoot := request.root
  includePolicy := if request.strictIncludes then .fail else .skip

/-- What the command line asks for. -/
inductive Request where
  | check (files : List Path)
  | parse (request : ParseRequest)

end ThriftSchema.Command
