import ThriftSchema.Command.Session
import ThriftSchema.Teletype.Arguments
import ThriftSchema.Teletype.Table

set_option autoImplicit false

/-! # A teletype as a host

A teletype of a width, without colours, on which no line is broken.

* `console`: what it shows.
* `host`: commands on it.
-/

namespace ThriftSchema.Teletype

open Command (Console ConsoleError Host)

/-- A wrong tag as what a console refuses a text for. -/
def refusal (error : MarkupError) : ConsoleError :=
  match error with
  | .badStyle _ => ⟨"ValueError", error.message⟩
  | _ => ⟨"MarkupError", error.message⟩

/-- The text of lines. -/
def unlines (lines : List String) : String := String.join (lines.map (· ++ "\n"))

/-- What is printed of lines that come from texts with tags. -/
def shown (lines : Except MarkupError (List String)) : Except ConsoleError String :=
  match lines with
  | .ok lines => .ok (unlines lines)
  | .error error => .error (refusal error)

/-- A teletype of a width. -/
def console (width : Nat) : Console where
  echo line := line ++ "\n"
  text text := shown (printedLines text)
  excerpt text := shown (printedLines text)
  table table := shown (tableLines table)
  panel title content := shown (panelLines width title content)
  tree tree := shown (treeLines tree)
  dump tree := shown (treeLines tree)

/-- Commands on a teletype. -/
def host (limit width : Nat) : Host where
  limit
  console := console width
  arguments arguments := (readArguments arguments).mapError UsageError.message

end ThriftSchema.Teletype
