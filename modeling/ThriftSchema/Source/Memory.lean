import ThriftSchema.Bindings
import ThriftSchema.Source.Loader
import ThriftSchema.Source.Path

set_option autoImplicit false

/-! # Sources in memory

Texts are kept by the key of their path: the path from the root, with slashes for backslashes
and without segments that stay or go up. No path leaves the root.

* `Memory.key`: the key of a path.
* `Memory.add`, `Memory.load`: storing and loading.
-/

namespace ThriftSchema

/-- Texts by key, in the order in which the keys were first added. -/
structure Memory where
  sources : Bindings String

namespace Memory

/-- No sources. -/
def empty : Memory := ⟨[]⟩

/-- A slash for a backslash. -/
def forwardSlash (c : Char) : Char := if c = '\\' then '/' else c

/-- The key of a path. -/
def key (path : String) : String :=
  "/" ++ "/".intercalate (collapse (segmentsOf (path.map forwardSlash)))

/-- Stores a text, in place of one with the same key. -/
def add (memory : Memory) (path text : String) : Memory :=
  ⟨memory.sources.set (key path) text⟩

/-- Stores texts one after the other. -/
def addAll (memory : Memory) (sources : List (String × String)) : Memory :=
  sources.foldl (fun memory source => memory.add source.1 source.2) memory

/-- The sources of a mapping, in which a path that is given again keeps its first place and has
its last text. -/
def ofMapping (sources : List (String × String)) : Memory :=
  empty.addAll (Bindings.setAll [] sources)

/-- The text that was last stored under the key of a path. -/
def load (memory : Memory) (path : String) : Except Failure String :=
  match memory.sources.get? (key path) with
  | some text => .ok text
  | none => .error (.notFound path none)

/-- The sources as a loader. -/
def loader (memory : Memory) : Loader where
  key path := .ok (key path)
  load := memory.load
  events _ := []
  size := memory.sources.length

end Memory

end ThriftSchema
