import ThriftSchema.Source.FileTree
import ThriftSchema.Source.Loader

set_option autoImplicit false

/-! # Sources in files

Files are looked for below one folder, never beside the file that includes them: a path from the
root is taken as it is if it exists, and else a slash at its start means that folder.

* `Files`: a disk, the folder and the encoding of the files.
* `Files.locate`: where the file for a path is.
* `Files.load`, `Files.key`: its text and its key.
-/

namespace ThriftSchema

/-- The files of a disk that are found below a folder. -/
structure Files where
  disk : Disk
  root : Path
  encoding : String

namespace Files

/-- A text without the slashes of either kind at its start. -/
def dropSlashes (path : String) : String :=
  String.ofList (path.toList.dropWhile fun c => c == '/' || c == '\\')

/-- Where the file for a path is. -/
def locate (files : Files) (path : String) : Except Failure Path := do
  let given := Path.ofString path
  let beside := files.root.join (Path.ofString (dropSlashes path))
  if given.isAbsolute then
    match files.disk.contains given with
    | .ok isThere => return if isThere then given else beside
    | .error error => throw (.file given error)
  else return beside

/-- The failure of an error at the location of a path. That a file is absent gives no reason, and
other errors of the file itself are the reason. -/
def failureOf (path : String) (location : Path) : FileError → Failure
  | .absent => .notFound path none
  | .nullInPath => .file location .nullInPath
  | .encoding (.undecodable error) => .notFound path (some error.message)
  | .encoding error => .file location (.encoding error)
  | error => .notFound path (some (error.message location))

/-- The text of the file for a path. -/
def load (files : Files) (path : String) : Except Failure String := do
  let location ← files.locate path
  (files.disk.readText location files.encoding).mapError (failureOf path location)

/-- The path from the root of a location that can be one, by names alone. -/
def keyOf (disk : Disk) (location : Path) : Except Failure Path :=
  if location.hasNull then .error (.file location .nullInPath)
  else .ok (location.resolve disk.current)

/-- The path from the root of the file for a path, by names alone. -/
def key (files : Files) (path : String) : Except Failure String := do
  return (← keyOf files.disk (← files.locate path)).text

/-- What is told about loading a path. -/
def loadingEvents (files : Files) (path : String) : List Event :=
  match files.locate path with
  | .ok location => [.loading location.text]
  | .error _ => []

/-- The files as a loader. -/
def loader (files : Files) : Loader where
  key := files.key
  load := files.load
  events := files.loadingEvents
  size := files.disk.tree.fileCount

end Files

end ThriftSchema
