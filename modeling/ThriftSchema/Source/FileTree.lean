import ThriftSchema.Bindings
import ThriftSchema.Source.Encoding.Name
import ThriftSchema.Source.FileError

set_option autoImplicit false

/-! # Trees of files

A disk is a tree of folders and files with a folder that relative paths start from. A path is
walked segment by segment, so that a segment that goes up still needs a folder to go up from.

* `FileTree`, `Disk`: the types.
* `Disk.find?`: the folder or file at a path, or why there is none.
* `Disk.readText`: the text of a file.
* `Disk.writeText`: a disk with a file changed or added.
-/

namespace ThriftSchema

/-- A file or a folder. -/
inductive FileTree where
  | file (bytes : Bytes)
  | folder (entries : List (String × FileTree))

/-- A tree from its root, and the path from the root of the folder that relative paths start
from. -/
structure Disk where
  tree : FileTree
  current : Path

/-! ## Walking -/

/-- The greatest number of bytes of a segment. -/
def segmentLimit : Nat := 255

/-- The least number of bytes of a path that is too long. -/
def pathLimit : Nat := 4096

namespace FileTree

/-- Follows segments from a file or folder; `above` are the folders it is in, the nearest
first. The root is above itself. -/
def walk : List String → FileTree → List FileTree → Except FileError FileTree
  | [], here, _ => .ok here
  | _ :: _, file _, _ => .error .notFolder
  | segment :: segments, folder entries, above =>
    if segment = ".." then
      match above with
      | [] => walk segments (folder entries) []
      | parent :: rest => walk segments parent rest
    else if segmentLimit < segment.utf8ByteSize then .error .nameTooLong
    else
      match entries.lookup segment with
      | none => .error .absent
      | some child => walk segments child (folder entries :: above)

/-- The tree with another one at some segments, none of which goes up. Folders on the way that
are missing are made. -/
def mount (inner : FileTree) : List String → FileTree → FileTree
  | [], _ => inner
  | segment :: segments, folder entries =>
    let child := (Bindings.get? entries segment).getD (folder [])
    folder (Bindings.set entries segment (mount inner segments child))
  | segment :: segments, file _ => folder [(segment, mount inner segments (folder []))]

mutual

/-- The number of files. -/
def fileCount : FileTree → Nat
  | file _ => 1
  | folder entries => fileCounts entries

/-- The number of files in the entries of a folder. -/
def fileCounts : List (String × FileTree) → Nat
  | [] => 0
  | (_, child) :: entries => fileCount child + fileCounts entries

end

end FileTree

namespace Disk

/-- The file or folder at a path. -/
def find? (disk : Disk) (path : Path) : Except FileError FileTree :=
  if path.hasNull then .error .nullInPath
  else if pathLimit ≤ path.text.utf8ByteSize then .error .nameTooLong
  else disk.tree.walk (disk.current.join path).segments []

/-- Whether there is a file or folder at a path. That a name is too long is an error. -/
def contains (disk : Disk) (path : Path) : Except FileError Bool :=
  match disk.find? path with
  | .ok _ => .ok true
  | .error .nameTooLong => .error .nameTooLong
  | .error _ => .ok false

/-- The bytes of the file at a path. -/
def readBytes (disk : Disk) (path : Path) : Except FileError Bytes := do
  match ← disk.find? path with
  | .file bytes => return bytes
  | .folder _ => throw .isFolder

/-- The text of bytes in the encoding of a name, with newlines alone at the ends of lines. -/
def readAs (bytes : Bytes) (encoding : String) : Except EncodingError String := do
  let known ← Encoding.named encoding
  return String.ofList (Text.unifyNewlines (← known.decode bytes))

/-- The text of the file at a path, with newlines alone at the ends of lines. An encoding that is
not known matters only if there is a file. -/
def readText (disk : Disk) (path : Path) (encoding : String) : Except FileError String := do
  if encoding.toList.contains '\x00' then throw (.encoding .nullInName)
  let bytes ← disk.readBytes path
  (readAs bytes encoding).mapError .encoding

/-- The disk with a tree at a path. -/
def mount (disk : Disk) (path : Path) (tree : FileTree) : Disk :=
  { disk with tree := FileTree.mount tree (path.resolve disk.current).segments disk.tree }

/-- The disk with a text in the file at a path, which is made if its folder is there. -/
def writeText (disk : Disk) (path : Path) (text : String) : Except FileError Disk :=
  let write := disk.mount path (.file text.toUTF8.toList)
  match disk.find? path with
  | .ok (.file _) => .ok write
  | .ok (.folder _) => .error .isFolder
  | .error .absent =>
    match disk.find? path.parent with
    | .ok (.folder _) => .ok write
    | .ok (.file _) => .error .notFolder
    | .error error => .error error
  | .error error => .error error

end Disk

end ThriftSchema
