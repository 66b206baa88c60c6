import ThriftSchema.Source.Encoding.Basic
import ThriftSchema.Source.Path
import ThriftSchema.Text.Quoted

set_option autoImplicit false

/-! # Errors of files

* `FileError`: why there is no file at a path, or no text in it.
* `FileError.message`: the wording.
-/

namespace ThriftSchema

/-- Why there is no file at a path, or no text in it. -/
inductive FileError where
  | absent
  /-- A segment that is followed by others is no folder. -/
  | notFolder
  /-- The path is that of a folder. -/
  | isFolder
  /-- The path or one of its segments is longer than the system takes. -/
  | nameTooLong
  /-- A path with a null character. -/
  | nullInPath
  | encoding (error : EncodingError)
deriving DecidableEq, Repr

/-- An error of the system by its number, its wording and the path. -/
def systemMessage (number : Nat) (wording : String) (path : Path) : String :=
  "[Errno " ++ toString number ++ "] " ++ wording ++ ": " ++ Text.quote path.text

/-- The message of an error at a path. -/
def FileError.message (path : Path) : FileError → String
  | absent => systemMessage 2 "No such file or directory" path
  | notFolder => systemMessage 20 "Not a directory" path
  | isFolder => systemMessage 21 "Is a directory" path
  | nameTooLong => systemMessage 36 "File name too long" path
  | nullInPath => "embedded null byte"
  | encoding error => error.message

end ThriftSchema
