import ThriftSchema.Teletype.Host

set_option autoImplicit false

/-! # The program

The outer layer: it puts what a request can reach into a disk, runs the command line on it,
prints, and writes the files that were written. All decisions are made in `Command`.
-/

namespace ThriftSchema.Program

/-- The teletype that the program runs on, and how many references it lets be open at once. -/
def host : Command.Host := Teletype.host 100 80

/-- The file or folder at a path of the system, without the entries of a folder. -/
def fileAt? (path : Path) : IO (Option FileTree) := do
  try
    let place ← IO.FS.realPath path.text
    if ← place.isDir then return some (.folder [])
    return some (.file (← IO.FS.readBinFile place).toList)
  catch _ => return none

/-- The paths on the way to a path, and the path itself. -/
def waysTo (path : Path) : List Path :=
  (List.range (path.segments.length + 1)).map fun count =>
    { path with segments := path.segments.take count }

/-- Puts what is on the way to a path into a disk. -/
def fetch (disk : Disk) (path : Path) : IO Disk := do
  let mut disk := disk
  for way in waysTo (disk.current.join path) do
    unless (disk.contains way).toOption.getD true do
      if let some tree ← fileAt? way then disk := disk.mount way tree
  return disk

/-- The paths that the text of a file may include. -/
def includedBy (disk : Disk) (root path : Path) : List Path :=
  match disk.readText path "utf-8" with
  | .error _ => []
  | .ok text =>
    match Document.ofText host.limit { } text none with
    | .error _ => []
    | .ok document =>
      document.includePaths.flatMap fun target =>
        [Path.ofString target, root.join (Path.ofString (Files.dropSlashes target))]

/-- Puts what is at some paths, and all that is included there, into a disk. -/
partial def fetchAll (root : Path) (seen : List Path) (disk : Disk) : List Path → IO Disk
  | [] => return disk
  | path :: paths => do
    if seen.contains path then fetchAll root seen disk paths
    else
      let disk ← fetch disk path
      fetchAll root (path :: seen) disk (includedBy disk root path ++ paths)

/-- The paths that a request names, and the folder that it writes to. -/
def pathsOf : Command.Request → List Path
  | .check files => files
  | .parse request =>
    let out := request.out.toList
    request.file :: (request.root.toList ++ out ++ out.map Path.parent)

/-- The disk for a request. -/
def diskFor (current : Path) (request : Command.Request) : IO Disk := do
  let disk : Disk := Disk.mount ⟨.folder [], current⟩ current (.folder [])
  let root := match request with
    | .check _ => current
    | .parse parse => parse.root.getD (parse.file.resolve current).parent
  fetchAll root [] disk (pathsOf request)

/-- Runs the program on a disk, or on none if the arguments are no request. -/
def runOn (current : Path) (arguments : List String) : IO Command.Outcome := do
  match host.arguments arguments with
  | .error _ => return Command.run host ⟨.folder [], current⟩ arguments
  | .ok request => return Command.run host (← diskFor current request) arguments

end ThriftSchema.Program

open ThriftSchema in
/-- Runs the command line in the current folder. -/
def main (arguments : List String) : IO UInt32 := do
  let current := Path.ofString (← IO.currentDir).toString
  let outcome ← Program.runOn current arguments
  match outcome.printed with
  | .ok text => IO.print text
  | .error message => IO.eprintln message
  for path in outcome.written do
    if let .ok bytes := outcome.disk.readBytes path then
      IO.FS.writeBinFile path.text ⟨bytes.toArray⟩
  if let some crash := outcome.crash then IO.eprintln crash.message
  return UInt32.ofNat outcome.exitCode
