import ThriftSchema.Command.Console
import ThriftSchema.Command.Request
import ThriftSchema.Inclusion
import ThriftSchema.Outline.Export

set_option autoImplicit false

/-! # Running a command

A command reads files of a disk, prints, and may write one file. It ends by itself, with an exit
code, or by a crash; what was printed and written before stays. What it prints on, and how its
arguments are read, is given by its host.

* `Host`: what commands run on.
* `Session`: a step of a command.
* `check`, `parse`: the commands.
* `Outcome`, `run`: what the command line does.
-/

namespace ThriftSchema.Command

/-! ## Hosts -/

/-- What commands run on: how many references may be open at once in the matching of a text, the
console to print on, and how arguments are read. Those that are no request give a message. -/
structure Host where
  limit : Nat
  console : Console
  arguments : List String → Except String Request

/-! ## Sessions -/

/-- What a command has changed: the disk, the paths of the files that were written, and the
text that was printed. -/
structure Screen where
  disk : Disk
  written : List Path
  printed : String

/-- A failure that a command does not report. -/
inductive Crash where
  | failure (failure : Failure)
  | console (error : ConsoleError)
  /-- An integer that is too long to be written. -/
  | unwritable

/-- The message of a crash. -/
def Crash.message : Crash → String
  | failure reason => reason.message
  | console error => error.message
  | unwritable => BuildError.tooLongToWrite

/-- How a command ends early. -/
inductive Ending where
  | exit (code : Nat)
  | crash (crash : Crash)

/-- A step of a command. -/
abbrev Session := ExceptT Ending (StateM Screen)

/-- Ends with a crash. -/
def crash {α : Type} (reason : Crash) : Session α := throw (.crash reason)

/-- Ends with an exit code. -/
def exit {α : Type} (code : Nat) : Session α := throw (.exit code)

/-- Prints what a console shows. -/
def display (shown : Except ConsoleError String) : Session Unit :=
  match shown with
  | .ok text => modify fun s => { s with printed := s.printed ++ text }
  | .error error => crash (.console error)

variable (host : Host)

/-- Prints a text with tags. -/
def print (text : String) : Session Unit := display (host.console.text text)

/-- Writes a text to a file and says so. -/
def write (path : Path) (text : String) : Session Unit := do
  let screen ← get
  match screen.disk.writeText path text with
  | .error error => crash (.failure (.file path error))
  | .ok disk =>
    set { screen with disk, written := screen.written ++ [path] }
    print host (styled "green" ("Wrote " ++ path.text))

/-! ## Checking -/

/-- The start of a message about a rejected text. -/
def rejectedHead : String := "Syntax error at "

/-- A text without a start, if it has it. -/
def dropStart (start text : String) : String :=
  if start.toList.isPrefixOf text.toList then String.ofList (text.toList.drop start.length)
  else text

/-- Whether a file is good, and its row in the report. -/
def checkFile (limit : Nat) (disk : Disk) (file : Path) : Except Crash (Bool × List String) :=
  match disk.readText file "utf-8" with
  | .error error =>
    .ok (false, [file.text, styled "red" "UNREADABLE", Text.escape (error.message file)])
  | .ok text =>
    match Document.ofText limit { } text none with
    | .ok _ => .ok (true, [file.text, styled "green" "OK", ""])
    | .error (.source error) =>
      .ok (false, [
        file.text, styled "red" "INVALID", dropStart rejectedHead (Text.escape error.message)])
    | .error failure => .error (.failure failure)

/-- The report on checked files. -/
def checkTable (rows : List (List String)) : Table where
  title := "Syntax Check"
  columns := [⟨"File", some "cyan"⟩, ⟨"Result", none⟩, ⟨"Detail", none⟩]
  rows

/-- Checks files and reports on them. -/
def check (files : List Path) : Session Unit := do
  let disk := (← get).disk
  match files.mapM (checkFile host.limit disk) with
  | .error reason => crash reason
  | .ok results =>
    display (host.console.table (checkTable (results.map (·.2))))
    let failures := (results.filter fun result => !result.1).length
    if failures ≠ 0 then
      print host (styled "red"
        (toString failures ++ " of " ++ toString files.length ++ " file(s) failed."))
      exit 1

/-! ## Parsing -/

/-- Reports a failure and ends. A text that does not match is shown at the place of the error
if it is the file itself. -/
def reportFailure (location : Path) (failure : Failure) : Session Unit := do
  match failure with
  | .stopped _ | .file _ _ | .bottomless => crash (.failure failure)
  | .source (.notFound _ _) | .includeFailed _ _ _ | .circular _ =>
    print host (styled "red" ("Error: " ++ Text.escape failure.message))
  | .source error =>
    print host (styled "red" (Text.escape error.message))
    match error.place? with
    | none => pure ()
    | some place =>
      if place.source = some location.text then
        match (← get).disk.readText location "utf-8" with
        | .error error => crash (.failure (.file location error))
        | .ok text =>
          display (host.console.excerpt
            (Text.escape (place.excerpt (stripComments text) Place.usualSpan)))
  exit 1

/-- The word for the kind of a definition. -/
def kindWord : Definition → String
  | .const _ _ _ => "Const"
  | .typedef _ _ => "Typedef"
  | .enum _ _ => "Enum"
  | .senum _ _ => "Senum"
  | .struct _ _ _ => "Struct"
  | .union _ _ _ => "Union"
  | .exception _ _ => "Exception"
  | .service _ _ _ => "Service"

/-- How many headers there are, and how many definitions of each kind, the kinds sorted. -/
def summaryRows (document : Document) : List (List String) :=
  let kinds := document.definitions.map kindWord
  ["Headers", toString document.headers.length]
    :: (sortLabels kinds).map fun kind => [kind, toString (kinds.count kind)]

/-- The summary of a document. -/
def summaryTable (document : Document) : Table where
  title := "Document Summary"
  columns := [⟨"Item", some "cyan"⟩, ⟨"Count", some "green"⟩]
  rows := summaryRows document

/-- The text that says that a file has been parsed. -/
def parsedNote (request : ParseRequest) : String :=
  styled "green" "PARSED" ++ " " ++ Text.escape request.file.name

/-- Ends with a crash at an integer that is too long to be written. -/
def checkIntegers (document : Document) : Session Unit :=
  if document.outline.isWritable then pure () else crash .unwritable

/-- Shows a document as JSON. -/
def showJson (request : ParseRequest) (document : Document) : Session Unit := do
  checkIntegers document
  match request.out with
  | some path => write host path (document.toJson.text ++ "\n")
  | none => display (.ok (host.console.echo document.toJson.text))

/-- Shows the tree of a document, on the screen or in a file. -/
def writeTree (request : ParseRequest) (tree : Tree) : Session Unit :=
  match request.out with
  | some path =>
    match host.console.dump tree with
    | .ok text => write host path text
    | .error error => crash (.console error)
  | none => display (host.console.tree tree)

/-- Shows a document as a tree, with a summary. -/
def showTree (request : ParseRequest) (document : Document) : Session Unit := do
  checkIntegers document
  writeTree host request document.tree
  display (host.console.table (summaryTable document))
  display (host.console.panel "Result" (parsedNote request))

/-- The text for an include that was left out. -/
def skipNote (skipped : SkippedInclude) : String :=
  styled "yellow"
    ("Skipped include " ++ Text.quote skipped.path ++ " from " ++ skipped.includedFrom)

/-- The resolution that a request asks for. -/
def ParseRequest.resolution (request : ParseRequest) (limit : Nat) (disk : Disk) : Resolution :=
  let location := request.file.resolve disk.current
  resolve limit request.options (filesFor request.options disk location).loader location.text

/-- Parses a file with its includes and shows the document. -/
def parse (request : ParseRequest) : Session Unit := do
  let disk := (← get).disk
  let isThere ← match disk.contains request.file with
    | .ok isThere => pure isThere
    | .error error => crash (.failure (.file request.file error))
  if !isThere then
    print host (styled "red" ("Error: File " ++ request.file.text ++ " not found."))
    exit 1
  let resolution := request.resolution host.limit disk
  match resolution.result with
  | .error failure => reportFailure host (request.file.resolve disk.current) failure
  | .ok document =>
    for skipped in resolution.skipped do
      print host (skipNote skipped)
    if request.json then showJson host request document else showTree host request document

/-! ## The command line -/

/-- What the command line did: its exit code, what was printed unless the arguments were wrong,
the crash it ended with, and the disk it left with the paths it wrote to. -/
structure Outcome where
  exitCode : Nat
  printed : Except String String
  crash : Option Crash
  disk : Disk
  written : List Path

/-- Serves a request. -/
def serve : Request → Session Unit
  | .check files => check host files
  | .parse request => parse host request

/-- Runs the command line. -/
def run (disk : Disk) (arguments : List String) : Outcome :=
  match host.arguments arguments with
  | .error message => ⟨2, .error message, none, disk, []⟩
  | .ok request =>
    let (ending, screen) := ((serve host request).run).run ⟨disk, [], ""⟩
    let left (exitCode : Nat) (crash : Option Crash) : Outcome :=
      ⟨exitCode, .ok screen.printed, crash, screen.disk, screen.written⟩
    match ending with
    | .ok () => left 0 none
    | .error (.exit code) => left code none
    | .error (.crash reason) => left 1 (some reason)

end ThriftSchema.Command
