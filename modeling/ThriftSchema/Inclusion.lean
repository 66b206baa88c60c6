import ThriftSchema.Event
import ThriftSchema.Options
import ThriftSchema.Reading
import ThriftSchema.Source.Files
import ThriftSchema.Source.Loader

set_option autoImplicit false

/-! # Inclusion

A document is resolved together with all it includes: each include is resolved first and then
merged behind. An include that gives no document is skipped or ends the resolution, as the
policy says; an include that leads back to a source that is being resolved always ends it.

* `Resolution`: what a resolution ends with, and what it skipped and passed on the way.
* `resolveWithin`: resolving a path, given the sources that are being resolved.
* `resolve`: resolving a path.
* `parseFile`: the document of a file, with its includes if they are to be followed.
-/

namespace ThriftSchema

/-! ## Resolutions -/

/-- An include that was left out. -/
structure SkippedInclude where
  path : String
  includedFrom : String
  reason : String
deriving DecidableEq, Repr

/-- What a resolution ends with. What was skipped and passed is known after a failure too. -/
structure Resolution where
  skipped : List SkippedInclude
  events : List Event
  result : Except Failure Document

namespace Resolution

/-- A resolution that ends at once. -/
def ended (events : List Event) (result : Except Failure Document) : Resolution :=
  ⟨[], events, result⟩

/-- Puts what came before in front of a resolution. -/
def after (r : Resolution) (skipped : List SkippedInclude) (events : List Event) : Resolution :=
  ⟨skipped ++ r.skipped, events ++ r.events, r.result⟩

end Resolution

/-! ## Includes -/

/-- Merges the includes of the document at a path, one after the other; `resolve` resolves one
of them. -/
def followIncludes (policy : IncludePolicy) (resolve : String → Resolution) (path : String) :
    List String → Document → Resolution
  | [], document => .ended [] (.ok document)
  | target :: targets, document =>
    let r := resolve target
    let events := .resolving target path :: r.events
    match r.result with
    | .ok included =>
      (followIncludes policy resolve path targets (document.merge included)).after
        r.skipped events
    | .error (.source cause) =>
      match policy with
      | .fail => ⟨r.skipped, events, .error (.includeFailed target path cause)⟩
      | .skip =>
        (followIncludes policy resolve path targets document).after
          (r.skipped ++ [⟨target, path, cause.message⟩])
          (events ++ [.skipping target path cause.message])
    | .error failure => ⟨r.skipped, events, .error failure⟩

/-- A source that is being resolved: its key, and the path it was reached by. -/
abbrev Link := String × String

/-- The paths from the first link of a key on, if there is one. -/
def cycleFrom? (key : String) (chain : List Link) : Option (List String) :=
  match chain.dropWhile (fun link => link.1 != key) with
  | [] => none
  | links => some (links.map (·.2))

/-- Reads the text at a path. -/
def readSource (limit : Nat) (options : Options) (loader : Loader) (path : String) :
    Except Failure Document × List Event :=
  match loader.load path with
  | .error failure => (.error failure, loader.events path)
  | .ok text =>
    let result := Document.ofText limit options.toBuildOptions text (some path)
    (result, loader.events path ++ Event.ofReading (some path) result)

/-- Resolves a path; `chain` are the sources that are being resolved, the first one first, and
the number bounds how many more there can be. -/
def resolveWithin (limit : Nat) (options : Options) (loader : Loader) :
    Nat → String → List Link → Resolution
  | 0, _, _ => .ended [] (.error .bottomless)
  | depth + 1, path, chain =>
    match loader.key path with
    | .error failure => .ended [] (.error failure)
    | .ok key =>
      match cycleFrom? key chain with
      | some paths => .ended [] (.error (.circular (paths ++ [path])))
      | none =>
        match readSource limit options loader path with
        | (.error failure, events) => .ended events (.error failure)
        | (.ok document, events) =>
          (followIncludes options.includePolicy
            (fun target =>
              resolveWithin limit options loader depth target (chain ++ [(key, path)]))
            path document.includePaths document).after [] events

/-- Resolves a path. A chain of includes that loads every source once more ends in a cycle or
in a source that is missing. -/
def resolve (limit : Nat) (options : Options) (loader : Loader) (path : String) : Resolution :=
  resolveWithin limit options loader (loader.size + 1) path []

/-! ## Files -/

/-- The document at a path of a loader, with its includes if they are to be followed. -/
def parseFrom (limit : Nat) (options : Options) (loader : Loader) (path : String) : Resolution :=
  if options.followIncludes then resolve limit options loader path
  else
    let (result, events) := readSource limit options loader path
    .ended events result

/-- The files for a path from the root: those below the folder for includes, if there is one,
and else those beside the path. -/
def filesFor (options : Options) (disk : Disk) (path : Path) : Files :=
  ⟨disk, options.includeRoot.getD path.parent, options.encoding⟩

/-- The document of a file of a disk. -/
def parseFile (limit : Nat) (options : Options) (disk : Disk) (path : String) : Resolution :=
  match Files.keyOf disk (Path.ofString path) with
  | .error failure => .ended [] (.error failure)
  | .ok location => parseFrom limit options (filesFor options disk location).loader location.text

end ThriftSchema
