import ThriftSchema.Command.Request

set_option autoImplicit false

/-! # Arguments of the command line

Options start with a dash; a single dash is no option, and two dashes end the options. A long
option takes its value behind an equals sign or from the next argument; short options can be
joined behind one dash, and the rest of the argument is the value of the first that takes one.

* `scan`: the options among some arguments, and the other arguments.
* `readArguments`: what is asked for.
-/

namespace ThriftSchema.Teletype

open Command (Request)

/-! ## Options -/

/-- Why arguments are no request. -/
inductive UsageError where
  | unknownOption (name : String)
  | missingValue
  | unexpectedValue (name : String)
  | missingCommand
  | unknownCommand (name : String)
  | missingArgument
  | extraArguments (arguments : List String)
  /-- A path with a null character. -/
  | nullInPath (path : String)
deriving DecidableEq, Repr

/-- The message of a usage error. -/
def UsageError.message : UsageError → String
  | unknownOption name => "No such option: " ++ name
  | missingValue => "An option requires a value"
  | unexpectedValue name => "Option " ++ name ++ " does not take a value"
  | missingCommand => "Missing command"
  | unknownCommand name => "No such command: " ++ name
  | missingArgument => "Missing argument"
  | extraArguments arguments => "Unexpected extra arguments: " ++ " ".intercalate arguments
  | nullInPath path => "Path with a null character: " ++ path

/-- An option: how it is spelled, and whether it takes a value. -/
structure Switch (ι : Type) where
  option : ι
  spellings : List String
  takesValue : Bool

variable {ι : Type}

/-- The option of a spelling. -/
def findSwitch? (switches : List (Switch ι)) (name : String) : Option (Switch ι) :=
  switches.find? fun switch => switch.spellings.contains name

/-- Options with their values, and an option whose value is the next argument. -/
abbrev Scanned (ι : Type) := List (ι × String) × Option ι

/-- The options joined behind one dash. -/
def readJoined (switches : List (Switch ι)) : List Char → Except UsageError (Scanned ι)
  | [] => .ok ([], none)
  | c :: cs =>
    let name := String.ofList ['-', c]
    match findSwitch? switches name with
    | none => .error (.unknownOption name)
    | some switch =>
      if switch.takesValue then
        if cs.isEmpty then .ok ([], some switch.option)
        else .ok ([(switch.option, String.ofList cs)], none)
      else do
        let (given, pending) ← readJoined switches cs
        return ((switch.option, "") :: given, pending)

/-- The options of an argument that starts with a dash. -/
def readSwitch (switches : List (Switch ι)) (argument : List Char) :
    Except UsageError (Scanned ι) :=
  if argument.take 2 = ['-', '-'] then
    let name := String.ofList (argument.takeWhile (· != '='))
    match findSwitch? switches name, argument.dropWhile (· != '=') with
    | none, _ => .error (.unknownOption name)
    | some switch, [] =>
      if switch.takesValue then .ok ([], some switch.option)
      else .ok ([(switch.option, "")], none)
    | some switch, _ :: value =>
      if switch.takesValue then .ok ([(switch.option, String.ofList value)], none)
      else .error (.unexpectedValue name)
  else readJoined switches (argument.drop 1)

/-- The options among arguments, and the other arguments. If options may not stand behind other
arguments, the first of those ends them. -/
def scan (switches : List (Switch ι)) (interspersed : Bool) :
    Option ι → List String → Except UsageError (List (ι × String) × List String)
  | some _, [] => .error .missingValue
  | none, [] => .ok ([], [])
  | some option, value :: arguments => do
    let (given, others) ← scan switches interspersed none arguments
    return ((option, value) :: given, others)
  | none, argument :: arguments =>
    if argument = "--" then .ok ([], arguments)
    else match argument.toList with
    | '-' :: c :: cs => do
      let (first, pending) ← readSwitch switches ('-' :: c :: cs)
      let (given, others) ← scan switches interspersed pending arguments
      return (first ++ given, others)
    | _ =>
      if interspersed then do
        let (given, others) ← scan switches interspersed none arguments
        return (given, argument :: others)
      else .ok ([], argument :: arguments)

/-! ## Requests -/

/-- The option in front of the command. -/
inductive CommonOption where
  | verbose
deriving DecidableEq

/-- The options of the command `parse`. -/
inductive ParseOption where
  | root
  | strictIncludes
  | requiredness
  | autoNumber
  | json
  | out
deriving DecidableEq

/-- The spellings in front of the command. -/
def commonSwitches : List (Switch CommonOption) := [⟨.verbose, ["--verbose", "-v"], false⟩]

/-- The spellings behind the command `parse`. -/
def parseSwitches : List (Switch ParseOption) := [
  ⟨.root, ["--root", "-r"], true⟩,
  ⟨.strictIncludes, ["--strict-includes"], false⟩,
  ⟨.requiredness, ["--requiredness"], false⟩,
  ⟨.autoNumber, ["--auto-number"], false⟩,
  ⟨.json, ["--json"], false⟩,
  ⟨.out, ["--out", "-o"], true⟩]

/-- The path of an argument. -/
def readPath (argument : String) : Except UsageError Path :=
  if argument.toList.contains '\x00' then .error (.nullInPath argument)
  else .ok (Path.ofString argument)

/-- The last value of an option as a path. -/
def lastPath (given : List (ParseOption × String)) (option : ParseOption) :
    Except UsageError (Option Path) :=
  (given.reverse.lookup option).mapM readPath

/-- Whether an option is given. -/
def isGiven (given : List (ParseOption × String)) (option : ParseOption) : Bool :=
  (given.lookup option).isSome

/-- The request of the arguments of `check`. -/
def readCheck (arguments : List String) : Except UsageError Request := do
  let (_, files) ← scan ([] : List (Switch CommonOption)) true none arguments
  if files.isEmpty then throw .missingArgument
  return .check (← files.mapM readPath)

/-- The request of the arguments of `parse`. -/
def readParse (arguments : List String) : Except UsageError Request := do
  let (given, files) ← scan parseSwitches true none arguments
  match files with
  | [] => throw .missingArgument
  | [file] =>
    return .parse {
      file := ← readPath file
      root := ← lastPath given .root
      strictIncludes := isGiven given .strictIncludes
      requiredness := isGiven given .requiredness
      autoNumber := isGiven given .autoNumber
      json := isGiven given .json
      out := ← lastPath given .out }
  | _ :: extra => throw (.extraArguments extra)

/-- The request of all arguments. -/
def readArguments (arguments : List String) : Except UsageError Request := do
  let (_, rest) ← scan commonSwitches false none arguments
  match rest with
  | [] => throw .missingCommand
  | "check" :: arguments => readCheck arguments
  | "parse" :: arguments => readParse arguments
  | name :: _ => throw (.unknownCommand name)

end ThriftSchema.Teletype
