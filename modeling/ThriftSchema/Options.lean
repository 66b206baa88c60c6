import ThriftSchema.Assembly.Reduction
import ThriftSchema.Json
import ThriftSchema.Source.Path

set_option autoImplicit false

/-! # Options

Options say what of a document is kept and how its includes are found. They can be given as JSON
values by their names; each value that does not fit its option is an error of its own, and what
is not an option is ignored.

* `Options`: the options with their usual values.
* `Options.ofSettings`: from JSON values, or what is wrong with them.
* `Options.toSettings`: to JSON values.
-/

namespace ThriftSchema

/-- What happens to an include that gives no document. -/
inductive IncludePolicy where
  | skip
  | fail
deriving DecidableEq, Repr

/-- The word for a policy. -/
def IncludePolicy.word : IncludePolicy → String
  | skip => "skip"
  | fail => "fail"

/-- How documents are read. -/
structure Options extends BuildOptions where
  /-- Where includes are looked for; if missing, where the first file is. -/
  includeRoot : Option Path := none
  includePolicy : IncludePolicy := .skip
  followIncludes : Bool := true
  encoding : String := "utf-8"
deriving DecidableEq, Repr

/-! ## Values -/

/-- Why a value does not fit an option. -/
inductive SettingError where
  /-- A word or a number that is no truth value. -/
  | boolParsing
  /-- A value of a type that has no truth values. -/
  | boolType
  | enum
  | stringType
  | pathType
  /-- Options cannot be changed. -/
  | frozen
deriving DecidableEq, Repr

/-- The name of an error. -/
def SettingError.name : SettingError → String
  | boolParsing => "bool_parsing"
  | boolType => "bool_type"
  | enum => "enum"
  | stringType => "string_type"
  | pathType => "path_type"
  | frozen => "frozen_instance"

/-- The words for true. -/
def trueWords : List String := ["1", "true", "t", "yes", "y", "on"]

/-- The words for false. -/
def falseWords : List String := ["0", "false", "f", "no", "n", "off"]

/-- A truth value that may be spelled as a word of either case or as one or zero. -/
def readFlag : Json → Except SettingError Bool
  | .bool value => .ok value
  | .string text =>
    let word := text.map Char.toLower
    if trueWords.contains word then .ok true
    else if falseWords.contains word then .ok false
    else .error .boolParsing
  | .integer value =>
    if value = 1 then .ok true else if value = 0 then .ok false else .error .boolParsing
  | .double value =>
    if value.sameValue (.ofDecimal false 1 0) then .ok true
    else if value.sameValue (.ofDecimal false 0 0) then .ok false
    else if value.isIntegral then .error .boolParsing
    else .error .boolType
  | _ => .error .boolType

/-- A policy by its word. -/
def readPolicy : Json → Except SettingError IncludePolicy
  | .string "skip" => .ok .skip
  | .string "fail" => .ok .fail
  | _ => .error .enum

/-- A path that may be missing. -/
def readRoot : Json → Except SettingError (Option Path)
  | .null => .ok none
  | .string text => .ok (some (.ofString text))
  | _ => .error .pathType

/-- A text. -/
def readText : Json → Except SettingError String
  | .string text => .ok text
  | _ => .error .stringType

/-! ## Options from values -/

/-- Reads an option if it is among the settings, and notes an error under its name. -/
def readSetting {α : Type} (settings : Bindings Json) (name : String)
    (read : Json → Except SettingError α) (usual : α) :
    StateM (List (String × SettingError)) α := do
  match settings.get? name with
  | none => return usual
  | some value =>
    match read value with
    | .ok value => return value
    | .error error =>
      modify (· ++ [(name, error)])
      return usual

namespace Options

/-- Reads the options, in the order of their names. -/
def readAll (settings : Bindings Json) : StateM (List (String × SettingError)) Options := do
  let numberEnums ← readSetting settings "auto_number_enums" readFlag false
  let encoding ← readSetting settings "encoding" readText "utf-8"
  let followIncludes ← readSetting settings "follow_includes" readFlag true
  let includePolicy ← readSetting settings "include_policy" readPolicy .skip
  let includeRoot ← readSetting settings "include_root" readRoot none
  let retainRequiredness ← readSetting settings "retain_requiredness" readFlag false
  return {
    retainRequiredness, numberEnums, includeRoot, includePolicy, followIncludes, encoding }

/-- The options of settings, or all errors in the order of the names. -/
def ofSettings (settings : Bindings Json) :
    Except (List (String × SettingError)) Options :=
  match (readAll settings).run [] with
  | (options, []) => .ok options
  | (_, errors) => .error errors

/-- The options by name. -/
def toSettings (options : Options) : Bindings Json := [
  ("include_root", match options.includeRoot with
    | none => .null
    | some path => .string path.text),
  ("include_policy", .string options.includePolicy.word),
  ("follow_includes", .bool options.followIncludes),
  ("retain_requiredness", .bool options.retainRequiredness),
  ("auto_number_enums", .bool options.numberEnums),
  ("encoding", .string options.encoding)]

/-- Changing an option is refused, whatever the value. -/
def assign (_ : Options) (name : String) (_ : Json) : List (String × SettingError) :=
  [(name, .frozen)]

end Options

end ThriftSchema
