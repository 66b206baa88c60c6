import ThriftSchema.Assembly.Entry
import ThriftSchema.Number.Integer
import ThriftSchema.Rule.Basic

set_option autoImplicit false

/-! # Errors of assembly

Assembly fails where a text is no value of its kind, or where the stack or the frame do not
hold what a production needs. The second never happens under the productions of the language;
it can happen to someone who drives the reductions by hand.

* `BuildError`: the causes.
* `BuildError.message`, `emptyStackMessage`: their wording.
-/

namespace ThriftSchema

/-- Why a value cannot be built. -/
inductive BuildError where
  /-- A text that is no integer of the base. -/
  | notInteger (base : Nat) (text : String)
  /-- Decimal text with more digits than are read. -/
  | integerTooLong (digits : Nat)
  /-- A text that is no decimal number. -/
  | notDouble (text : String)
  /-- A word that is no requiredness. -/
  | notRequiredness (word : String)
  /-- A slot of the frame that is empty or holds an entry of another kind. -/
  | slotHolds (slot : String) (held : Option Entry)
  /-- A slot that may be empty, and holds an entry without the part that is asked for. -/
  | slotUnreadable (slot : String) (held : Entry)
  /-- An entry of another kind where one kind is taken from the stack. -/
  | unexpected (found : Entry)
  /-- No boundary of the opener below the entries of a list. -/
  | boundaryMissing (opener : String) (above : Nat) (found : Option Entry)
  /-- Entries that are left when the document is complete. -/
  | unreduced (count : Nat)

namespace BuildError

/-- The advice at the end of a message about an integer that is too long. -/
def limitAdvice : String := "use sys.set_int_max_str_digits() to increase the limit"

/-- The start of a message about an integer that is too long. -/
def limitNotice : String :=
  "Exceeds the limit (" ++ toString Number.digitLimit
    ++ " digits) for integer string conversion"

/-- The message for an integer that is too long to be read. -/
def tooLongToRead (digits : Nat) : String :=
  limitNotice ++ ": value has " ++ toString digits ++ " digits; " ++ limitAdvice

/-- The message for an integer that is too long to be written. -/
def tooLongToWrite : String := limitNotice ++ "; " ++ limitAdvice

/-- The greatest number of characters that a message about an integer shows of a text. -/
def shownLimit : Nat := 200

/-- The start of a quoted text, as much of it as is shown. -/
def quoteStart (text : String) : String :=
  String.ofList ((Text.quote text).toList.take shownLimit)

/-- The message of an error. -/
def message : BuildError → String
  | notInteger base text =>
    "invalid literal for int() with base " ++ toString base ++ ": " ++ quoteStart text
  | integerTooLong digits => tooLongToRead digits
  | notDouble text => "could not convert string to float: " ++ Text.quote text
  | notRequiredness word => Text.quote word ++ " is not a valid Requiredness"
  | slotHolds slot held =>
    "capture " ++ Text.quote slot ++ " holds " ++ Entry.describe? held
  | slotUnreadable slot held =>
    "capture " ++ Text.quote slot ++ " cannot be read: " ++ held.describe
  | unexpected found => "unexpected entry on the value stack: " ++ found.describe
  | boundaryMissing opener above found =>
    "expected " ++ Text.quote opener ++ " boundary below " ++ toString above
      ++ " entries, found " ++ Entry.describe? found
  | unreduced count => toString count ++ " unreduced entries below the document"

end BuildError

/-- The message for a value taken from an empty stack. -/
def emptyStackMessage : String := "pop from an empty value stack"

end ThriftSchema
