import ThriftSchema.Comment
import ThriftSchema.Failure
import ThriftSchema.Production

set_option autoImplicit false

/-! # Reading documents

A text is read by taking its comments out and matching the production of a document against the
rest. A text that is only to be recognized is matched against the same productions without
everything that assembles. In both, `limit` is how many references may be open at once.

* `Document.ofText`: the document of a text, or why there is none.
* `recognizes`: whether a text is a document.
-/

namespace ThriftSchema

/-- Matches a whole document, and gives the state behind it. -/
def matchDocument (limit : Nat) (options : BuildOptions) (text : String)
    (source : Option String) : Except (MatchError BuildError) (State Entry) :=
  (Production.rules options).matchText limit (Production.document options)
    (stripComments text).toList source

/-- The document on top of the stack. -/
def takeDocument (state : State Entry) : Except (Stop BuildError) Document :=
  ((Reduction.takeExpected Entry.asDocument?).runOn state.mark).1

/-- The document of a text; `source` is the name of the text in messages. -/
def Document.ofText (limit : Nat) (options : BuildOptions) (text : String)
    (source : Option String) : Except Failure Document :=
  match matchDocument limit options text source with
  | .error error => .error (.ofMatch error)
  | .ok state =>
    match takeDocument state with
    | .error stop => .error (.stopped stop)
    | .ok document => .ok document

/-- Matches a whole document without assembling it. -/
def recognize (limit : Nat) (text : String) : Except (MatchError BuildError) (State Entry) :=
  (Production.rules { }).bare.matchText limit (Production.document { }).bare
    (stripComments text).toList none

/-- Whether a text is a document. -/
def recognizes (limit : Nat) (text : String) : Bool :=
  match recognize limit text with
  | .ok _ => true
  | .error _ => false

/-- The document of a text, if it is one. A failure that does not come from the text as a
whole, such as a number that is too long to be read, is still a failure. -/
def Document.ofText? (limit : Nat) (options : BuildOptions) (text : String)
    (source : Option String) : Except Failure (Option Document) :=
  match Document.ofText limit options text source with
  | .ok document => .ok (some document)
  | .error (.source _) => .ok none
  | .error failure => .error failure

end ThriftSchema
