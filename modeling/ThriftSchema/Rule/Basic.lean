import ThriftSchema.Rule.Pattern
import ThriftSchema.Rule.State
import ThriftSchema.Text.Quoted

set_option autoImplicit false

/-! # Rules of ordered choice

A rule matches at the cursor and moves it, or fails. Of the alternatives of a choice the first
that matches is taken, and what it pushed, captured and consumed stays; a sequence that fails
in the middle is undone. Rules are finite terms; recursion goes through `ref`, which names a
rule that is looked up when it is reached.

* `Rule V E`: rules that push values of `V` and whose builders fail with errors of `E`.
* `Rule.label`: what a rule is called in a message.
* `Rule.describe`: a rule as a short text.
-/

namespace ThriftSchema

/-! ## Stops -/

/-- Why a match was broken off, which is neither success nor failure. -/
inductive Stop (E : Type) where
  /-- References nest deeper than the matcher follows. -/
  | nestingTooDeep
  /-- A value was taken from an empty stack. -/
  | emptyStack
  /-- A reference to a rule that is not defined. -/
  | undefinedRule (name : String)
  /-- A repetition that goes on after the whole text. -/
  | endless
  /-- An error of a builder. -/
  | raised (error : E)

/-- A step on cursor, stack and frame that may break off; what it did before it broke off
stays. -/
abbrev Action (V E : Type) := ExceptT (Stop E) (StateM (Mark V))

namespace Action

variable {V E : Type}

/-- Breaks off with an error. -/
def raise {α : Type} (error : E) : Action V E α := throw (.raised error)

/-- Pushes a value. -/
def push (value : V) : Action V E Unit :=
  modify fun m => { m with stack := value :: m.stack }

/-- The value on top of the stack. -/
def peek : Action V E (Option V) := do
  return (← get).stack.head?

/-- Takes the value on top of the stack. -/
def pop : Action V E V := do
  let m ← get
  match m.stack with
  | [] => throw .emptyStack
  | value :: stack =>
    set { m with stack }
    return value

/-- The value of a name in the frame. -/
def slot? (name : String) : Action V E (Option V) := do
  return (← get).frame.get? name

/-- Stores a value in the frame. -/
def store (slot : String) (value : V) : Action V E Unit :=
  modify fun m => { m with frame := m.frame.set slot value }

/-- What an action does to a mark. -/
def runOn {α : Type} (action : Action V E α) (m : Mark V) : Except (Stop E) α × Mark V :=
  (ExceptT.run action).run m

end Action

/-! ## Rules -/

/-- Rules of ordered choice. A sequence is spelled as `seq first rest` and ends in `done`; a
choice is spelled as `alt first rest` and ends in `never`. -/
inductive Rule (V E : Type) where
  /-- The text itself. -/
  | literal (text : String)
  /-- A word that does not run on into an identifier. -/
  | keyword (word : String)
  /-- A lexical pattern. -/
  | pattern (label : String) (pattern : Pattern)
  /-- The empty sequence, which matches. -/
  | done
  /-- A rule and then the rest of a sequence. -/
  | seq (first rest : Rule V E)
  /-- The empty choice, which fails. -/
  | never
  /-- A rule or else the rest of a choice. -/
  | alt (first rest : Rule V E)
  /-- A rule as often as it matches and moves the cursor. -/
  | star (rule : Rule V E)
  /-- A rule at least once. -/
  | plus (rule : Rule V E)
  /-- A rule or nothing. -/
  | opt (rule : Rule V E)
  /-- Matches where the rule does not, and consumes nothing. -/
  | absent (rule : Rule V E)
  /-- The end of the text. -/
  | finish
  /-- The rule of a name. -/
  | ref (name : String)
  /-- A rule whose failures count as one expectation at its start. -/
  | token (label : String) (rule : Rule V E)
  /-- Pushes what `build` makes of the matched text. -/
  | leaf (build : String → Except E V) (rule : Rule V E)
  /-- Moves the value that the rule pushed into the frame. -/
  | capture (slot : String) (rule : Rule V E)
  /-- Stores a constant in the frame. -/
  | setSlot (slot : String) (value : V)
  /-- Gives the rule a frame of its own. -/
  | scope (rule : Rule V E)
  /-- Runs an action and consumes nothing. -/
  | action (name : String) (run : Action V E Unit)
  /-- Notes cursor, stack and frame in the trace. -/
  | probe (name : String)

namespace Rule

variable {V E : Type}

/-- All rules one after the other. -/
def sequence (rules : List (Rule V E)) : Rule V E := rules.foldr seq done

/-- The first rule that matches. -/
def firstOf (rules : List (Rule V E)) : Rule V E := rules.foldr alt never

/-- The rule for a pattern, labelled by its expression unless it gets a label. -/
def ofPattern (p : Pattern) (label : String) : Rule V E :=
  pattern (if label = "" then p.regex else label) p

/-! ## Labels -/

/-- What a rule is called in a message. -/
def label : Rule V E → String
  | literal text => Text.quote text
  | keyword word => Text.quote word
  | pattern label _ => label
  | done => ""
  | seq first rest =>
    match rest with
    | done => first.label
    | _ => first.label ++ " " ++ rest.label
  | never => ""
  | alt first rest =>
    match rest with
    | never => first.label
    | _ => first.label ++ " | " ++ rest.label
  | star rule => "(" ++ rule.label ++ ")*"
  | plus rule => "(" ++ rule.label ++ ")+"
  | opt rule => "(" ++ rule.label ++ ")?"
  | absent rule => "!" ++ rule.label
  | finish => "end of input"
  | ref name => name
  | token label _ => label
  | leaf _ rule => rule.label
  | capture _ rule => rule.label
  | setSlot slot _ => slot
  | scope rule => rule.label
  | action name _ => name
  | probe name => name

/-- The word for the kind of a rule. -/
def kind : Rule V E → String
  | literal _ => "Literal"
  | keyword _ => "Keyword"
  | pattern _ _ => "Pattern"
  | done | seq _ _ => "Sequence"
  | never | alt _ _ => "FirstOf"
  | star _ => "ZeroOrMore"
  | plus _ => "OneOrMore"
  | opt _ => "Optional"
  | absent _ => "Not"
  | finish => "EndOfInput"
  | ref _ => "Forward"
  | token _ _ => "Token"
  | leaf _ _ => "Leaf"
  | capture _ _ => "Capture"
  | setSlot _ _ => "SetSlot"
  | scope _ => "Scope"
  | action _ _ | probe _ => "Action"

/-- A rule by its kind and its label. -/
def describe (rule : Rule V E) : String :=
  "<" ++ rule.kind ++ " " ++ rule.label ++ ">"

/-! ## Recognizers -/

/-- The rule without everything that pushes, captures or acts: it matches the same texts, and
builds nothing. -/
def bare : Rule V E → Rule V E
  | seq first rest => seq first.bare rest.bare
  | alt first rest => alt first.bare rest.bare
  | star rule => star rule.bare
  | plus rule => plus rule.bare
  | opt rule => opt rule.bare
  | absent rule => absent rule.bare
  | token label rule => token label rule.bare
  | leaf _ rule | capture _ rule | scope rule => rule.bare
  | setSlot _ _ | action _ _ | probe _ => done
  | rule => rule

end Rule

end ThriftSchema
