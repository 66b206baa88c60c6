import ThriftSchema.Rule.Basic
import ThriftSchema.Rule.Rejection

set_option autoImplicit false

/-! # Matching

One function runs a rule on a state. It recurs on the rule; what a reference does is a
parameter, so that the recursion through names is a recursion on the number of references that
may still be entered. How many there may be at once is up to the system that the matcher runs on,
whose stack holds only so many nested calls, and stays a parameter. A repetition recurs on the text
ahead, since every round but its last consumes some of it.

* `Rule.run`: a rule on a state, given what references do.
* `Rules.call`: what references do, down to a depth.
* `Rules.matchText`: a rule on a whole text: the state it ends in, or why there is none.
-/

namespace ThriftSchema

variable {V E : Type}

/-! ## Outcomes -/

/-- How a rule ended. -/
inductive Outcome (E : Type) where
  | matched
  | failed
  | stopped (stop : Stop E)

/-- The state that a rule left, and how it ended. -/
structure Result (V E : Type) where
  state : State V
  outcome : Outcome E

namespace Result

/-- Goes on after a match; the other outcomes stay. -/
def andThen (r : Result V E) (next : State V → Result V E) : Result V E :=
  match r.outcome with
  | .matched => next r.state
  | _ => r

/-- Goes on after a failure; the other outcomes stay. -/
def orElse (r : Result V E) (next : State V → Result V E) : Result V E :=
  match r.outcome with
  | .failed => next r.state
  | _ => r

/-- Changes the state, whatever the outcome. -/
def onState (r : Result V E) (f : State V → State V) : Result V E :=
  { r with state := f r.state }

end Result

/-! ## Steps -/

/-- A match that moves the cursor over `count` characters. -/
def State.accept (s : State V) (count : Nat) : Result V E := ⟨s.advance count, .matched⟩

/-- A failure at the cursor. -/
def State.refuse (s : State V) (label : String) : Result V E := ⟨s.failAt label s.pos, .failed⟩

/-- Whether a text goes on with a word that ends where an identifier could not go on. -/
def startsWithWord (word : List Char) (cs : List Char) : Bool :=
  word.isPrefixOf cs &&
    match cs.drop word.length with
    | [] => true
    | c :: _ => !Pattern.isNameChar c

/-- Runs `step` until it fails or leaves the cursor in place. The list bounds the rounds. -/
def repeatStep (step : State V → Result V E) : List Char → State V → Result V E
  | [], s => ⟨s, .stopped .endless⟩
  | _ :: bound, s =>
    let r := step s
    match r.outcome with
    | .matched => if r.state.pos = s.pos then r else repeatStep step bound r.state
    | .failed => ⟨r.state, .matched⟩
    | .stopped _ => r

/-- A bound on the rounds of a repetition: one for each character ahead, one to fail, and one
for a cursor that starts beyond the text. -/
def State.roundBound (s : State V) : List Char := ' ' :: ' ' :: s.cursor.rest

/-- Takes the top of the stack into the frame. -/
def State.captureTop (s : State V) (slot : String) : Result V E :=
  match s.stack with
  | [] => ⟨s, .stopped .emptyStack⟩
  | value :: stack => ⟨({ s with stack } : State V).capture slot value, .matched⟩

/-- Pushes what is built from the text between two cursors. -/
def State.pushBuilt (s : State V) (build : String → Except E V) (first : Cursor) : Result V E :=
  match build (String.ofList (first.textTo s.cursor)) with
  | .ok value => ⟨s.push value, .matched⟩
  | .error error => ⟨s, .stopped (.raised error)⟩

/-- Runs an action. -/
def State.act (s : State V) (action : Action V E Unit) : Result V E :=
  match action.runOn s.mark with
  | (.ok (), m) => ⟨s.reset m, .matched⟩
  | (.error stop, m) => ⟨s.reset m, .stopped stop⟩

/-! ## Rules -/

/-- Runs a rule on a state; `call` runs the rule of a name. -/
def Rule.run (call : String → State V → Result V E) : Rule V E → State V → Result V E
  | literal text, s =>
    if text.toList.isPrefixOf s.cursor.rest then s.accept text.length
    else s.refuse (Text.quote text)
  | keyword word, s =>
    if startsWithWord word.toList s.cursor.rest then s.accept word.length
    else s.refuse (Text.quote word)
  | pattern label p, s =>
    match p.measure s.cursor.rest with
    | some count => s.accept count
    | none => s.refuse label
  | done, s => ⟨s, .matched⟩
  | seq first rest, s =>
    (((first.run call s).andThen (rest.run call))).orElse fun s' => ⟨s'.reset s.mark, .failed⟩
  | never, s => ⟨s, .failed⟩
  | alt first rest, s => (first.run call s).orElse (rest.run call)
  | star rule, s => repeatStep (rule.run call) s.roundBound s
  | plus rule, s =>
    (rule.run call s).andThen fun s' => repeatStep (rule.run call) s'.roundBound s'
  | opt rule, s => (rule.run call s).orElse fun s' => ⟨s', .matched⟩
  | absent rule, s =>
    let r := (rule.run call s.hush).onState State.unhush
    match r.outcome with
    | .matched => ⟨r.state.reset s.mark, .failed⟩
    | .failed => ⟨r.state.reset s.mark, .matched⟩
    | .stopped _ => r
  | finish, s =>
    if s.cursor.rest.isEmpty then ⟨s, .matched⟩ else s.refuse "end of input"
  | ref name, s => call name s
  | token label rule, s =>
    ((rule.run call s.hush).onState State.unhush).orElse fun s' =>
      ⟨s'.failAt label s.pos, .failed⟩
  | leaf build rule, s => (rule.run call s).andThen fun s' => s'.pushBuilt build s.cursor
  | capture slot rule, s => (rule.run call s).andThen fun s' => s'.captureTop slot
  | setSlot slot value, s => ⟨s.capture slot value, .matched⟩
  | scope rule, s =>
    (rule.run call { s with frame := [] }).onState fun s' => { s' with frame := s.frame }
  | action _ act, s => s.act act
  | probe _, s => ⟨s.observe, .matched⟩

/-! ## References -/

/-- The rules that references name. -/
structure Rules (V E : Type) where
  find? : String → Option (Rule V E)

namespace Rules

/-- No rules, for texts without references. -/
def empty : Rules V E := ⟨fun _ => none⟩

/-- Runs the rule of a name when at most `depth` references may be open at once. -/
def call (rules : Rules V E) : Nat → String → State V → Result V E
  | 0, _, s => ⟨s, .stopped .nestingTooDeep⟩
  | depth + 1, name, s =>
    match rules.find? name with
    | none => ⟨s, .stopped (.undefinedRule name)⟩
    | some rule => rule.run (rules.call depth) s

/-- Runs a rule when at most `limit` references may be open at once. -/
def run (rules : Rules V E) (limit : Nat) (rule : Rule V E) (s : State V) : Result V E :=
  rule.run (rules.call limit) s

/-- The same rules without everything that builds. -/
def bare (rules : Rules V E) : Rules V E := ⟨fun name => (rules.find? name).map Rule.bare⟩

end Rules

/-! ## Whole texts -/

/-- Why a text gave no final state. -/
inductive MatchError (E : Type) where
  | rejected (rejection : Rejection)
  | nestingTooDeep (place : Place)
  | stopped (stop : Stop E)

/-- Runs a rule from the start of a text. It need not consume all of it. -/
def Rules.matchText (rules : Rules V E) (limit : Nat) (rule : Rule V E) (text : List Char)
    (source : Option String) : Except (MatchError E) (State V) :=
  let r := rules.run limit rule (State.initial text)
  match r.outcome with
  | .matched => .ok r.state
  | .failed => .error (.rejected (r.state.rejection text source))
  | .stopped .nestingTooDeep => .error (.nestingTooDeep (.ofOffset text r.state.pos source))
  | .stopped stop => .error (.stopped stop)

end ThriftSchema
