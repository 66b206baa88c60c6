import ThriftSchema.Bindings

set_option autoImplicit false

/-! # The state of a match

A match moves a cursor over a text, pushes values on a stack and keeps named values in the
frame of the production it is in. These three are undone when an alternative is abandoned:
together they are the `Mark`. What is learnt about failures is kept: the furthest offset that
a rule failed at, and what was expected there.

* `Cursor`, `Frame`, `Mark`, `State`: the parts.
* `State.mark`, `State.reset`: taking a mark and going back to it.
* `State.failAt`: notes a failure, unless the state is quiet.
-/

namespace ThriftSchema

/-! ## The parts -/

/-- An offset and the text that is still ahead of it. -/
structure Cursor where
  pos : Nat
  rest : List Char
deriving DecidableEq

/-- The cursor at an offset of a text. -/
def Cursor.at (text : List Char) (pos : Nat) : Cursor := ⟨pos, text.drop pos⟩

/-- The cursor that many characters further. -/
def Cursor.advance (c : Cursor) (count : Nat) : Cursor := ⟨c.pos + count, c.rest.drop count⟩

/-- The characters between a cursor and a later one. -/
def Cursor.textTo (first last : Cursor) : List Char := first.rest.take (last.pos - first.pos)

/-- The values that the production in progress has captured, by their slots. -/
abbrev Frame (V : Type) := Bindings V

/-- What an abandoned alternative leaves no trace in: cursor, stack (top first) and frame. -/
structure Mark (V : Type) where
  cursor : Cursor
  stack : List V
  frame : Frame V

/-- Everything that changes while one text is matched. -/
structure State (V : Type) extends Mark V where
  /-- The furthest offset at which a rule failed. -/
  furthest : Nat
  /-- What rules expected there, each label once. -/
  expected : List String
  /-- How many enclosing rules keep the failures inside them to themselves. -/
  quiet : Nat
  /-- The marks seen by probes, the latest first. -/
  trace : List (Mark V)

namespace State

variable {V : Type}

/-- The state before a text is matched. -/
def initial (text : List Char) : State V :=
  ⟨⟨Cursor.at text 0, [], []⟩, 0, [], 0, []⟩

/-- The offset of the cursor. -/
def pos (s : State V) : Nat := s.cursor.pos

/-- The part that `reset` goes back to. -/
def mark (s : State V) : Mark V := s.toMark

/-- Goes back to a mark, keeping what was learnt about failures. -/
def reset (s : State V) (m : Mark V) : State V := { s with toMark := m }

/-- Moves the cursor over the next characters. -/
def advance (s : State V) (count : Nat) : State V :=
  { s with cursor := s.cursor.advance count }

/-- Pushes a value. -/
def push (s : State V) (value : V) : State V := { s with stack := value :: s.stack }

/-- Stores a value in the frame. -/
def capture (s : State V) (slot : String) (value : V) : State V :=
  { s with frame := s.frame.set slot value }

/-- Notes the present mark in the trace. -/
def observe (s : State V) : State V := { s with trace := s.mark :: s.trace }

/-! ## Failures -/

/-- Opens a quiet part. -/
def hush (s : State V) : State V := { s with quiet := s.quiet + 1 }

/-- Closes a quiet part. -/
def unhush (s : State V) : State V := { s with quiet := s.quiet - 1 }

/-- Notes that `label` was expected at an offset: a further offset replaces what is known, the
same adds to it, a nearer one changes nothing, and nothing changes in a quiet part. -/
def failAt (s : State V) (label : String) (pos : Nat) : State V :=
  if s.quiet ≠ 0 then s
  else if s.furthest < pos then { s with furthest := pos, expected := [label] }
  else if pos = s.furthest then { s with expected := s.expected.insert label }
  else s

/-- Noting a failure moves nothing. -/
theorem toMark_failAt (s : State V) (label : String) (pos : Nat) :
    (s.failAt label pos).toMark = s.toMark := by
  unfold failAt
  split
  · rfl
  · split
    · rfl
    · split <;> rfl

/-- Notes a failure at an offset given from outside; a negative one is before every offset
that was reached. -/
def failAtOffset (s : State V) (label : String) : Int → State V
  | .ofNat pos => s.failAt label pos
  | .negSucc _ => s

end State

end ThriftSchema
