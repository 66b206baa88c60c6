import ThriftSchema.Rule.Basic

set_option autoImplicit false

/-! # Readers

A reader takes a value off the front of a text and leaves the rest, or fails, or breaks off. It
is what a production does to the text alone: there is no stack, no frame and no note of
failures, so that laws about texts can be proved by recursion on the text and on the value.

* `Attempt`: how reading ended.
* `Reader`: the readers, with one after the other as the monad and ordered choice as `<|>`.
* `Reader.optional`, `Reader.many`: nothing or one, and as many as there are.
-/

namespace ThriftSchema

variable {E α β : Type}

/-- How reading from a text ended: with a value and the text behind it, or without. -/
inductive Attempt (E α : Type) where
  | failed
  | stopped (stop : Stop E)
  | read (value : α) (rest : List Char)

/-- Reads a value off the front of a text. -/
def Reader (E α : Type) : Type := List Char → Attempt E α

namespace Attempt

/-- Goes on with what was read; the other endings stay. -/
def andThen : Attempt E α → (α → Reader E β) → Attempt E β
  | failed, _ => failed
  | stopped stop, _ => stopped stop
  | read a rest, next => next a rest

/-- Goes on after a failure; the other endings stay. -/
def orElse : Attempt E α → Attempt E α → Attempt E α
  | failed, other => other
  | stopped stop, _ => stopped stop
  | read a rest, _ => read a rest

theorem orElse_failed (r : Attempt E α) : r.orElse failed = r := by
  cases r <;> rfl

end Attempt

namespace Reader

/-! ## One after the other, one or the other -/

instance : Monad (Reader E) where
  pure a := fun input => .read a input
  bind p f := fun input => (p input).andThen f

instance : OrElse (Reader E α) where
  orElse p q := fun input => (p input).orElse (q () input)

/-- Reads nothing, from no text. -/
def fail : Reader E α := fun _ => .failed

/-- Breaks off. -/
def stop (why : Stop E) : Reader E α := fun _ => .stopped why

/-- Reads a value if there is one. -/
def optional (p : Reader E α) : Reader E (Option α) := fun input =>
  ((p input).andThen fun a rest => .read (some a) rest).orElse (.read none input)

/-- Reads values as long as there are some and each moves on; the list bounds the rounds. -/
def manyWithin (p : Reader E α) : List Char → Reader E (List α)
  | [], _ => .stopped .endless
  | _ :: bound, input =>
    ((p input).andThen fun a rest =>
      if rest.length = input.length then .read [a] rest
      else (manyWithin p bound rest).andThen fun as last => .read (a :: as) last).orElse
        (.read [] input)

/-- Reads as many values as there are. -/
def many (p : Reader E α) : Reader E (List α) := fun input =>
  manyWithin p (' ' :: ' ' :: input) input

/-! ## What a success is made of -/

@[simp] theorem pure_apply (a : α) (input : List Char) :
    (pure a : Reader E α) input = .read a input := rfl

theorem bind_apply (p : Reader E α) (f : α → Reader E β) (input : List Char) :
    (p >>= f) input = (p input).andThen f := rfl

theorem bind_pure (p : Reader E α) : (p >>= pure) = p := by
  funext input
  rw [bind_apply]
  cases p input <;> rfl

theorem bind_pure_unit (p : Reader E Unit) : (p >>= fun _ => pure ()) = p := bind_pure p

theorem orElse_apply (p q : Reader E α) (input : List Char) :
    (p <|> q) input = (p input).orElse (q input) := rfl

theorem bind_eq_read {p : Reader E α} {f : α → Reader E β} {input rest : List Char} {b : β} :
    (p >>= f) input = .read b rest ↔
      ∃ a middle, p input = .read a middle ∧ f a middle = .read b rest := by
  rw [bind_apply]
  cases p input with
  | failed => simp [Attempt.andThen]
  | stopped stop => simp [Attempt.andThen]
  | read a middle => simp [Attempt.andThen, and_assoc]

/-- A success of the first reader is followed by the second. -/
theorem bind_of_read {p : Reader E α} {f : α → Reader E β} {input middle : List Char} {a : α}
    (h : p input = .read a middle) : (p >>= f) input = f a middle := by
  rw [bind_apply, h, Attempt.andThen]

theorem bind_of_failed {p : Reader E α} {f : α → Reader E β} {input : List Char}
    (h : p input = .failed) : (p >>= f) input = .failed := by
  rw [bind_apply, h, Attempt.andThen]

theorem orElse_eq_read {p q : Reader E α} {input rest : List Char} {a : α} :
    (p <|> q) input = .read a rest ↔
      p input = .read a rest ∨ p input = .failed ∧ q input = .read a rest := by
  rw [orElse_apply]
  cases p input <;> simp [Attempt.orElse]

theorem orElse_of_failed {p q : Reader E α} {input : List Char} (h : p input = .failed) :
    (p <|> q) input = q input := by
  rw [orElse_apply, h, Attempt.orElse]

theorem orElse_of_read {p q : Reader E α} {input rest : List Char} {a : α}
    (h : p input = .read a rest) : (p <|> q) input = .read a rest :=
  orElse_eq_read.2 (.inl h)

theorem optional_eq_read {p : Reader E α} {input rest : List Char} {o : Option α} :
    optional p input = .read o rest ↔
      (∃ a, o = some a ∧ p input = .read a rest) ∨
        o = none ∧ p input = .failed ∧ input = rest := by
  rw [optional]
  cases p input with
  | failed => simp [Attempt.andThen, Attempt.orElse, eq_comm]
  | stopped stop => simp [Attempt.andThen, Attempt.orElse]
  | read a middle => cases o <;> simp [Attempt.andThen, Attempt.orElse, eq_comm]

theorem optional_of_failed {p : Reader E α} {input : List Char} (h : p input = .failed) :
    optional p input = .read none input :=
  optional_eq_read.2 (.inr ⟨rfl, h, rfl⟩)

theorem optional_of_read {p : Reader E α} {input rest : List Char} {a : α}
    (h : p input = .read a rest) : optional p input = .read (some a) rest :=
  optional_eq_read.2 (.inl ⟨a, rfl, h⟩)

/-! ## Breaking off -/

theorem bind_eq_stopped {p : Reader E α} {f : α → Reader E β} {input : List Char} {why : Stop E} :
    (p >>= f) input = .stopped why ↔
      p input = .stopped why ∨
        ∃ a middle, p input = .read a middle ∧ f a middle = .stopped why := by
  rw [bind_apply]
  cases p input with
  | failed => simp [Attempt.andThen]
  | stopped stop => simp [Attempt.andThen]
  | read a middle => simp [Attempt.andThen, and_assoc]

theorem orElse_eq_stopped {p q : Reader E α} {input : List Char} {why : Stop E} :
    (p <|> q) input = .stopped why ↔
      p input = .stopped why ∨ p input = .failed ∧ q input = .stopped why := by
  rw [orElse_apply]
  cases p input <;> simp [Attempt.orElse]

theorem optional_eq_stopped {p : Reader E α} {input : List Char} {why : Stop E} :
    optional p input = .stopped why ↔ p input = .stopped why := by
  rw [optional]
  cases p input <;> simp [Attempt.andThen, Attempt.orElse]

/-! ## Readers that never fail -/

theorem orElse_read_ne_failed (r : Attempt E α) (a : α) (rest : List Char) :
    r.orElse (.read a rest) ≠ .failed := by
  cases r <;> simp [Attempt.orElse]

theorem manyWithin_ne_failed (p : Reader E α) (bound input : List Char) :
    manyWithin p bound input ≠ .failed := by
  cases bound with
  | nil => simp [manyWithin]
  | cons c bound => exact orElse_read_ne_failed _ _ _

/-! ## Rounds of a repetition -/

/-- A round fails, or stalls, or moves on to the other rounds. -/
theorem manyWithin_eq_read {p : Reader E α} {c : Char} {bound input rest : List Char}
    {as : List α} :
    manyWithin p (c :: bound) input = .read as rest ↔
      p input = .failed ∧ as = [] ∧ input = rest ∨
      ∃ a middle, p input = .read a middle ∧
        (middle.length = input.length ∧ as = [a] ∧ middle = rest ∨
          middle.length ≠ input.length ∧
            ∃ bs, manyWithin p bound middle = .read bs rest ∧ as = a :: bs) := by
  rw [manyWithin]
  cases hread : p input with
  | failed => simp [Attempt.andThen, Attempt.orElse, eq_comm]
  | stopped stop => simp [Attempt.andThen, Attempt.orElse]
  | read a middle =>
      have hsame : ∀ {P : α → List Char → Prop},
          (∃ b m, Attempt.read (E := E) a middle = .read b m ∧ P b m) ↔ P a middle := by
        intro P
        constructor
        · rintro ⟨b, m, heq, h⟩
          cases heq
          exact h
        · intro h
          exact ⟨a, middle, rfl, h⟩
      rw [hsame]
      by_cases hstall : middle.length = input.length
      · simp [Attempt.andThen, Attempt.orElse, hstall, eq_comm]
      · cases hmore : manyWithin p bound middle with
        | failed => exact absurd hmore (manyWithin_ne_failed p bound middle)
        | stopped stop => simp [Attempt.andThen, Attempt.orElse, hstall, hmore]
        | read bs last =>
            simp only [Attempt.andThen, Attempt.orElse, if_neg hstall, hmore]
            constructor
            · intro h
              cases h
              exact .inr (.inr ⟨hstall, bs, rfl, rfl⟩)
            · rintro (⟨himp, _⟩ | ⟨h, _⟩ | ⟨-, bs', heq, has⟩)
              · cases himp
              · exact absurd h hstall
              · cases heq
                rw [has]

/-- A round breaks off, or one of those behind it. -/
theorem manyWithin_eq_stopped {p : Reader E α} {c : Char} {bound input : List Char}
    {why : Stop E} (h : manyWithin p (c :: bound) input = .stopped why) :
    p input = .stopped why ∨
      ∃ a middle, p input = .read a middle ∧ manyWithin p bound middle = .stopped why := by
  rw [manyWithin] at h
  cases hread : p input with
  | failed =>
      rw [hread] at h
      cases h
  | stopped stop =>
      rw [hread] at h
      cases h
      exact .inl rfl
  | read a middle =>
      rw [hread] at h
      simp only [Attempt.andThen] at h
      split at h
      · cases h
      · cases hmore : manyWithin p bound middle with
        | failed | read =>
            rw [hmore] at h
            cases h
        | stopped stop =>
            rw [hmore] at h
            cases h
            exact .inr ⟨a, middle, rfl, hmore⟩

end Reader

end ThriftSchema
