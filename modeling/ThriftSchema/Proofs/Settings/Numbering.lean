import ThriftSchema.Schema.Basic

set_option autoImplicit false

/-! # Counting on

The values of an enumeration are numbered by a counter that starts over at each number in the
text. So the number that a value gets is known from the last number before it and from how far
away that is; there is no need to go through the values in between.

* `lastNumber?`: the last number in some values and its index.
* `nextNumber`: the number that comes after some values.
* `countOn_eq_numberedValues`: the numbers that are counted on, each by itself.
-/

namespace ThriftSchema

/-- The last number in some values, behind its index. -/
def lastNumber? : List EnumValue → Option (Nat × Int)
  | [] => none
  | v :: vs =>
    match lastNumber? vs with
    | some (index, number) => some (index + 1, number)
    | none => v.value.map fun number => (0, number)

/-- The number that comes after some values: as many more than the last number as there are values
from there on, or as many as there are values at all. -/
def nextNumber (values : List EnumValue) : Int :=
  match lastNumber? values with
  | some (index, number) => number + (values.length - index)
  | none => values.length

/-- A value with a number that was counted, unless it has one. -/
def EnumValue.numbered (v : EnumValue) (number : Int) : EnumValue :=
  match v.value with
  | some _ => v
  | none => ⟨v.name, some number, true⟩

/-- Some values with numbers, each of them the one that comes after the values before. -/
def numberedValues (values : List EnumValue) : List EnumValue :=
  values.mapIdx fun index v => v.numbered (nextNumber (values.take index))

/-! ## The last number -/

theorem lastNumber?_concat (before : List EnumValue) (v : EnumValue) :
    lastNumber? (before ++ [v]) =
      match v.value with
      | some number => some (before.length, number)
      | none => lastNumber? before := by
  induction before with
  | nil => cases h : v.value <;> simp [lastNumber?, h]
  | cons first before ih =>
      rw [List.cons_append, lastNumber?, ih, lastNumber?]
      cases v.value <;> simp

/-- One value more: the counter starts over at its number, or goes on. -/
theorem nextNumber_concat (before : List EnumValue) (v : EnumValue) :
    nextNumber (before ++ [v]) =
      match v.value with
      | some number => number + 1
      | none => nextNumber before + 1 := by
  rw [nextNumber, lastNumber?_concat, List.length_append, List.length_singleton, nextNumber]
  cases v.value with
  | some number =>
      show number + (((before.length + 1 : Nat) : Int) - before.length) = number + 1
      omega
  | none =>
      cases lastNumber? before with
      | none => exact Int.natCast_add before.length 1
      | some found =>
          show found.2 + (((before.length + 1 : Nat) : Int) - found.1) =
            found.2 + ((before.length : Int) - found.1) + 1
          omega

/-! ## Counting -/

/-- Counting on behind some values. -/
theorem countOn_nextNumber (before values : List EnumValue) :
    countOn (nextNumber before) values =
      values.mapIdx fun index v => v.numbered (nextNumber (before ++ values.take index)) := by
  induction values generalizing before with
  | nil => rfl
  | cons v vs ih =>
      have hrest := ih (before ++ [v])
      simp only [List.append_assoc, List.singleton_append, nextNumber_concat] at hrest
      rw [List.mapIdx_cons, countOn, List.take_zero, List.append_nil, EnumValue.numbered]
      cases hvalue : v.value with
      | some number =>
          rw [hvalue] at hrest
          exact congrArg (v :: ·) hrest
      | none =>
          rw [hvalue] at hrest
          exact congrArg (_ :: ·) hrest

/-- Counting on gives each value the number that comes after the values before it. -/
theorem countOn_eq_numberedValues (values : List EnumValue) :
    countOn 0 values = numberedValues values :=
  countOn_nextNumber [] values

end ThriftSchema
