set_option autoImplicit false

/-! # Bindings

Values by name, in the order in which the names were first bound. Binding a name again changes
its value and keeps its place.

* `Bindings.get?`, `Bindings.set`: looking up and binding.
-/

namespace ThriftSchema

/-- Named values, in the order in which the names were first bound. -/
abbrev Bindings (V : Type) := List (String × V)

namespace Bindings

variable {V : Type}

/-- The value of a name. -/
def get? (bindings : Bindings V) (name : String) : Option V := bindings.lookup name

/-- Binds a name to a value. -/
def set : Bindings V → String → V → Bindings V
  | [], name, value => [(name, value)]
  | (bound, held) :: bindings, name, value =>
    if bound = name then (name, value) :: bindings
    else (bound, held) :: set bindings name value

/-- Binds names one after the other. -/
def setAll (bindings : Bindings V) (pairs : List (String × V)) : Bindings V :=
  pairs.foldl (fun bindings pair => bindings.set pair.1 pair.2) bindings

/-- The bound names. -/
def names (bindings : Bindings V) : List String := bindings.map (·.1)

/-- A name has the value it was bound to last. -/
theorem get?_set (bindings : Bindings V) (name name' : String) (value : V) :
    (bindings.set name value).get? name' =
      if name' = name then some value else bindings.get? name' := by
  have miss {a b : String} (h : ¬a = b) : (a == b) = false := by simpa using h
  induction bindings with
  | nil =>
    by_cases h : name' = name
    · simp [set, get?, h]
    · simp [set, get?, List.lookup_nil, List.lookup_cons, h, miss h]
  | cons pair bindings ih =>
    obtain ⟨bound, held⟩ := pair
    simp only [get?] at ih
    by_cases hb : bound = name
    · subst hb
      by_cases h : name' = bound
      · simp [set, get?, h]
      · simp [set, get?, List.lookup_cons, h, miss h]
    · by_cases h : name' = bound
      · subst h
        simp [set, get?, hb]
      · simp [set, get?, List.lookup_cons, hb, miss h, ih]

end Bindings

end ThriftSchema
