set_option autoImplicit false

/-! # Ranges of characters

* `isIn`: whether a character is in one of some ranges.
-/

namespace ThriftSchema.Text

/-- Whether a character is in one of some closed ranges of code points. -/
def isIn (ranges : List (Nat × Nat)) (c : Char) : Bool :=
  ranges.any fun range => range.1 ≤ c.toNat && c.toNat ≤ range.2

end ThriftSchema.Text
