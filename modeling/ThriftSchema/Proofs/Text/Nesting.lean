import ThriftSchema.Proofs.Text.Spelled

set_option autoImplicit false

/-! # How deep a text nests

Lists, maps, blocks and arguments stand between brackets, and so do the parts of a container
type. The nesting of a text is by how many, at most, the brackets that open outnumber those that
close in front of one of its places; what stands between quotes does not count.

* `nesting`: the nesting of a text.
* `nesting_opening`, `nesting_closing`: brackets.
* `nesting_append`, `nesting_quoted`: what makes no difference.
-/

namespace ThriftSchema

/-! ## Marks -/

/-- The brackets that open. -/
def openings : List Char := ['<', '[', '\x7b', '(']

/-- The brackets that close. -/
def closings : List Char := ['>', ']', '\x7d', ')']

/-- The quotes. -/
def quotes : List Char := ['\x22', '\x27']

/-- By how many, at most, the brackets of a text that open outnumber those that close in front of
one of its places; `quote` is the quote that the start stands behind, if it does. -/
def nestingFrom : Option Char → List Char → Nat
  | _, [] => 0
  | some quote, c :: cs => nestingFrom (if c = quote then none else some quote) cs
  | none, c :: cs =>
    if c ∈ quotes then nestingFrom (some c) cs
    else if c ∈ openings then nestingFrom none cs + 1
    else if c ∈ closings then nestingFrom none cs - 1
    else nestingFrom none cs

/-- How deep the brackets of a text nest. -/
def nesting (cs : List Char) : Nat := nestingFrom none cs

/-- A character that is neither a bracket nor a quote. -/
def IsUnmarked (c : Char) : Prop := c ∉ quotes ++ openings ++ closings

instance (c : Char) : Decidable (IsUnmarked c) := inferInstanceAs (Decidable (¬_))

/-- A class without marks. -/
theorem isUnmarked_of_class {C : Char → Bool} {c : Char}
    (hC : ∀ d ∈ quotes ++ openings ++ closings, C d = false) (hc : C c = true) : IsUnmarked c := by
  intro hmark
  rw [hC c hmark] at hc
  exact Bool.false_ne_true hc

theorem isUnmarked_of_isSpelled {c : Char} (h : isSpelled c = true) : IsUnmarked c :=
  isUnmarked_of_class (by decide) h

theorem isUnmarked_of_isLayout {c : Char} (h : Pattern.isLayout c = true) : IsUnmarked c :=
  isUnmarked_of_class (by decide) h

/-! ## The nesting behind a part -/

variable {rest : List Char}

theorem nesting_unmarked {c : Char} (h : IsUnmarked c) : nesting (c :: rest) = nesting rest := by
  simp only [IsUnmarked, List.mem_append, not_or] at h
  rw [nesting, nestingFrom, if_neg h.1.1, if_neg h.1.2, if_neg h.2, nesting]

theorem nesting_append {cs : List Char} (h : ∀ c ∈ cs, IsUnmarked c) :
    nesting (cs ++ rest) = nesting rest := by
  induction cs with
  | nil => rfl
  | cons c cs ih =>
      rw [List.cons_append, nesting_unmarked (h c (List.mem_cons_self ..)),
        ih fun d hd => h d (List.mem_cons_of_mem _ hd)]

theorem nesting_opening {c : Char} (h : c ∈ openings) :
    nesting (c :: rest) = nesting rest + 1 := by
  have hquote : ∀ c ∈ openings, c ∉ quotes := by decide
  rw [nesting, nestingFrom, if_neg (hquote c h), if_pos h, nesting]

theorem nesting_closing {c : Char} (h : c ∈ closings) :
    nesting (c :: rest) = nesting rest - 1 := by
  have hquote : ∀ c ∈ closings, c ∉ quotes ∧ c ∉ openings := by decide
  rw [nesting, nestingFrom, if_neg (hquote c h).1, if_neg (hquote c h).2, if_pos h, nesting]

/-- Behind a quote nothing counts up to the next one. -/
theorem nestingFrom_content {quote : Char} {content : List Char} (absent : quote ∉ content) :
    nestingFrom (some quote) (content ++ quote :: rest) = nesting rest := by
  induction content with
  | nil => rw [List.nil_append, nestingFrom, if_pos rfl, nesting]
  | cons c content ih =>
      simp only [List.mem_cons, not_or] at absent
      rw [List.cons_append, nestingFrom, if_neg (Ne.symm absent.1), ih absent.2]

theorem nesting_quoted {cs content : List Char} (h : IsQuoted cs content) :
    nesting (cs ++ rest) = nesting rest := by
  cases h with
  | @intro quote content hquote absent =>
      have hmem : quote ∈ quotes := by simpa [quotes, IsQuote] using hquote
      rw [List.cons_append, List.append_assoc, List.singleton_append, nesting, nestingFrom,
        if_pos hmem, nestingFrom_content absent]

end ThriftSchema
