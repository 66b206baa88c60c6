set_option autoImplicit false

/-! # Splitting a text at a mark

* `splitChars`: the parts between the occurrences of a mark, one more than there are marks.
* `split`: the same for texts.
* `unifyNewlines`: a text in which every line ends in a newline alone.
-/

namespace ThriftSchema.Text

/-- The parts of a list of characters between the occurrences of a mark. -/
def splitChars (mark : Char) : List Char → List (List Char)
  | [] => [[]]
  | c :: cs =>
    if c = mark then [] :: splitChars mark cs
    else
      match splitChars mark cs with
      | [] => [[c]]
      | part :: parts => (c :: part) :: parts

/-- The parts of a text between the occurrences of a mark. -/
def split (mark : Char) (text : String) : List String :=
  (splitChars mark text.toList).map String.ofList

/-- The lines of a text, without their newlines. -/
def splitLines (text : String) : List String := split '\n' text

/-- Characters in which a return, with a newline behind it or without, is a newline. -/
def unifyNewlines : List Char → List Char
  | '\r' :: '\n' :: cs => '\n' :: unifyNewlines cs
  | '\r' :: cs => '\n' :: unifyNewlines cs
  | c :: cs => c :: unifyNewlines cs
  | [] => []

/-- No part holds the mark. -/
theorem mark_notMem_of_mem_splitChars {mark : Char} {cs part : List Char}
    (h : part ∈ splitChars mark cs) : mark ∉ part := by
  induction cs generalizing part with
  | nil => simp_all [splitChars]
  | cons c cs ih =>
    rw [splitChars] at h
    split at h
    · rcases List.mem_cons.1 h with rfl | h
      · simp
      · exact ih h
    · next hc =>
      split at h
      · simp only [List.mem_cons, List.not_mem_nil, or_false] at h
        subst h
        simpa using fun e => hc e.symm
      · next part' parts heq =>
        rw [heq] at ih
        rcases List.mem_cons.1 h with rfl | h
        · have := ih (List.mem_cons_self ..)
          simp only [List.mem_cons, not_or]
          exact ⟨fun e => hc e.symm, this⟩
        · exact ih (List.mem_cons_of_mem _ h)

end ThriftSchema.Text
