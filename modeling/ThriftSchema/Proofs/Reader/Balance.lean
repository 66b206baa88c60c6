import ThriftSchema.Proofs.Reader.Lockstep

set_option autoImplicit false

/-! # Brackets of a document

Every bracket that a production opens it closes as well. So in a text that is read as a document
the brackets, of whatever kind, close one another, and so do the quotes; at a place of the text it
is known how many brackets have to close behind it.

* `SamePlace`: a place of a text, by the number of brackets that are open.
* `climbs_of_document`: a document leaves nothing open.
-/

namespace ThriftSchema

open Reader (skipLayout)

/-! ## Documents -/

theorem climbs_of_layout {blanks : List Char} (h : ∀ c ∈ blanks, Pattern.isLayout c = true)
    (n : Nat) : Climbs n blanks n := .unmarked fun c hc => isUnmarked_of_isLayout (h c hc)

/-- A text and itself, at a place of `start` where so many brackets are open. -/
def SamePlace (start : List Char) : Levels := fun n x y =>
  x = y ∧ ∃ taken, start = taken ++ x ∧ Climbs 0 taken n

theorem SamePlace.skipLayout {start x : List Char} {n : Nat} (taken : List Char)
    (h : start = taken ++ x) (hclimbs : Climbs 0 taken n) :
    SamePlace start n (skipLayout x) (skipLayout x) := by
  obtain ⟨blanks, hx, hblanks⟩ := Reader.exists_layout x
  refine ⟨rfl, taken ++ blanks, ?_, hclimbs.append (climbs_of_layout hblanks n)⟩
  rw [List.append_assoc, ← hx, h]

theorem steps_samePlace (start : List Char) {t : Terminal} (ht : t.fits = true) :
    Steps (SamePlace start) t := by
  rintro n hcloses x _ ⟨rfl, taken, rfl, htaken⟩
  refine ⟨rfl, fun count hcount => ⟨rfl, .skipLayout (taken ++ x.take count) ?_ ?_⟩⟩
  · rw [List.append_assoc, List.take_append_drop]
  · exact htaken.append (Terminal.climbs ht hcount hcloses)

/-- A text that is read as a document leaves nothing open. -/
theorem climbs_of_document {options : BuildOptions} {depth : Nat} {cs : List Char} {d : Document}
    (h : Reader.document options depth cs = .read d []) : Climbs 0 cs 0 := by
  have hstart : SamePlace cs 0 (skipLayout cs) (skipLayout cs) :=
    .skipLayout [] rfl (Climbs.nil_iff.2 rfl)
  have halike := Alongside.document (R := SamePlace cs) (fun _ ht _ => steps_samePlace cs ht)
    (fun _ ht _ => steps_samePlace cs ht) (fun hsame => by rw [hsame.1]) options depth hstart
  rw [h] at halike
  cases halike with
  | read hend =>
      obtain ⟨-, taken, htaken, hclimbs⟩ := hend
      rwa [htaken, List.append_nil]

end ThriftSchema
