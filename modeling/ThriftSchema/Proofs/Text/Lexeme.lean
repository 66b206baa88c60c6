import Mathlib.Data.Nat.Digits.Defs
import ThriftSchema.Number.Double
import ThriftSchema.Rule.Pattern

set_option autoImplicit false

/-! # Lexemes

The words of the interface language as classes of texts, said without the functions that measure
them: names, quoted texts, decimal and hexadecimal integers with the numbers they denote, and
decimals. What a pattern measures at the head of a text is a lexeme of its class, and a lexeme
is measured whole where the text behind it cannot prolong it.
-/

namespace ThriftSchema

/-! ## Runs of characters -/

theorem isLower_iff_toNat {c : Char} : c.isLower = true ↔ 97 ≤ c.toNat ∧ c.toNat ≤ 122 :=
  Bool.and_eq_true_iff.trans (and_congr decide_eq_true_iff decide_eq_true_iff)

theorem isAlpha_iff_toNat {c : Char} :
    c.isAlpha = true ↔ 65 ≤ c.toNat ∧ c.toNat ≤ 90 ∨ 97 ≤ c.toNat ∧ c.toNat ≤ 122 := by
  have hupper : c.isUpper = true ↔ 65 ≤ c.toNat ∧ c.toNat ≤ 90 := decide_eq_true_iff
  rw [← hupper, ← isLower_iff_toNat]
  exact Bool.or_eq_true_iff

/-- What holds of all characters of a text is decided by going through the text, not through all
characters that there are. -/
instance (priority := high) decidableForallMem {P : Char → Prop} [DecidablePred P]
    (cs : List Char) : Decidable (∀ c ∈ cs, P c) := List.decidableBAll P cs

/-- No character of the class comes next. -/
def NotAhead (p : Char → Bool) (cs : List Char) : Prop := ∀ c ∈ cs.head?, p c = false

@[simp] theorem notAhead_nil (p : Char → Bool) : NotAhead p [] := by
  intro c hc
  simp at hc

@[simp] theorem notAhead_cons {p : Char → Bool} {c : Char} {cs : List Char} :
    NotAhead p (c :: cs) ↔ p c = false := by
  simp [NotAhead]

/-- A class that is part of another is not ahead where the other is not. -/
theorem NotAhead.mono {p q : Char → Bool} {cs : List Char} (h : NotAhead q cs)
    (hpq : ∀ c, p c = true → q c = true) : NotAhead p cs := by
  intro c hc
  by_contra hp
  have hq := hpq c (by simpa using hp)
  rw [h c hc] at hq
  exact Bool.false_ne_true hq

theorem notAhead_dropWhile (p : Char → Bool) (cs : List Char) :
    NotAhead p (cs.dropWhile p) := by
  intro c hc
  have h := List.head?_dropWhile_not p cs
  rw [Option.mem_def] at hc
  rw [hc] at h
  simpa using h

theorem takeWhile_append_of_notAhead {p : Char → Bool} {run rest : List Char}
    (h : ∀ c ∈ run, p c = true) (hr : NotAhead p rest) : (run ++ rest).takeWhile p = run := by
  rw [List.takeWhile_append_of_pos h]
  cases rest with
  | nil => simp
  | cons c cs => simp [notAhead_cons.1 hr]

theorem dropWhile_append_of_notAhead {p : Char → Bool} {run rest : List Char}
    (h : ∀ c ∈ run, p c = true) (hr : NotAhead p rest) : (run ++ rest).dropWhile p = rest := by
  rw [List.dropWhile_append_of_pos h]
  cases rest with
  | nil => simp
  | cons c cs => simp [notAhead_cons.1 hr]

/-- A text is cut in one place behind characters of a class and in front of others. -/
theorem append_inj_of_notAhead {p : Char → Bool} {run run' rest rest' : List Char}
    (h : ∀ c ∈ run, p c = true) (h' : ∀ c ∈ run', p c = true) (hr : NotAhead p rest)
    (hr' : NotAhead p rest') (heq : run ++ rest = run' ++ rest') : run = run' ∧ rest = rest' := by
  refine ⟨?_, ?_⟩
  · rw [← takeWhile_append_of_notAhead h hr, heq, takeWhile_append_of_notAhead h' hr']
  · rw [← dropWhile_append_of_notAhead h hr, heq, dropWhile_append_of_notAhead h' hr']

/-- A text that is not empty and of one class. -/
def IsRun (p : Char → Bool) (cs : List Char) : Prop := cs ≠ [] ∧ ∀ c ∈ cs, p c = true

namespace Pattern

theorem spanLength_append {p : Char → Bool} {run rest : List Char}
    (h : ∀ c ∈ run, p c = true) (hr : NotAhead p rest) :
    spanLength p (run ++ rest) = run.length := by
  rw [spanLength, takeWhile_append_of_notAhead h hr]

theorem spanLength_of_notAhead {p : Char → Bool} {cs : List Char} (h : NotAhead p cs) :
    spanLength p cs = 0 := by
  cases cs with
  | nil => rfl
  | cons c cs => simp [spanLength, notAhead_cons.1 h]

/-- A text is a run of a class and what the class does not go on with. -/
theorem exists_span (p : Char → Bool) (cs : List Char) :
    ∃ run rest, cs = run ++ rest ∧ (∀ c ∈ run, p c = true) ∧ NotAhead p rest :=
  ⟨cs.takeWhile p, cs.dropWhile p, List.takeWhile_append_dropWhile.symm,
    List.all_eq_true.1 List.all_takeWhile, notAhead_dropWhile p cs⟩

theorem someLength_append {p : Char → Bool} {run rest : List Char} (h : IsRun p run)
    (hr : NotAhead p rest) : someLength p (run ++ rest) = some run.length := by
  rw [someLength, spanLength_append h.2 hr]
  obtain ⟨n, hn⟩ := Nat.exists_eq_succ_of_ne_zero (mt List.length_eq_zero_iff.1 h.1)
  rw [hn]

theorem someLength_eq_some {p : Char → Bool} {cs : List Char} {n : Nat}
    (h : someLength p cs = some n) :
    ∃ run rest, cs = run ++ rest ∧ run.length = n ∧ IsRun p run ∧ NotAhead p rest := by
  obtain ⟨run, rest, rfl, hrun, hrest⟩ := exists_span p cs
  rw [someLength, spanLength_append hrun hrest] at h
  cases run with
  | nil => simp at h
  | cons c run => exact ⟨c :: run, rest, rfl, by simpa using h, ⟨by simp, hrun⟩, hrest⟩

end Pattern

/-! ## Names and quoted texts -/

/-- One character of a class, and then only characters of another. -/
def IsWord (p q : Char → Bool) : List Char → Prop
  | [] => False
  | c :: cs => p c = true ∧ ∀ d ∈ cs, q d = true

instance {p q : Char → Bool} : ∀ cs, Decidable (IsWord p q cs)
  | [] => inferInstanceAs (Decidable False)
  | _ :: _ => inferInstanceAs (Decidable (_ ∧ _))

/-- A letter or underscore, then letters, digits, underscores and points. -/
abbrev IsName : List Char → Prop := IsWord Pattern.isNameStart Pattern.isNameChar

/-- A name that may also hold dashes. -/
abbrev IsDashedName : List Char → Prop := IsWord Pattern.isNameStart Pattern.isDashedNameChar

/-- The two quotes. -/
def IsQuote (c : Char) : Prop := c = '\x22' ∨ c = '\x27'

instance (c : Char) : Decidable (IsQuote c) := inferInstanceAs (Decidable (_ ∨ _))

/-- A text between two equal quotes that do not occur in it. -/
inductive IsQuoted : List Char → List Char → Prop
  | intro {mark : Char} {content : List Char} (quote : IsQuote mark) (absent : mark ∉ content) :
      IsQuoted (mark :: (content ++ [mark])) content

namespace Pattern

theorem wordLength_append {p q : Char → Bool} {word rest : List Char} (h : IsWord p q word)
    (hr : NotAhead q rest) : wordLength p q (word ++ rest) = some word.length := by
  cases word with
  | nil => exact h.elim
  | cons c cs =>
      rw [List.cons_append, wordLength, if_pos h.1, spanLength_append h.2 hr, List.length_cons,
        Nat.add_comm]

theorem wordLength_eq_some {p q : Char → Bool} {cs : List Char} {n : Nat}
    (h : wordLength p q cs = some n) :
    ∃ word rest, cs = word ++ rest ∧ word.length = n ∧ IsWord p q word ∧ NotAhead q rest := by
  cases cs with
  | nil => simp [wordLength] at h
  | cons c cs =>
      rw [wordLength] at h
      split at h
      · next hc =>
        obtain ⟨run, rest, rfl, hrun, hrest⟩ := exists_span q cs
        rw [spanLength_append hrun hrest, Option.some.injEq] at h
        exact ⟨c :: run, rest, rfl, by rw [List.length_cons]; omega, ⟨hc, hrun⟩, hrest⟩
      · simp at h

theorem quotedLength_append {cs content rest : List Char} (h : IsQuoted cs content) :
    quotedLength (cs ++ rest) = some cs.length := by
  cases h with
  | @intro mark content quote absent =>
    have hspan : spanLength (· != mark) (content ++ mark :: rest) = content.length := by
      refine spanLength_append (fun c hc => ?_) (by simp)
      simpa using fun heq : c = mark => absent (heq ▸ hc)
    have hmark : (mark == '\x22' || mark == '\x27') = true := by simpa [IsQuote] using quote
    simp [quotedLength, hmark, hspan]

theorem quotedLength_eq_some {cs : List Char} {n : Nat} (h : quotedLength cs = some n) :
    ∃ quoted rest content, cs = quoted ++ rest ∧ quoted.length = n ∧
      IsQuoted quoted content := by
  cases cs with
  | nil => simp [quotedLength] at h
  | cons mark cs =>
      rw [quotedLength] at h
      split at h
      · next hmark =>
        obtain ⟨content, rest, rfl, hcontent, hrest⟩ := exists_span (· != mark) cs
        rw [spanLength_append hcontent hrest] at h
        simp only [List.drop_left] at h
        cases rest with
        | nil => simp at h
        | cons c rest =>
            obtain rfl : c = mark := by simpa using hrest
            refine ⟨c :: (content ++ [c]), rest, content, by simp, by simpa using h, ?_⟩
            refine .intro (by simpa [IsQuote] using hmark) fun hc => ?_
            simpa using hcontent c hc
      · simp at h

end Pattern

end ThriftSchema
