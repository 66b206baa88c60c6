import Mathlib.Data.List.Basic
import ThriftSchema.Proofs.Number.Spelling
import ThriftSchema.Proofs.Text.Spelled
import ThriftSchema.Text.Quoted

set_option autoImplicit false

/-! # Quoted texts can be told apart

Between its quotes a text is shown character by character, and where one character ends can be
told: it stands for itself, or a backslash is followed by a mark for one character, or by a mark
for a number of hexadecimal digits. So a text can be told from its quoted form.

* `Shown`: a character as it is shown.
* `quote_injective`: telling texts by their quoted forms.
* `quote_of_inert`: a text of characters that stand for themselves.
-/

namespace ThriftSchema.Text

/-! ## Hexadecimal digits -/

theorem hexDigit_inj {n m : Nat} (hn : n < 16) (hm : m < 16) (h : hexDigit n = hexDigit m) :
    n = m := by
  have hall : ∀ a b : Fin 16, hexDigit a = hexDigit b → a = b := by decide
  exact congrArg Fin.val (hall ⟨n, hn⟩ ⟨m, hm⟩ h)

theorem length_hexDigits (width n : Nat) : (hexDigits width n).length = width := by
  induction width generalizing n with
  | zero => rfl
  | succ width ih => rw [hexDigits, List.length_append, ih, List.length_singleton]

/-- A number is told by as many digits as it has at most. -/
theorem hexDigits_inj {width n m : Nat} (hn : n < 16 ^ width) (hm : m < 16 ^ width)
    (h : hexDigits width n = hexDigits width m) : n = m := by
  induction width generalizing n m with
  | zero => omega
  | succ width ih =>
      rw [Nat.pow_succ] at hn hm
      obtain ⟨hfront, hlast⟩ := List.append_inj' h rfl
      have hhigh := ih (by omega) (by omega) hfront
      have hlow := hexDigit_inj (by omega) (by omega) (List.singleton_inj.1 hlast)
      omega

/-! ## Characters -/

/-- The characters that are shown by a mark behind a backslash, each with its mark. -/
def namedEscapes (mark : Char) : List (Char × Char) :=
  [('\\', '\\'), (mark, mark), ('n', '\n'), ('r', '\r'), ('t', '\t')]

/-- The marks of escapes by number, each with how many digits follow. -/
def numberedEscapes : List (Char × Nat) := [('x', 2), ('u', 4), ('U', 8)]

/-- A character as it is shown between the quotes `mark`: by itself, by a mark of its own, or by
its number. -/
inductive Shown (mark c : Char) : List Char → Prop
  | plain (h : c ≠ '\\') : Shown mark c [c]
  | named {name : Char} (h : (name, c) ∈ namedEscapes mark) : Shown mark c ['\\', name]
  | numbered {name : Char} {width : Nat} (h : (name, width) ∈ numberedEscapes)
      (hwidth : c.toNat < 16 ^ width) : Shown mark c ('\\' :: name :: hexDigits width c.toNat)

theorem shown_quoteChar (mark c : Char) : Shown mark c (quoteChar mark c) := by
  unfold quoteChar
  split_ifs with hbackslash hmark hnewline hreturn htab hprintable
  · exact .named (by simp [namedEscapes, hbackslash])
  · exact .named (by simp [namedEscapes, hmark])
  · exact .named (by simp [namedEscapes, hnewline])
  · exact .named (by simp [namedEscapes, hreturn])
  · exact .named (by simp [namedEscapes, htab])
  · exact .plain hbackslash
  · unfold numberedEscape
    dsimp only
    split_ifs with hshort hlong
    · exact .numbered (by decide) hshort
    · exact .numbered (by decide) hlong
    · exact .numbered (by decide) c.val.toNat_lt

/-- Where a shown character stands in front of other text, it can be told. -/
theorem Shown.inj {mark c d : Char} {cs ds rest rest' : List Char}
    (hmark : mark = singleMark ∨ mark = doubleMark) (hc : Shown mark c cs) (hd : Shown mark d ds)
    (h : cs ++ rest = ds ++ rest') : c = d := by
  -- no name stands for two characters, nor for one and a number of digits
  have hnames : ∀ name c d, (name, c) ∈ namedEscapes mark → (name, d) ∈ namedEscapes mark →
      c = d := by
    rcases hmark with rfl | rfl <;> simp only [namedEscapes, singleMark, doubleMark] <;> grind
  have hapart : ∀ name c width, (name, c) ∈ namedEscapes mark →
      (name, width) ∉ numberedEscapes := by
    rcases hmark with rfl | rfl <;>
      simp only [namedEscapes, numberedEscapes, singleMark, doubleMark] <;> grind
  have hwidths : ∀ name width width', (name, width) ∈ numberedEscapes →
      (name, width') ∈ numberedEscapes → width = width' := by
    simp only [numberedEscapes]
    grind
  cases hc with
  | plain hne =>
      cases hd with
      | plain => exact (List.cons.inj h).1
      | named | numbered => exact absurd (List.cons.inj h).1 hne
  | named hname =>
      cases hd with
      | plain hne => exact absurd (List.cons.inj h).1.symm hne
      | named hname' =>
          obtain ⟨rfl, -⟩ := List.cons.inj (List.cons.inj h).2
          exact hnames _ _ _ hname hname'
      | numbered hnumber =>
          obtain ⟨rfl, -⟩ := List.cons.inj (List.cons.inj h).2
          exact absurd hnumber (hapart _ _ _ hname)
  | numbered hnumber hwidth =>
      cases hd with
      | plain hne => exact absurd (List.cons.inj h).1.symm hne
      | named hname =>
          obtain ⟨rfl, -⟩ := List.cons.inj (List.cons.inj h).2
          exact absurd hnumber (hapart _ _ _ hname)
      | numbered hnumber' hwidth' =>
          obtain ⟨rfl, hdigits⟩ := List.cons.inj (List.cons.inj h).2
          obtain rfl := hwidths _ _ _ hnumber hnumber'
          obtain ⟨hsame, -⟩ := List.append_inj hdigits (by simp only [length_hexDigits])
          exact Char.toNat_inj.1 (hexDigits_inj hwidth hwidth' hsame)

/-! ## Texts -/

theorem quoteMark_eq (cs : List Char) : quoteMark cs = singleMark ∨ quoteMark cs = doubleMark := by
  unfold quoteMark
  split_ifs
  · exact .inr rfl
  · exact .inl rfl

theorem Shown.ne_nil {mark c : Char} {cs : List Char} (h : Shown mark c cs) : cs ≠ [] := by
  cases h <;> exact List.cons_ne_nil _ _

theorem flatMap_quoteChar_inj {mark : Char} (hmark : mark = singleMark ∨ mark = doubleMark)
    {cs ds : List Char} (h : cs.flatMap (quoteChar mark) = ds.flatMap (quoteChar mark)) :
    cs = ds := by
  have hnone : ∀ c rest, quoteChar mark c ++ rest ≠ [] := fun c rest hnil =>
    (shown_quoteChar mark c).ne_nil (List.append_eq_nil_iff.1 hnil).1
  induction cs generalizing ds with
  | nil =>
      cases ds with
      | nil => rfl
      | cons d ds => exact absurd h.symm (hnone d _)
  | cons c cs ih =>
      cases ds with
      | nil => exact absurd h (hnone c _)
      | cons d ds =>
          rw [List.flatMap_cons, List.flatMap_cons] at h
          obtain rfl := (shown_quoteChar mark c).inj hmark (shown_quoteChar mark d) h
          rw [ih (List.append_cancel_left h)]

/-- Two texts can be told by their quoted forms. -/
theorem quote_injective : Function.Injective quote := by
  intro s t h
  have hchars : quoteChars s.toList = quoteChars t.toList := String.ofList_injective h
  obtain ⟨hmark, hrest⟩ := List.cons.inj hchars
  rw [← hmark] at hrest
  exact String.toList_inj.1
    (flatMap_quoteChar_inj (quoteMark_eq _) (List.append_cancel_right hrest))

theorem getLast?_quote (text : String) :
    (quote text).toList.getLast? = some (quoteMark text.toList) := by
  rw [quote, String.toList_ofList, quoteChars, List.getLast?_concat]

/-! ## Brackets -/

theorem bracket_notMem_hexDigits (width n : Nat) : '[' ∉ hexDigits width n := by
  have hall : ∀ a : Fin 16, '[' ≠ hexDigit a := by decide
  induction width generalizing n with
  | zero => exact List.not_mem_nil
  | succ width ih =>
      rw [hexDigits, List.mem_append, List.mem_singleton, not_or]
      exact ⟨ih _, hall ⟨n % 16, Nat.mod_lt _ (by decide)⟩⟩

theorem Shown.bracket_notMem {mark c : Char} {cs : List Char}
    (hmark : mark = singleMark ∨ mark = doubleMark) (hc : c ≠ '[') (h : Shown mark c cs) :
    '[' ∉ cs := by
  cases h with
  | plain => exact fun hmem => hc (List.mem_singleton.1 hmem).symm
  | named hname =>
      rcases hmark with rfl | rfl <;>
        simp only [namedEscapes, singleMark, doubleMark] at hname ⊢ <;> grind
  | numbered hnumber =>
      have hmark : ∀ name width, (name, width) ∈ numberedEscapes → '[' ≠ name := by
        simp only [numberedEscapes]
        grind
      simp only [List.mem_cons, not_or]
      exact ⟨by decide, hmark _ _ hnumber, bracket_notMem_hexDigits _ _⟩

/-- Between its quotes a text shows no bracket that it does not hold. -/
theorem bracket_notMem_quote {text : String} (h : '[' ∉ text.toList) :
    '[' ∉ (quote text).toList := by
  have hmark := quoteMark_eq text.toList
  have hquote : '[' ≠ quoteMark text.toList := by
    rcases hmark with hmark | hmark <;> rw [hmark] <;> decide
  rw [quote, String.toList_ofList, quoteChars, List.mem_append, List.mem_cons, List.mem_flatMap,
    List.mem_singleton]
  rintro ((heq | ⟨c, hc, hmem⟩) | heq)
  · exact hquote heq
  · exact (shown_quoteChar _ c).bracket_notMem hmark (fun heq => h (heq ▸ hc)) hmem
  · exact hquote heq

/-! ## Inert texts -/

/-- A character that stands for itself between quotes, and is no part of the markup of a label. -/
def isInertChar (c : Char) : Bool := isSpelled c || c == '*'

/-- A text of inert characters. -/
abbrev IsInert (text : String) : Prop := ∀ c ∈ text.toList, isInertChar c = true

theorem toNat_of_isInertChar {c : Char} (h : isInertChar c = true) : c.toNat < 128 := by
  simp only [isInertChar, isSpelled, Pattern.isDashedNameChar, Pattern.isNameChar, Char.isAlphanum,
    Bool.or_eq_true, beq_iff_eq, isAlpha_iff_toNat] at h
  rcases h with (((((hletter | hdigit) | rfl) | rfl) | rfl) | rfl) | rfl
  · omega
  · have := Number.toNat_of_isDigit hdigit
    omega
  all_goals decide

/-- Of an inert character, all that is decided for ASCII characters holds. -/
theorem inertChar_induction {P : Char → Prop}
    (h : ∀ n : Fin 128, isInertChar (Char.ofNat n) = true → P (Char.ofNat n)) {c : Char}
    (hc : isInertChar c = true) : P c := by
  have hof := h ⟨c.toNat, toNat_of_isInertChar hc⟩
  rw [Char.ofNat_toNat] at hof
  exact hof hc

theorem quoteChar_of_isInertChar {c : Char} (h : isInertChar c = true) :
    quoteChar singleMark c = [c] :=
  inertChar_induction (P := fun c => quoteChar singleMark c = [c]) (by decide +kernel) h

/-- An inert text is shown as it stands. -/
theorem quote_of_inert {text : String} (h : IsInert text) :
    (quote text).toList = singleMark :: text.toList ++ [singleMark] := by
  have hsingle : singleMark ∉ text.toList := fun hmem => absurd (h _ hmem) (by decide)
  have hmark : quoteMark text.toList = singleMark := by
    rw [quoteMark, if_neg]
    simp [hsingle]
  have hbody : ∀ cs : List Char, (∀ c ∈ cs, isInertChar c = true) →
      cs.flatMap (quoteChar singleMark) = cs := by
    intro cs hcs
    induction cs with
    | nil => rfl
    | cons c cs ih =>
        obtain ⟨hc, hcs⟩ := List.forall_mem_cons.1 hcs
        rw [List.flatMap_cons, quoteChar_of_isInertChar hc, ih hcs]
        rfl
  rw [quote, String.toList_ofList, quoteChars, hmark, hbody _ h]

end ThriftSchema.Text
