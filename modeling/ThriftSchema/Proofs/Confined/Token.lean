import ThriftSchema.Proofs.Confined.Basic
import ThriftSchema.Proofs.Text.Local

set_option autoImplicit false

/-! # Tokens and the text behind

Marks, literals and numbers are taken from the text in front of a cut whatever is behind it, as
long as the cut is not in them. A word or a name is not so sure of itself, since it has to end
where no name goes on: so what is known in front of a word is that the whole of it is there
(`Begins`, `Named`), and what follows it is known as well (`Front`).
-/

namespace ThriftSchema

variable {α β : Type} {R S Q : Ahead}

/-! ## Layout -/

theorem skipLayout_of_append {x v r : List Char}
    (h : Reader.skipLayout (x ++ r) = v ++ r) : Reader.skipLayout x = v := by
  induction x with
  | nil =>
      have hlength : (v ++ r).length ≤ r.length := by
        rw [← h]
        exact (List.dropWhile_suffix _).length_le
      rw [List.length_append] at hlength
      obtain rfl : v = [] := List.length_eq_zero_iff.1 (by omega)
      rfl
  | cons c x ih =>
      cases hc : Pattern.isLayout c with
      | true =>
          rw [Reader.skipLayout, List.cons_append, List.dropWhile_cons_of_pos hc] at h
          rw [Reader.skipLayout, List.dropWhile_cons_of_pos hc]
          exact ih h
      | false =>
          rw [Reader.skipLayout, List.cons_append, List.dropWhile_cons_of_neg (by simp [hc])] at h
          rw [Reader.skipLayout, List.dropWhile_cons_of_neg (by simp [hc])]
          exact List.append_cancel_right h

namespace Ahead

/-- Behind the layout in front of the cut. -/
def spaced (Q : Ahead) : Ahead := fun m r => Q (Reader.skipLayout m) r

end Ahead

namespace Reader

variable {input : List Char}

theorem spaced_eq_failed {p : PartReader α} : spaced p input = .failed ↔ p input = .failed := by
  rw [spaced, bind_apply]
  cases p input <;> simp [Attempt.andThen, bind_apply, layout_eq]

theorem bind_eq_failed {p : PartReader α} {f : α → PartReader β} :
    (p >>= f) input = .failed ↔
      p input = .failed ∨ ∃ a middle, p input = .read a middle ∧ f a middle = .failed := by
  rw [bind_apply]
  cases p input with
  | failed => simp [Attempt.andThen]
  | stopped stop => simp [Attempt.andThen]
  | read a middle =>
      simp only [Attempt.andThen, reduceCtorEq, false_or, Attempt.read.injEq]
      constructor
      · exact fun h => ⟨a, middle, ⟨rfl, rfl⟩, h⟩
      · rintro ⟨_, _, ⟨rfl, rfl⟩, h⟩
        exact h

end Reader

/-! ## Failures -/

namespace FailsAlone

variable {p q : PartReader α} {f : α → PartReader β}

theorem spaced (h : FailsAlone p Q) : FailsAlone (Reader.spaced p) Q :=
  fun _ _ hv hfailed => Reader.spaced_eq_failed.2 (h hv (Reader.spaced_eq_failed.1 hfailed))

/-- What is done with a value does not fail. -/
theorem bind_of_ne_failed (h : FailsAlone p Q)
    (hf : ∀ {input a rest}, p input = .read a rest → f a rest ≠ .failed) :
    FailsAlone (p >>= f) Q := by
  intro v r hv hfailed
  rcases Reader.bind_eq_failed.1 hfailed with hp | ⟨a, middle, hread, hfailed⟩
  · exact Reader.bind_of_failed (h hv hp)
  · exact absurd hfailed (hf hread)

theorem map (h : FailsAlone p Q) (g : α → β) :
    FailsAlone (p >>= fun a => Pure.pure (g a)) Q :=
  h.bind_of_ne_failed fun _ hpure => by cases hpure

theorem orElse (hp : FailsAlone p Q) (hq : FailsAlone q Q) : FailsAlone (p <|> q) Q := by
  intro v r hv hfailed
  rw [Reader.orElse_apply] at hfailed
  cases hread : p (v ++ r) with
  | failed =>
      rw [hread, Attempt.orElse] at hfailed
      rw [Reader.orElse_of_failed (hp hv hread), hq hv hfailed]
  | stopped stop =>
      rw [hread] at hfailed
      cases hfailed
  | read a rest =>
      rw [hread] at hfailed
      cases hfailed

theorem fail : FailsAlone (Reader.fail : PartReader α) Q := fun _ _ _ _ => rfl

theorem measured {pattern : Pattern} (h : IsLocal pattern.measure) :
    FailsAlone (Reader.measured pattern) Q := by
  intro v r _ hfailed
  cases hmeasure : pattern.measure (v ++ r) with
  | none => rw [Reader.measured, h.none hmeasure]
  | some n =>
      rw [Reader.measured, hmeasure] at hfailed
      cases hfailed

theorem lexeme {pattern : Pattern} (h : IsLocal pattern.measure) :
    FailsAlone (Reader.lexeme pattern) Q := (measured h).spaced

end FailsAlone

namespace Confined

variable {p : PartReader α}

/-! ## Patterns and marks -/

theorem layout : Confined Q.spaced Reader.layout Q := by
  have hskip : ∀ {x v r : List Char} {u : Unit},
      Reader.layout (x ++ r) = .read u (v ++ r) → Reader.skipLayout x = v := by
    intro x v r u h
    rw [Reader.layout_eq, Attempt.read.injEq] at h
    exact skipLayout_of_append h.2
  refine ⟨fun {input rest u} h => ?_, fun _ h => ?_, fun {x v r u} hv h => ?_⟩
  · rw [Reader.layout_eq, Attempt.read.injEq] at h
    obtain ⟨blanks, hblanks, -⟩ := Reader.exists_layout input
    exact ⟨blanks, by rw [← h.2, ← hblanks]⟩
  · rw [Reader.layout_eq, hskip h]
  · rw [Ahead.spaced, hskip h]
    exact hv

theorem spaced (h : Confined R p Q.spaced) : Confined R (Reader.spaced p) Q :=
  h.bind fun a => layout.bind fun _ => pure a

theorem measured {pattern : Pattern} (h : IsLocal pattern.measure) (hfits : pattern.Fits) :
    Confined Ahead.always (Reader.measured pattern) Q where
  takes hread := ⟨_, (Reader.append_of_measured hfits hread).1⟩
  alone {x v r lexeme} _ hread := by
    obtain ⟨heq, hmeasure⟩ := Reader.append_of_measured hfits hread
    rw [← List.append_assoc] at heq
    obtain rfl := List.append_cancel_right heq
    exact Reader.measured_append (h.some hmeasure (by simp))
  opens _ _ := trivial

theorem lexeme {pattern : Pattern} (h : IsLocal pattern.measure) (hfits : pattern.Fits) :
    Confined Ahead.always (Reader.lexeme pattern) Q := spaced (measured h hfits)

theorem symbol (text : String) : Confined Ahead.always (Reader.symbol text) Q := by
  refine spaced ⟨fun hread => ⟨_, Reader.characters_eq_read.1 hread⟩, fun {x v r u} _ hread => ?_,
    fun _ _ => trivial⟩
  have heq := Reader.characters_eq_read.1 hread
  rw [← List.append_assoc] at heq
  exact Reader.characters_eq_read.2 (List.append_cancel_right heq)

/-- A mark of one character. -/
theorem mark {text : String} {C : Char → Bool} (h : text.toList.head?.any C = true) :
    Confined (Ahead.startsWith C) (Reader.symbol text) Q :=
  (symbol text).startsWith (StartsIn.symbol_of_head h)

theorem literal : Confined Ahead.always Reader.literal Q :=
  (lexeme Pattern.isLocal_quotedLength Pattern.fits_literal).map _

theorem dashedIdentifier : Confined Ahead.always Reader.dashedIdentifier Q :=
  (lexeme (Pattern.isLocal_wordLength ..) Pattern.fits_dashedIdentifier).map _

/-! ## Numbers -/

theorem decimalValue (cs : List Char) : Confined Q (Reader.decimalValue cs) Q := by
  rw [Reader.decimalValue]
  split
  · exact pure _
  · exact stop _
  · exact fail

theorem hexadecimalValue (cs : List Char) : Confined Q (Reader.hexadecimalValue cs) Q := by
  rw [Reader.hexadecimalValue]
  split
  · exact pure _
  · exact fail

theorem doubleValue (cs : List Char) : Confined Q (Reader.doubleValue cs) Q := by
  rw [Reader.doubleValue]
  split
  · exact pure _
  · exact fail

theorem integer : Confined Ahead.always Reader.integer Q :=
  (lexeme Pattern.isLocal_integerLength Pattern.fits_integer).bind decimalValue

theorem hexadecimal : Confined Ahead.always Reader.hexadecimal Q :=
  (lexeme Pattern.isLocal_hexadecimalLength Pattern.fits_hexadecimal).bind hexadecimalValue

theorem double : Confined Ahead.always Reader.double Q :=
  (lexeme Pattern.isLocal_decimalLength Pattern.fits_decimal).bind doubleValue

end Confined

namespace FailsAlone

/-- A lexeme is a number wherever it is measured as one. -/
theorem lexeme_bind {pattern : Pattern} {f : List Char → PartReader β}
    (h : IsLocal pattern.measure)
    (hf : ∀ {input text rest}, Reader.measured pattern input = .read text rest →
      ∀ rest', f text rest' ≠ .failed) : FailsAlone (Reader.lexeme pattern >>= f) Q := by
  refine (lexeme h).bind_of_ne_failed fun {input text rest} hread => ?_
  obtain ⟨middle, hmeasured, -⟩ := Reader.spaced_eq_read.1 hread
  exact hf hmeasured _

theorem integer : FailsAlone Reader.integer Q := by
  refine lexeme_bind Pattern.isLocal_integerLength fun h rest' => ?_
  obtain ⟨-, ⟨value, hvalue⟩, -⟩ := Reader.integer_measured.1 h
  cases hvalue with
  | intro hsign hdigits =>
      rw [Reader.decimalValue, Number.readDecimal_append hsign hdigits]
      split_ifs <;> simp [Reader.stop]

theorem hexadecimal : FailsAlone Reader.hexadecimal Q := by
  refine lexeme_bind Pattern.isLocal_hexadecimalLength fun h rest' => ?_
  obtain ⟨-, ⟨value, hvalue⟩, -⟩ := Reader.hexadecimal_measured.1 h
  rw [Reader.hexadecimalValue, Number.readHexadecimal_of_isHexadecimal hvalue]
  simp

theorem double : FailsAlone Reader.double Q := by
  refine lexeme_bind Pattern.isLocal_decimalLength fun h rest' => ?_
  obtain ⟨value, hvalue⟩ := Number.exists_read_of_isDecimal (Reader.decimal_measured h).2.1
  rw [Reader.doubleValue, hvalue]
  simp

theorem literal : FailsAlone Reader.literal Q := (lexeme Pattern.isLocal_quotedLength).map _

theorem identifier : FailsAlone Reader.identifier Q :=
  (lexeme (Pattern.isLocal_wordLength ..)).map _

end FailsAlone

/-! ## Words and names -/

/-- One of some words is in front of the cut, the text behind the word runs on into no name, and
`Q` holds behind it. -/
def Begins (words : List String) (Q : Ahead) : Ahead := fun m r =>
  ∃ text ∈ words, ∃ w, m = text.toList ++ w ∧ NotAhead Pattern.isNameChar (w ++ r) ∧ Q w r

/-- A name is in front of the cut, and the text behind it runs on into no name. -/
def Named : Ahead := fun m r =>
  ∃ name w, m = name ++ w ∧ IsName name ∧ NotAhead Pattern.isNameChar (w ++ r)

/-- What follows any word that the text starts with. -/
def Before (P : List Char → Prop) (m : List Char) : Prop :=
  ∀ text m', IsName text.toList → Reader.word text m = .read () m' → P m'

/-- A name is in front of the cut, and `P` holds behind it and its layout. -/
def Front (P : List Char → Prop) : Ahead := fun m r => Named m r ∧ Before P m

/-- The text in front of the cut, whatever is behind it. -/
abbrev Ahead.ofText (P : List Char → Prop) : Ahead := fun m _ => P m

theorem front_of_append {P : List Char → Prop} {name w r : List Char} (hname : IsName name)
    (hrest : NotAhead Pattern.isNameChar (w ++ r)) (hP : P (Reader.skipLayout w)) :
    Front P (name ++ w) r := by
  refine ⟨⟨name, w, rfl, hname, hrest⟩, fun text m' htext hread => ?_⟩
  obtain ⟨after, hkeyword, rfl⟩ := Reader.spaced_eq_read.1 hread
  by_cases heq : text.toList = name
  · obtain ⟨happend, -⟩ := Reader.keyword_eq_read.1 hkeyword
    rw [heq] at happend
    obtain rfl := List.append_cancel_left happend
    exact hP
  · have hfailed := Reader.keyword_failed (Reader.isKeyword_of_isName htext)
      (Reader.isKeyword_of_isName hname) heq hrest.of_append
    rw [hfailed] at hkeyword
    cases hkeyword

theorem Front.mono {P P' : List Char → Prop} {m r : List Char} (h : Front P m r)
    (hP : ∀ {m'}, P m' → P' m') : Front P' m r :=
  ⟨h.1, fun text m' htext hread => hP (h.2 text m' htext hread)⟩

theorem Named.notAhead {m r : List Char} (h : Named m r) {C : Char → Bool}
    (hC : ∀ c, C c = true → Pattern.isNameStart c = false) : NotAhead C m := by
  obtain ⟨name, w, rfl, hname, -⟩ := h
  cases name with
  | nil => exact hname.elim
  | cons c name =>
      refine notAhead_cons.2 ?_
      cases hc : C c with
      | false => rfl
      | true => exact absurd hname.1 (by rw [hC c hc]; exact Bool.false_ne_true)

theorem Begins.front {words : List String} {P : List Char → Prop} {m r : List Char}
    (h : Begins words (Ahead.ofText P).spaced m r) (hwords : ∀ text ∈ words, IsName text.toList) :
    Front P m r := by
  obtain ⟨text, htext, w, rfl, hrest, hP⟩ := h
  exact front_of_append (hwords text htext) hrest hP

namespace Confined

theorem keyword (text : String) : Confined (Begins [text] Q) (Reader.keyword text) Q := by
  have hsplit : ∀ {x v r : List Char} {u : Unit},
      Reader.keyword text (x ++ r) = .read u (v ++ r) →
        x = text.toList ++ v ∧ NotAhead Pattern.isNameChar (v ++ r) := by
    intro x v r u h
    obtain ⟨heq, hrest⟩ := Reader.keyword_eq_read.1 h
    rw [← List.append_assoc] at heq
    exact ⟨List.append_cancel_right heq, hrest⟩
  refine ⟨fun h => ⟨_, (Reader.keyword_eq_read.1 h).1⟩, fun _ h => ?_, fun hv h => ?_⟩
  · obtain ⟨rfl, hrest⟩ := hsplit h
    exact Reader.keyword_eq_read.2 ⟨rfl, hrest.of_append⟩
  · obtain ⟨rfl, hrest⟩ := hsplit h
    exact ⟨text, List.mem_singleton_self _, _, rfl, hrest, hv⟩

theorem word (text : String) : Confined (Begins [text] Q.spaced) (Reader.word text) Q :=
  spaced (keyword text)

/-- A word of the language, with what is known behind it. -/
theorem word_front {text : String} {P : List Char → Prop} (h : IsName text.toList) :
    Confined (Front P) (Reader.word text) (Ahead.ofText P) :=
  (word text).mono (fun hm => hm.front (by simpa using h)) fun hm => hm

theorem identifier {P : List Char → Prop} :
    Confined (Front P) Reader.identifier (Ahead.ofText P) := by
  have halone : Confined Ahead.always (Reader.lexeme Pattern.identifier) (Ahead.ofText P) :=
    lexeme (Pattern.isLocal_wordLength ..) Pattern.fits_identifier
  refine Confined.map ⟨halone.takes, halone.alone, fun {x v r name} hv h => ?_⟩ _
  obtain ⟨middle, hmeasured, hskip⟩ := Reader.spaced_eq_read.1 h
  obtain ⟨heq, hname, hrest⟩ := Reader.identifier_measured.1 hmeasured
  obtain ⟨blanks, hblanks, -⟩ := Reader.exists_layout middle
  rw [hskip] at hblanks
  obtain ⟨m, rfl, rfl⟩ := exists_middle heq hblanks
  refine front_of_append hname hrest ?_
  rw [skipLayout_of_append hskip]
  exact hv

end Confined

namespace FailsAlone

/-- A word fails in front of a cut for want of the word or because it runs on into a name; a
whole name has its end in front of the cut. -/
theorem keyword_of_split {text : String} (htext : Reader.IsKeyword text.toList)
    (hQ : ∀ {v r}, Q v r → ∃ token w, v = token ++ w ∧ Reader.IsKeyword token ∧
      NotAhead Pattern.isNameChar (w ++ r)) : FailsAlone (Reader.keyword text) Q := by
  intro v r hv hfailed
  obtain ⟨token, w, rfl, htoken, hrest⟩ := hQ hv
  by_cases heq : text.toList = token
  · have hread : Reader.keyword text (token ++ w ++ r) = .read () (w ++ r) :=
      Reader.keyword_eq_read.2 ⟨by rw [heq, List.append_assoc], hrest⟩
    rw [hread] at hfailed
    cases hfailed
  · exact Reader.keyword_failed htext htoken heq hrest.of_append

theorem word_named {text : String} (h : IsName text.toList) :
    FailsAlone (Reader.word text) Named :=
  spaced <| keyword_of_split (Reader.isKeyword_of_isName h) fun ⟨name, w, hv, hname, hrest⟩ =>
    ⟨name, w, hv, Reader.isKeyword_of_isName hname, hrest⟩

theorem firstKeyword {words : List String}
    (h : ∀ text ∈ words, FailsAlone (Reader.keyword text) Q) :
    FailsAlone (Reader.firstKeyword words) Q := by
  induction words with
  | nil => exact fail
  | cons text words ih =>
      exact orElse ((h text (List.mem_cons_self ..)).map _)
        (ih fun t ht => h t (List.mem_cons_of_mem _ ht))

theorem oneOf_named {words : List String} (h : ∀ text ∈ words, IsName text.toList) :
    FailsAlone (Reader.oneOf words) Named :=
  spaced <| firstKeyword fun text ht => keyword_of_split (Reader.isKeyword_of_isName (h text ht))
    fun ⟨name, w, hv, hname, hrest⟩ => ⟨name, w, hv, Reader.isKeyword_of_isName hname, hrest⟩

/-- A part that starts with a word fails where another word is in front of the cut. -/
theorem word_bind {text : String} {words : List String} {f : Unit → PartReader β}
    (htext : Reader.IsKeyword text.toList) (hwords : ∀ t ∈ words, Reader.IsKeyword t.toList)
    (hnot : text ∉ words) : FailsAlone (Reader.word text >>= f) (Begins words Q) := by
  rintro v r ⟨t, ht, w, rfl, hrest, -⟩ -
  refine Reader.bind_of_failed (Reader.spaced_eq_failed.2 ?_)
  refine Reader.keyword_failed htext (hwords t ht) (fun heq => hnot ?_) hrest.of_append
  rwa [String.toList_injective heq]

end FailsAlone

namespace Confined

theorem firstKeyword {words : List String} (h : ∀ text ∈ words, Reader.IsKeyword text.toList) :
    Confined (Begins words Q) (Reader.firstKeyword words) Q := by
  induction words with
  | nil => exact fail
  | cons text words ih =>
      have htail : ∀ t ∈ words, Reader.IsKeyword t.toList :=
        fun t ht => h t (List.mem_cons_of_mem _ ht)
      refine orElse (S := Begins words Q) (((keyword text).map _).mono ?_ fun hv => hv) (ih htail)
        ?_ (FailsAlone.map (FailsAlone.keyword_of_split (h text (List.mem_cons_self ..)) ?_) _)
      · rintro m r ⟨t, ht, hm⟩
        exact ⟨t, List.mem_cons.2 (.inl (List.mem_singleton.1 ht)), hm⟩
      · rintro m r ⟨t, ht, hm⟩
        exact ⟨t, List.mem_cons_of_mem _ ht, hm⟩
      · rintro v r ⟨t, ht, w, hv, hrest, -⟩
        exact ⟨t.toList, w, hv, htail t ht, hrest⟩

theorem oneOf {words : List String} (h : ∀ text ∈ words, Reader.IsKeyword text.toList) :
    Confined (Begins words Q.spaced) (Reader.oneOf words) Q := spaced (firstKeyword h)

/-- One of some words of the language, with what is known behind it. -/
theorem oneOf_front {words : List String} {P : List Char → Prop}
    (h : ∀ text ∈ words, IsName text.toList) :
    Confined (Front P) (Reader.oneOf words) (Ahead.ofText P) :=
  (oneOf fun text ht => Reader.isKeyword_of_isName (h text ht)).mono (fun hm => hm.front h)
    fun hm => hm

end Confined

end ThriftSchema
