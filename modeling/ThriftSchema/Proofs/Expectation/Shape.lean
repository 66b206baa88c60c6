import ThriftSchema.Proofs.Expectation.Form
import ThriftSchema.Proofs.Reader.Token
import ThriftSchema.Proofs.Text.Local
import ThriftSchema.Proofs.Text.Plain
import ThriftSchema.Proofs.Text.Spelled

set_option autoImplicit false

/-! # What tokens read

A token reads a word, a mark or a lexeme. Words and marks are told apart from the other tokens by
their characters, if they fit.

* `Terminal.fits`: tokens whose words are no numerals and whose marks are no parts of words.
* `LexemeShape`, `TokenShape`: what is read, in front of the rest of the text.
* `Terminal.read_eq_some`: what a token reads has such a shape.
-/

namespace ThriftSchema

open Comment (isOpener)
open Pattern (isLayout isNameChar)
open Reader (skipLayout)

/-! ## Tokens that can be told apart -/

/-- A character that words are spelled with. -/
def isWordChar (c : Char) : Bool := isNameChar c || c == '*'

/-- A word that is no part of a numeral. -/
def isPlainWord (cs : List Char) : Bool := cs.all isWordChar && cs.any fun c => !isNumeralChar c

/-- A character that is a token by itself. -/
def isMarkChar (c : Char) : Bool := !isWordChar c && !isOpener c && !isLayout c

/-- Whether the words and marks of a token are such words and characters. -/
def Terminal.fits : Terminal → Bool
  | word text => isPlainWord text.toList
  | mark text => text.length == 1 && text.toList.all isMarkChar
  | oneOf _ words => words.all fun text => isPlainWord text.toList
  | lexeme _ _ | separator _ => true

/-- Whether the tokens of a head fit. -/
def Head.fits : Head → Bool
  | choice ts => !ts.isEmpty && ts.all Terminal.fits
  | pair first second => first.fits && second.fits

theorem isPlainWord_iff {cs : List Char} : isPlainWord cs = true ↔
    (∀ c ∈ cs, isWordChar c = true) ∧ ∃ c ∈ cs, isNumeralChar c = false := by
  simp [isPlainWord]

theorem ne_nil_of_isPlainWord {cs : List Char} (h : isPlainWord cs = true) : cs ≠ [] := by
  obtain ⟨-, c, hc, -⟩ := isPlainWord_iff.1 h
  exact List.ne_nil_of_mem hc

theorem isMarkChar_iff {c : Char} : isMarkChar c = true ↔
    isWordChar c = false ∧ isOpener c = false ∧ isLayout c = false := by
  simp [isMarkChar, and_assoc]

/-! ## What tokens read -/

/-- A lexeme in front of the rest of the text: a name, a quoted text or a numeral. -/
inductive LexemeShape : List Char → List Char → Prop
  | name {lexeme rest : List Char} (h : IsDashedName lexeme) (hrest : NotAhead isNameChar rest) :
      LexemeShape lexeme rest
  | quoted {lexeme content rest : List Char} (h : IsQuoted lexeme content) :
      LexemeShape lexeme rest
  | numeral {lexeme rest : List Char} (hne : lexeme ≠ [])
      (h : ∀ c ∈ lexeme, isNumeralChar c = true) : LexemeShape lexeme rest

/-- What is read by a token, in front of the rest of the text. -/
inductive TokenShape : List Char → List Char → Prop
  | word {lexeme rest : List Char} (h : isPlainWord lexeme = true)
      (hrest : NotAhead isNameChar rest) : TokenShape lexeme rest
  | mark {c : Char} {rest : List Char} (h : isMarkChar c = true) : TokenShape [c] rest
  | lexeme {lexeme rest : List Char} (h : LexemeShape lexeme rest) : TokenShape lexeme rest

theorem Terminal.wordMeasure_eq_some {text : String} {cs : List Char} {n : Nat} :
    wordMeasure text cs = some n ↔
      ∃ rest, cs = text.toList ++ rest ∧ NotAhead isNameChar rest ∧ text.toList.length = n := by
  rw [wordMeasure]
  constructor
  · intro h
    split at h
    · next hword =>
      obtain ⟨rest, hcs, hrest⟩ := Reader.startsWithWord_iff.1 hword
      exact ⟨rest, hcs, hrest, String.length_toList.trans (Option.some.inj h)⟩
    · cases h
  · rintro ⟨rest, rfl, hrest, rfl⟩
    rw [if_pos (Reader.startsWithWord_iff.2 ⟨rest, rfl, hrest⟩), String.length_toList]

theorem LexemeKind.isLocal_measure : ∀ kind : LexemeKind, IsLocal kind.pattern.measure
  | identifier | dashedIdentifier => Pattern.isLocal_wordLength _ _
  | literal => Pattern.isLocal_quotedLength
  | integer => Pattern.isLocal_integerLength
  | hexadecimal => Pattern.isLocal_hexadecimalLength
  | decimal => Pattern.isLocal_decimalLength

/-- The lexemes of a kind. -/
theorem LexemeKind.exists_shape {kind : LexemeKind} {cs : List Char} {n : Nat}
    (h : kind.pattern.measure cs = some n) :
    ∃ lexeme rest, cs = lexeme ++ rest ∧ lexeme.length = n ∧ LexemeShape lexeme rest := by
  cases kind with
  | identifier =>
      obtain ⟨lexeme, rest, hcs, hn, hname, hrest⟩ := Pattern.wordLength_eq_some h
      have hdashed : IsDashedName lexeme := by
        cases lexeme with
        | nil => exact hname.elim
        | cons c cs => exact ⟨hname.1, fun d hd => by simp [Pattern.isDashedNameChar, hname.2 d hd]⟩
      exact ⟨lexeme, rest, hcs, hn, .name hdashed hrest⟩
  | dashedIdentifier =>
      obtain ⟨lexeme, rest, hcs, hn, hname, hrest⟩ := Pattern.wordLength_eq_some h
      have hlonger : ∀ c, isNameChar c = true → Pattern.isDashedNameChar c = true :=
        fun c hc => by simp [Pattern.isDashedNameChar, hc]
      exact ⟨lexeme, rest, hcs, hn, .name hname (hrest.mono hlonger)⟩
  | literal =>
      obtain ⟨lexeme, rest, content, hcs, hn, hquoted⟩ := Pattern.quotedLength_eq_some h
      exact ⟨lexeme, rest, hcs, hn, .quoted hquoted⟩
  | integer =>
      obtain ⟨lexeme, rest, value, hcs, hn, hvalue, -⟩ := Pattern.integerLength_eq_some h
      refine ⟨lexeme, rest, hcs, hn, .numeral ?_ (isNumeralChar_of_isInteger hvalue)⟩
      obtain ⟨hsign, hdigits⟩ := hvalue
      simp [hdigits.1]
  | hexadecimal =>
      obtain ⟨lexeme, rest, value, hcs, hn, hvalue, -⟩ := Pattern.hexadecimalLength_eq_some h
      refine ⟨lexeme, rest, hcs, hn, .numeral ?_ (isNumeralChar_of_isHexadecimal hvalue)⟩
      obtain ⟨hsign, hmark, hdigits⟩ := hvalue
      simp
  | decimal =>
      obtain ⟨lexeme, rest, hcs, hn, hdecimal, -⟩ := Pattern.decimalLength_eq_some h
      refine ⟨lexeme, rest, hcs, hn, .numeral ?_ (isNumeralChar_of_isDecimal hdecimal)⟩
      cases hdecimal with
      | exponent hsign hwhole he => simp [hwhole.1]
      | fraction hsign hwhole hdigits he => simp

theorem Terminal.mark_eq_some {text : String} (ht : (mark text).fits = true) {cs : List Char}
    {n : Nat} (h : (mark text).measure cs = some n) :
    ∃ c rest, text.toList = [c] ∧ isMarkChar c = true ∧ cs = c :: rest ∧ n = 1 := by
  simp only [fits, Bool.and_eq_true, beq_iff_eq, ← String.length_toList] at ht
  obtain ⟨c, hc⟩ := List.length_eq_one_iff.1 ht.1
  simp only [measure, hc, ← String.length_toList] at h
  split at h
  · next hprefix =>
    obtain ⟨rest, rfl⟩ := List.isPrefixOf_iff_prefix.1 hprefix
    have hmark : isMarkChar c = true := by simpa [hc] using ht.2
    exact ⟨c, rest, hc, hmark, rfl, by simpa using h.symm⟩
  · cases h

theorem Terminal.separator_eq_some {label : String} {cs : List Char} {n : Nat}
    (h : (separator label).measure cs = some n) :
    ∃ c rest, cs = c :: rest ∧ (c = ',' ∨ c = ';') ∧ n = 1 := by
  cases cs with
  | nil => cases h
  | cons c rest =>
      simp only [measure, Pattern.separator, Pattern.separatorLength] at h
      split at h
      · next hc => exact ⟨c, rest, rfl, by simpa using hc, by simpa using h.symm⟩
      · cases h

/-- What a token reads. -/
theorem Terminal.exists_shape {t : Terminal} (ht : t.fits = true) {cs : List Char} {n : Nat}
    (h : t.measure cs = some n) :
    ∃ lexeme rest, cs = lexeme ++ rest ∧ lexeme.length = n ∧ TokenShape lexeme rest := by
  have hword : ∀ {text : String}, isPlainWord text.toList = true →
      wordMeasure text cs = some n →
      ∃ lexeme rest, cs = lexeme ++ rest ∧ lexeme.length = n ∧ TokenShape lexeme rest := by
    intro text htext hmeasure
    obtain ⟨rest, hcs, hrest, hn⟩ := wordMeasure_eq_some.1 hmeasure
    exact ⟨text.toList, rest, hcs, hn, .word htext hrest⟩
  cases t with
  | word text => exact hword ht h
  | mark text =>
      obtain ⟨c, rest, -, hc, rfl, rfl⟩ := mark_eq_some ht h
      exact ⟨[c], rest, rfl, rfl, .mark hc⟩
  | lexeme label kind =>
      obtain ⟨lexeme, rest, hcs, hn, hshape⟩ := LexemeKind.exists_shape h
      exact ⟨lexeme, rest, hcs, hn, .lexeme hshape⟩
  | oneOf label words =>
      obtain ⟨text, htext, hmeasure⟩ := List.exists_of_findSome?_eq_some h
      exact hword (List.all_eq_true.1 ht text htext) hmeasure
  | separator label =>
      obtain ⟨c, rest, rfl, hc, rfl⟩ := separator_eq_some h
      have hmark : isMarkChar c = true := by
        rcases hc with rfl | rfl <;> decide
      exact ⟨[c], rest, rfl, rfl, .mark hmark⟩

namespace TokenShape

variable {lexeme rest : List Char}

theorem ne_nil (h : TokenShape lexeme rest) : lexeme ≠ [] := by
  cases h with
  | word h _ => exact ne_nil_of_isPlainWord h
  | mark _ => simp
  | lexeme h =>
      cases h with
      | name h _ =>
          rintro rfl
          exact h
      | quoted h =>
          cases h
          simp
      | numeral hne _ => exact hne

theorem plain (h : TokenShape lexeme rest) : Plain lexeme := by
  cases h with
  | word h _ =>
      exact .of_forall fun c hc => not_isOpener_of ((isPlainWord_iff.1 h).1 c hc) (by decide)
  | mark h => exact .cons (isMarkChar_iff.1 h).2.1 .nil
  | lexeme h =>
      cases h with
      | name h _ =>
          have hspelled : ∀ c ∈ lexeme, isSpelled c = true :=
            isSpelled_of_isWord (fun _ => isSpelled_of_isDashedNameChar) h
          exact .of_forall fun c hc => not_isOpener_of (hspelled c hc) (by decide)
      | quoted h => simpa using Plain.quoted h .nil
      | numeral _ h => exact .of_forall fun c hc => not_isOpener_of (h c hc) (by decide)

end TokenShape

namespace Terminal

variable {t : Terminal} {input rest : List Char}

theorem read_eq_some (ht : t.fits = true) (h : t.read input = some rest) :
    ∃ lexeme middle, input = lexeme ++ middle ∧ TokenShape lexeme middle ∧
      t.measure input = some lexeme.length ∧ rest = skipLayout middle := by
  obtain ⟨n, hn, rfl⟩ := Option.map_eq_some_iff.1 h
  obtain ⟨lexeme, middle, rfl, rfl, hshape⟩ := exists_shape ht hn
  exact ⟨lexeme, middle, rfl, hshape, hn, by rw [List.drop_left]⟩

theorem read_eq_none : t.read input = none ↔ t.measure input = none := Option.map_eq_none_iff

/-- A token is not empty. -/
theorem length_lt_of_read (ht : t.fits = true) (h : t.read input = some rest) :
    rest.length < input.length := by
  obtain ⟨lexeme, middle, rfl, hshape, -, rfl⟩ := read_eq_some ht h
  have hskip : (skipLayout middle).length ≤ middle.length := (List.dropWhile_suffix _).length_le
  have hpos : 0 < lexeme.length := List.length_pos_iff.2 hshape.ne_nil
  rw [List.length_append]
  omega

end Terminal

end ThriftSchema
