import Mathlib.Data.List.Basic
import ThriftSchema.Json
import ThriftSchema.Proofs.Number.Readback
import ThriftSchema.Text.Printable

set_option autoImplicit false

/-! # JSON texts

A JSON text keeps to ASCII: characters beyond it are escaped in strings, and everywhere else there
are digits, marks, words and layout. What it starts with tells what kind of value it is of, so there
are few characters that it can start with.

* `isAscii_text`: the characters of a JSON text.
* `startsLine_of_head?`: how a line with a JSON text starts.
-/

namespace ThriftSchema.Json

open Text (isAsciiText)

/-! ## ASCII -/

/-- A text of ASCII. -/
def IsAscii (text : String) : Prop := ∀ c ∈ text.toList, isAsciiText c = true

instance (text : String) : Decidable (IsAscii text) :=
  inferInstanceAs (Decidable (∀ c ∈ text.toList, isAsciiText c = true))

theorem IsAscii.append {s t : String} (hs : IsAscii s) (ht : IsAscii t) : IsAscii (s ++ t) := by
  rw [IsAscii, String.toList_append]
  exact List.forall_mem_append.2 ⟨hs, ht⟩

theorem IsAscii.intercalate {between : String} {texts : List String} (hbetween : IsAscii between)
    (h : ∀ text ∈ texts, IsAscii text) : IsAscii (between.intercalate texts) := by
  rw [IsAscii, String.toList_intercalate]
  induction texts with
  | nil => exact List.forall_mem_nil _
  | cons text texts ih =>
      obtain ⟨htext, htexts⟩ := List.forall_mem_cons.1 h
      cases texts with
      | nil => simpa using (show ∀ c ∈ text.toList, isAsciiText c = true from htext)
      | cons next texts =>
          rw [List.map_cons, List.map_cons, List.intercalate_cons_cons, ← List.map_cons]
          exact List.forall_mem_append.2
            ⟨List.forall_mem_append.2 ⟨htext, hbetween⟩, ih htexts⟩

theorem isAsciiText_of_isTextChar {c : Char} (h : Number.Double.isTextChar c = true) :
    isAsciiText c = true := by
  rw [Number.Double.isTextChar, Bool.or_eq_true] at h
  rcases h with hdigit | hmark
  · have hcode := Number.toNat_of_isDigit hdigit
    rw [isAsciiText, Bool.or_eq_true, Bool.and_eq_true, decide_eq_true_eq, decide_eq_true_eq]
    omega
  · have hmarks : ∀ d ∈ "+-.aefin".toList, isAsciiText d = true := by decide
    exact hmarks c (List.contains_iff_mem.1 hmark)

/-! ## Strings -/

theorem isAscii_hexDigits (width n : Nat) :
    ∀ c ∈ Text.hexDigits width n, isAsciiText c = true := by
  have hall : ∀ a : Fin 16, isAsciiText (Text.hexDigit a) = true := by decide
  induction width generalizing n with
  | zero => exact List.forall_mem_nil _
  | succ width ih =>
      rw [Text.hexDigits]
      exact List.forall_mem_append.2
        ⟨ih _, List.forall_mem_singleton.2 (hall ⟨n % 16, Nat.mod_lt _ (by decide)⟩)⟩

theorem isAscii_unitEscape (unit : Nat) : ∀ c ∈ unitEscape unit, isAsciiText c = true :=
  List.forall_mem_cons.2 ⟨by decide,
    List.forall_mem_cons.2 ⟨by decide, isAscii_hexDigits 4 unit⟩⟩

theorem isAscii_stringChar (c : Char) : ∀ d ∈ stringChar c, isAsciiText d = true := by
  unfold stringChar
  dsimp only
  split_ifs with _ _ _ _ _ _ _ hshows
  iterate 7 decide
  · rw [List.forall_mem_singleton, isAsciiText, hshows, Bool.or_true]
  · exact isAscii_unitEscape _
  · exact List.forall_mem_append.2 ⟨isAscii_unitEscape _, isAscii_unitEscape _⟩

theorem isAscii_stringText (value : String) : IsAscii (stringText value) := by
  rw [IsAscii, stringText, String.toList_ofList]
  refine List.forall_mem_cons.2 ⟨by decide, List.forall_mem_append.2 ⟨fun d hd => ?_, by decide⟩⟩
  obtain ⟨c, -, hc⟩ := List.mem_flatMap.1 hd
  exact isAscii_stringChar c d hc

/-! ## Values -/

theorem isAscii_doubleText (d : Number.Double) : IsAscii (doubleText d) := by
  unfold doubleText
  split_ifs
  · decide
  · decide
  · decide
  · exact fun c hc => isAsciiText_of_isTextChar (Number.Double.isTextChar_of_mem_text d c hc)

theorem isAscii_indentation (level : Nat) : IsAscii (indentation level) := by
  rw [IsAscii, indentation, String.toList_ofList]
  exact fun c hc => (List.eq_of_mem_replicate hc) ▸ by decide

theorem isAscii_bracket {first last : String} {lines : List String} (level : Nat)
    (hfirst : IsAscii first) (hlast : IsAscii last) (h : ∀ line ∈ lines, IsAscii line) :
    IsAscii (bracket first last level lines) := by
  unfold bracket
  split
  · exact hfirst.append hlast
  · have hnewline : IsAscii "\n" := by decide
    have hlines : ∀ line ∈ lines.map fun line => indentation (level + 1) ++ line, IsAscii line :=
      List.forall_mem_map.2 fun line hline => (isAscii_indentation _).append (h line hline)
    have hcomma : IsAscii ",\n" := by decide
    have hbody := (hfirst.append hnewline).append (.intercalate hcomma hlines)
    exact ((hbody.append hnewline).append (isAscii_indentation level)).append hlast

mutual

theorem isAscii_textAt : ∀ (value : Json) (level : Nat), IsAscii (textAt level value)
  | null, _ => show IsAscii "null" by decide
  | bool true, _ => show IsAscii "true" by decide
  | bool false, _ => show IsAscii "false" by decide
  | integer value, _ => fun c hc =>
      isAsciiText_of_isTextChar (Number.Double.isTextChar_of_mem_toString value c hc)
  | double value, _ => isAscii_doubleText value
  | string value, _ => isAscii_stringText value
  | array items, level =>
      isAscii_bracket level (by decide) (by decide) (isAscii_itemTexts items (level + 1))
  | object members, level =>
      isAscii_bracket level (by decide) (by decide) (isAscii_memberTexts members (level + 1))

theorem isAscii_itemTexts : ∀ (items : List Json) (level : Nat),
    ∀ line ∈ itemTexts level items, IsAscii line
  | [], _ => List.forall_mem_nil _
  | item :: items, level =>
      List.forall_mem_cons.2 ⟨isAscii_textAt item level, isAscii_itemTexts items level⟩

theorem isAscii_memberTexts : ∀ (members : List (String × Json)) (level : Nat),
    ∀ line ∈ memberTexts level members, IsAscii line
  | [], _ => List.forall_mem_nil _
  | (name, value) :: members, level =>
      List.forall_mem_cons.2
        ⟨((isAscii_stringText name).append (by decide)).append (isAscii_textAt value level),
          isAscii_memberTexts members level⟩

end

/-- A JSON text keeps to ASCII. -/
theorem isAscii_text (value : Json) : IsAscii value.text := isAscii_textAt value 0

/-! ## How a text starts -/

/-- What a line with a JSON text starts with is one of these characters. -/
def startsLine (c : Char) : Bool :=
  Number.Double.isTextChar c || ['\n', 'n', 't', 'f', '\x22', '[', '\x7b', 'N', 'I'].contains c

theorem startsLine_of_isTextChar {c : Char} (h : Number.Double.isTextChar c = true) :
    startsLine c = true := by
  rw [startsLine, h, Bool.true_or]

theorem exists_toList_bracket (first last : String) (level : Nat) (lines : List String) :
    ∃ rest, (bracket first last level lines).toList = first.toList ++ rest := by
  unfold bracket
  split
  · exact ⟨_, String.toList_append⟩
  · simp only [String.toList_append, List.append_assoc]
    exact ⟨_, rfl⟩

theorem startsLine_of_head?_text {value : Json} {c : Char}
    (h : value.text.toList.head? = some c) : startsLine c = true := by
  -- the first character is known, unless the value is a number
  have hknown : ∀ {cs : List Char} {d : Char} {rest : List Char}, cs = d :: rest →
      startsLine d = true → cs.head? = some c → startsLine c = true := by
    rintro _ d rest rfl hd hhead
    rwa [← Option.some.inj hhead]
  unfold text at h
  cases value with
  | null => exact hknown rfl (by decide) h
  | bool value => cases value <;> exact hknown rfl (by decide) h
  | integer value =>
      exact startsLine_of_isTextChar
        (Number.Double.isTextChar_of_mem_toString value c (List.mem_of_mem_head? h))
  | double value =>
      rw [textAt, doubleText] at h
      split_ifs at h
      · exact hknown rfl (by decide) h
      · exact hknown rfl (by decide) h
      · exact hknown rfl (by decide) h
      · exact startsLine_of_isTextChar
          (Number.Double.isTextChar_of_mem_text value c (List.mem_of_mem_head? h))
  | string value =>
      rw [textAt, stringText, String.toList_ofList] at h
      exact hknown rfl (by decide) h
  | array items =>
      obtain ⟨rest, hrest⟩ := exists_toList_bracket "[" "]" 0 (itemTexts 1 items)
      exact hknown hrest (by decide) h
  | object members =>
      obtain ⟨rest, hrest⟩ := exists_toList_bracket "\x7b" "\x7d" 0 (memberTexts 1 members)
      exact hknown hrest (by decide) h

theorem startsLine_of_head? {value : Json} {c : Char}
    (h : (value.text ++ "\n").toList.head? = some c) : startsLine c = true := by
  rw [String.toList_append] at h
  cases htext : value.text.toList with
  | nil =>
      rw [htext] at h
      obtain rfl := Option.some.inj h
      decide
  | cons d ds =>
      rw [htext] at h
      exact startsLine_of_head?_text (by rw [htext]; exact h)

end ThriftSchema.Json
