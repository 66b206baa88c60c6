import ThriftSchema.Proofs.Text.Trim
import ThriftSchema.Teletype.Style

set_option autoImplicit false

/-! # Styles of one word

A word of small letters stands for a style whose text starts with the same letter, whether it names
an attribute, in full or in short, or a colour, or nothing at all.

* `head?_styleName`: how the text starts that stands for a word.
-/

namespace ThriftSchema.Teletype

open Text

variable {c : Char} {cs : List Char}

/-! ## Words of small letters -/

theorem isGraphic_of_isLower (h : c.isLower = true) : IsGraphic c := by
  obtain ⟨hfirst, hlast⟩ := isLower_iff_toNat.1 h
  exact ⟨by omega, by omega⟩

theorem trimBlanks_of_isLower (h : ∀ c ∈ cs, c.isLower = true) : trimBlanks cs = cs := by
  have htrim := trimBlanks_of_graphic (fun c hc => isGraphic_of_isLower (h c hc))
    (List.forall_mem_nil fun c => Pattern.isLayout c = true)
  rwa [List.append_nil] at htrim

theorem wordsFrom_cons (h : isBlank c = false) (word : List Char) :
    wordsFrom word (c :: cs) = wordsFrom (c :: word) cs := by
  have hblank : ¬isBlank c = true := Bool.eq_false_iff.1 h
  cases word <;> exact if_neg hblank

theorem wordsFrom_of_isLower (h : ∀ c ∈ cs, c.isLower = true) (word : List Char)
    (hword : word.reverse ++ cs ≠ []) :
    wordsFrom word cs = [String.ofList (word.reverse ++ cs)] := by
  induction cs generalizing word with
  | nil =>
      cases word with
      | nil => exact absurd rfl hword
      | cons c word =>
          rw [List.append_nil]
          rfl
  | cons c cs ih =>
      obtain ⟨hc, hcs⟩ := List.forall_mem_cons.1 h
      rw [wordsFrom_cons (isGraphic_of_isLower hc).not_isBlank, ih hcs _ (by simp)]
      simp

theorem head?_lowerCase (h : c.isLower = true) :
    (lowerCase (String.ofList (c :: cs))).toList.head? = some c := by
  obtain ⟨hfirst, hlast⟩ := isLower_iff_toNat.1 h
  have hne : ∀ d : Char, 128 ≤ d.toNat → c ≠ d := by
    rintro d hd rfl
    omega
  have hsmall : c.toLower = c := by
    have hupper : ¬(c.val ≥ 'A'.val ∧ c.val ≤ 'Z'.val) := fun h => by
      have hhigh : c.toNat ≤ 90 := h.2
      omega
    exact dif_neg hupper
  rw [lowerCase, String.toList_ofList, String.toList_ofList, lowerFrom, lowerAt,
    if_neg (hne 'İ' (by decide)), if_neg (hne 'Σ' (by decide)), smallLetter,
    if_pos (by omega), hsmall]
  rfl

/-! ## Attributes -/

theorem head?_shortName {look : Attribute} {short : String} (h : look.shortName = some short) :
    short.toList.head? = look.name.toList.head? := by
  cases look <;> first | cases h; rfl | cases h

theorem head?_attribute {word : String} {look : Attribute} (h : attribute? word = some look) :
    look.name.toList.head? = word.toList.head? := by
  have hlook := List.find?_some h
  simp only [Bool.or_eq_true, decide_eq_true_eq] at hlook
  rcases hlook with rfl | hshort
  · rfl
  · exact (head?_shortName hshort).symm

theorem text_attribute (look : Attribute) :
    (⟨[(look, true)], none, none, none⟩ : Style).text = look.name := by
  cases look <;> rfl

theorem text_color (name : String) :
    (⟨[], some name, none, none⟩ : Style).text = name := by
  simp [Style.text, Style.attributeWords, Attribute.all]

/-! ## Styles -/

theorem readWords_nil (style : Style) : Style.readWords [] style = .ok style := rfl

theorem head?_readWords {word : String} {style : Style}
    (h : Style.readWords [word] .plain = .ok style) :
    style.text.toList.head? = (lowerCase word).toList.head? := by
  unfold Style.readWords at h
  split at h
  · next heq => cases heq
  · next heq => cases heq
  · next heq => cases heq
  · cases h
  · cases h
  · cases h
  · split at h
    · next look hlook =>
      rw [readWords_nil] at h
      obtain rfl := Except.ok.inj h
      rw [← head?_attribute hlook]
      exact congrArg (·.toList.head?) (text_attribute look)
    · cases hcolor : readColor (lowerCase word) with
      | error error => simp [hcolor, bind, Except.bind] at h
      | ok =>
          rw [hcolor] at h
          obtain rfl := Except.ok.inj h
          exact congrArg (·.toList.head?) (text_color _)

/-- What stands for a word of small letters starts like the word. -/
theorem head?_styleName {name : String} (hword : ∀ d ∈ c :: cs, d.isLower = true)
    (h : styleName (c :: cs) = .ok name) : name.toList.head? = some c := by
  have hwords : wordsOf (c :: cs) = [String.ofList (c :: cs)] :=
    wordsFrom_of_isLower hword [] (List.cons_ne_nil c cs)
  have hlower : (lowerCase (String.ofList (c :: cs))).toList.head? = some c :=
    head?_lowerCase (hword c List.mem_cons_self)
  rw [styleName, Style.read, trimBlanks_of_isLower hword, hwords] at h
  split at h
  · next style hread =>
    obtain rfl := Except.ok.inj h
    split at hread
    · next hnone =>
      obtain rfl := Except.ok.inj hread
      rw [(List.cons.inj hnone).1]
      rfl
    · rw [head?_readWords hread, hlower]
  · obtain rfl := Except.ok.inj h
    exact hlower
  · cases h

end ThriftSchema.Teletype
