import ThriftSchema.Proofs.Assembly.Reduction
import ThriftSchema.Proofs.Reader.Token
import ThriftSchema.Proofs.Text.Spelled
import ThriftSchema.Proofs.Text.Trim

set_option autoImplicit false

/-! # What leaves are made of

A leaf is built from its lexeme and the layout behind it. Lexemes hold no blanks at their ends,
so that trimming gives the lexeme back, and every builder makes of it what the reader makes. The
only way in which a builder fails on a lexeme is a decimal integer that is too long.
-/

namespace ThriftSchema

open Text (IsGraphic)

/-! ## Lexemes show -/

theorem isGraphic_of_isNameChar {c : Char} (h : Pattern.isNameChar c = true) : IsGraphic c := by
  simp only [Pattern.isNameChar, Char.isAlphanum, Bool.or_eq_true, beq_iff_eq,
    isAlpha_iff_toNat] at h
  rcases h with (((h | h) | h) | rfl) | rfl
  · exact ⟨by omega, by omega⟩
  · exact ⟨by omega, by omega⟩
  · have := Number.toNat_of_isDigit h
    exact ⟨by omega, by omega⟩
  · decide
  · decide

/-- Names and numerals show. -/
theorem isGraphic_of_spelled {cs : List Char} (h : ∀ c ∈ cs, isSpelled c = true) :
    ∀ c ∈ cs, IsGraphic c := by
  intro c hc
  have hspelled := h c hc
  simp only [isSpelled, Pattern.isDashedNameChar, Bool.or_eq_true, beq_iff_eq] at hspelled
  rcases hspelled with (h | rfl) | rfl
  · exact isGraphic_of_isNameChar h
  · decide
  · decide

/-- The ends of a quoted text are its quotes. -/
theorem trimBlanks_quoted {cs content blanks : List Char} (h : IsQuoted cs content)
    (hblanks : ∀ c ∈ blanks, Pattern.isLayout c = true) :
    Text.trimBlanks (cs ++ blanks) = cs := by
  cases h with
  | @intro mark content quote absent =>
      have hmark : Text.isBlank mark = false := by
        rcases quote with rfl | rfl <;> decide
      refine Text.trimBlanks_append (notAhead_cons.2 hmark) ?_ hblanks
      rw [List.reverse_cons, List.reverse_append, List.reverse_singleton]
      exact notAhead_cons.2 hmark

/-! ## Builders -/

namespace Performs

open Leaf

variable {lexeme rest blanks : List Char}

theorem trim_lexeme (h : ∀ c ∈ lexeme, IsGraphic c)
    (hblanks : ∀ c ∈ blanks, Pattern.isLayout c = true) :
    Text.trim (String.ofList (lexeme ++ blanks)) = String.ofList lexeme := by
  rw [Text.trim, String.toList_ofList, Text.trimBlanks_of_graphic h hblanks]

theorem builds_identifier {a : List Char}
    (h : Reader.measured Pattern.identifier (lexeme ++ rest) = .read a rest)
    (hblanks : ∀ c ∈ blanks, Pattern.isLayout c = true) :
    Builds (Leaf.identifier (String.ofList (lexeme ++ blanks))) (pure (String.ofList a))
      Entry.identifier := by
  obtain ⟨hsplit, hname, -⟩ := Reader.identifier_measured.1 h
  obtain rfl := List.append_cancel_right hsplit
  have hshow := isGraphic_of_spelled (isSpelled_of_isWord (fun _ => isSpelled_of_isNameChar) hname)
  exact builds_pure (by rw [Leaf.identifier, trim_lexeme hshow hblanks])

theorem builds_dashedIdentifier {a : List Char}
    (h : Reader.measured Pattern.dashedIdentifier (lexeme ++ rest) = .read a rest)
    (hblanks : ∀ c ∈ blanks, Pattern.isLayout c = true) :
    Builds (Leaf.identifier (String.ofList (lexeme ++ blanks))) (pure (String.ofList a))
      Entry.identifier := by
  obtain ⟨hsplit, hname, -⟩ := Reader.dashedIdentifier_measured.1 h
  obtain rfl := List.append_cancel_right hsplit
  have hshow :=
    isGraphic_of_spelled (isSpelled_of_isWord (fun _ => isSpelled_of_isDashedNameChar) hname)
  exact builds_pure (by rw [Leaf.identifier, trim_lexeme hshow hblanks])

theorem builds_literal {a : List Char}
    (h : Reader.measured Pattern.literal (lexeme ++ rest) = .read a rest)
    (hblanks : ∀ c ∈ blanks, Pattern.isLayout c = true) :
    Builds (Leaf.literal (String.ofList (lexeme ++ blanks)))
      (pure (String.ofList (a.drop 1).dropLast)) Entry.literal := by
  obtain ⟨hsplit, content, hquoted⟩ := Reader.literal_measured.1 h
  obtain rfl := List.append_cancel_right hsplit
  exact builds_pure
    (by rw [Leaf.literal, String.toList_ofList, trimBlanks_quoted hquoted hblanks])

theorem builds_integer {a : List Char}
    (h : Reader.measured Pattern.integer (lexeme ++ rest) = .read a rest)
    (hblanks : ∀ c ∈ blanks, Pattern.isLayout c = true) :
    Builds (Leaf.integer (String.ofList (lexeme ++ blanks))) (Reader.decimalValue a)
      Entry.integer := by
  obtain ⟨hsplit, ⟨value, hvalue⟩, -⟩ := Reader.integer_measured.1 h
  obtain rfl := List.append_cancel_right hsplit
  rw [Leaf.integer, String.toList_ofList,
    Text.trimBlanks_of_graphic (isGraphic_of_spelled (isSpelled_of_isInteger hvalue)) hblanks,
    Reader.decimalValue]
  cases hvalue with
  | @intro sign digits negative hsign hdigits =>
      rw [Number.readDecimal_append hsign hdigits]
      by_cases hlong : Number.digitLimit < digits.length
      · rw [if_pos hlong]
        exact builds_stop rfl trivial
      · rw [if_neg hlong]
        exact builds_pure rfl

theorem builds_hexadecimal {a : List Char}
    (h : Reader.measured Pattern.hexadecimal (lexeme ++ rest) = .read a rest)
    (hblanks : ∀ c ∈ blanks, Pattern.isLayout c = true) :
    Builds (Leaf.hexadecimal (String.ofList (lexeme ++ blanks))) (Reader.hexadecimalValue a)
      Entry.integer := by
  obtain ⟨hsplit, ⟨value, hvalue⟩, -⟩ := Reader.hexadecimal_measured.1 h
  obtain rfl := List.append_cancel_right hsplit
  rw [Leaf.hexadecimal, String.toList_ofList,
    Text.trimBlanks_of_graphic (isGraphic_of_spelled (isSpelled_of_isHexadecimal hvalue)) hblanks,
    Reader.hexadecimalValue, Number.readHexadecimal_of_isHexadecimal hvalue]
  exact builds_pure rfl

theorem builds_double {a : List Char}
    (h : Reader.measured Pattern.decimal (lexeme ++ rest) = .read a rest)
    (hblanks : ∀ c ∈ blanks, Pattern.isLayout c = true) :
    Builds (Leaf.double (String.ofList (lexeme ++ blanks))) (Reader.doubleValue a)
      Entry.double := by
  obtain ⟨hsplit, hdecimal, -⟩ := Reader.decimal_measured h
  obtain rfl := List.append_cancel_right hsplit
  obtain ⟨value, hvalue⟩ := Number.exists_read_of_isDecimal hdecimal
  rw [Leaf.double, String.toList_ofList,
    Text.trimBlanks_of_graphic (isGraphic_of_spelled (isSpelled_of_isDecimal hdecimal)) hblanks,
    Reader.doubleValue, hvalue]
  exact builds_pure rfl

theorem builds_void : Builds (Leaf.void (String.ofList (lexeme ++ blanks)))
    (pure ReturnType.void) ReturnType.entry := builds_pure rfl

/-- The words of a leaf, which have to show. -/
theorem trim_firstKeyword {texts : List String} {text : String}
    (h : Reader.firstKeyword texts (lexeme ++ rest) = .read text rest)
    (hshow : ∀ text ∈ texts, ∀ c ∈ text.toList, IsGraphic c)
    (hblanks : ∀ c ∈ blanks, Pattern.isLayout c = true) :
    text ∈ texts ∧ Text.trim (String.ofList (lexeme ++ blanks)) = text := by
  obtain ⟨hmem, hsplit, -⟩ := Reader.firstKeyword_eq_read h
  obtain rfl := List.append_cancel_right hsplit
  refine ⟨hmem, ?_⟩
  rw [trim_lexeme (hshow text hmem) hblanks, String.ofList_toList]

theorem builds_baseType {text : String}
    (h : Reader.firstKeyword Production.baseTypeNames (lexeme ++ rest) = .read text rest)
    (hblanks : ∀ c ∈ blanks, Pattern.isLayout c = true) :
    Builds (Leaf.baseType (String.ofList (lexeme ++ blanks))) (pure (FieldType.base text))
      FieldType.entry := by
  obtain ⟨-, htrim⟩ := trim_firstKeyword h (by decide) hblanks
  rw [Leaf.baseType, htrim]
  exact builds_pure rfl

theorem builds_scope {text : String}
    (h : Reader.firstKeyword Production.namespaceScopes (lexeme ++ rest) = .read text rest)
    (hblanks : ∀ c ∈ blanks, Pattern.isLayout c = true) :
    Builds (Leaf.scope (String.ofList (lexeme ++ blanks))) (pure text) Entry.literal := by
  obtain ⟨-, htrim⟩ := trim_firstKeyword h (by decide) hblanks
  rw [Leaf.scope, htrim]
  exact builds_pure rfl

theorem builds_requiredness {text : String}
    (h : Reader.firstKeyword ["required", "optional"] (lexeme ++ rest) = .read text rest)
    (hblanks : ∀ c ∈ blanks, Pattern.isLayout c = true) :
    Builds (Leaf.requiredness (String.ofList (lexeme ++ blanks))) (Reader.requirednessOf text)
      Entry.requiredness := by
  obtain ⟨hmem, htrim⟩ := trim_firstKeyword h (by decide) hblanks
  rw [Leaf.requiredness, htrim]
  simp only [List.mem_cons, List.not_mem_nil, or_false] at hmem
  rcases hmem with rfl | rfl
  · exact builds_pure rfl
  · exact builds_pure rfl

end Performs

end ThriftSchema
