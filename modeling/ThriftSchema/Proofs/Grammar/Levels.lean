import Mathlib.Data.List.TakeWhile
import ThriftSchema.Proofs.Assembly.Tame
import ThriftSchema.Proofs.Expectation.Depth
import ThriftSchema.Proofs.Rule.Progress

set_option autoImplicit false

/-! # The productions go deeper only behind brackets

In the productions every reference to a type, a constant or a field stands behind a bracket that
opens, or in a field and goes to a type or a constant; and what is repeated needs a token.

* `Production.levelled_find?`: the references of what names stand for.
* `Production.moves_find?`: what names stand for needs a token.
* `Production.roundsMove_document`, `Production.roundsMove_find?`: and so does what is repeated.
-/

namespace ThriftSchema

/-! ## Lexemes -/

namespace Pattern

theorem neutral_of_kind (kind : LexemeKind) : kind.pattern.IsNeutral := by
  intro cs count h n
  obtain ⟨lexeme, rest, rfl, rfl, hshape⟩ := LexemeKind.exists_shape h
  rw [List.take_left]
  exact Terminal.climbs_lexeme hshape n

theorem moves_of_kind (kind : LexemeKind) : kind.pattern.Moves := by
  intro cs count h
  obtain ⟨lexeme, rest, rfl, rfl, hshape⟩ := LexemeKind.exists_shape h
  refine ⟨?_, (List.prefix_append _ _).length_le⟩
  cases hshape with
  | name h hrest =>
      cases lexeme with
      | nil => exact h.elim
      | cons c cs => exact Nat.succ_pos _
  | quoted h =>
      cases h
      exact Nat.succ_pos _
  | numeral hne h => exact List.length_pos_iff.2 hne

theorem neutral_layout : layout.IsNeutral := by
  rintro cs count ⟨⟩ n
  have htake : cs.take (spanLength isLayout cs) = cs.takeWhile isLayout :=
    (List.prefix_iff_eq_take.1 (List.takeWhile_prefix _)).symm
  rw [htake]
  exact .unmarked fun c hc => isUnmarked_of_isLayout (List.mem_takeWhile_imp hc)

theorem neutral_separator : separator.IsNeutral := by
  intro cs count h n
  obtain ⟨c, rest, rfl, hc, rfl⟩ := @Terminal.separator_eq_some "" _ _ h
  refine .unmarked fun d hd => ?_
  obtain rfl := List.mem_singleton.1 hd
  rcases hc with rfl | rfl <;> decide

end Pattern

namespace Rule

variable {V E : Type} {text : String} {n : Nat}

theorem isMark_of_opens (h : isOneOf openings text = true) : IsMark text n := .inl h

theorem isMark_of_closes (h : isOneOf closings text = true) : IsMark text (n + 1) :=
  .inr (.inl ⟨h, Nat.succ_pos n⟩)

theorem isMark_of_unmarked (h : ∀ c ∈ text.toList, IsUnmarked c) : IsMark text n := .inr (.inr h)

end Rule

namespace Production

/-! ## References -/

theorem rank_type : Form.rank "field type" = 0 := rfl

theorem rank_constant : Form.rank "constant value" = 0 := rfl

theorem rank_field : Form.rank "field" = 1 := rfl

section Levels

attribute [local simp] Rule.Levelled Rule.level Rule.sequence Rule.firstOf word symbol spaced layout
  token ofPattern flagWord identifier dashedIdentifier literal integer hexadecimal double separator
  named ending opening fieldTypeRef constantRef fieldRef hint Rule.isMark_of_opens
  Rule.isMark_of_closes Rule.isMark_of_unmarked rank_type rank_constant rank_field
  Pattern.neutral_layout Pattern.neutral_separator

@[local simp] theorem neutral_identifier : Pattern.identifier.IsNeutral :=
  Pattern.neutral_of_kind .identifier

@[local simp] theorem neutral_literal : Pattern.literal.IsNeutral :=
  Pattern.neutral_of_kind .literal

@[local simp] theorem neutral_integer : Pattern.integer.IsNeutral :=
  Pattern.neutral_of_kind .integer

@[local simp] theorem neutral_hexadecimal : Pattern.hexadecimal.IsNeutral :=
  Pattern.neutral_of_kind .hexadecimal

@[local simp] theorem neutral_decimal : Pattern.decimal.IsNeutral :=
  Pattern.neutral_of_kind .decimal

variable (here n : Nat)

theorem levelled_firstKeyword {words : List String}
    (h : ∀ text ∈ words, ∀ c ∈ text.toList, IsUnmarked c) :
    ((words.map Rule.keyword).foldr Rule.alt Rule.never : Production).Levelled Form.rank here n ∧
      ((words.map Rule.keyword).foldr Rule.alt Rule.never : Production).level n = n := by
  induction words with
  | nil => exact ⟨trivial, rfl⟩
  | cons word words ih =>
      obtain ⟨hword, hwords⟩ := List.forall_mem_cons.1 h
      exact ⟨⟨⟨hword, rfl⟩, ih hwords⟩, rfl⟩

theorem levelled_oneOf (label : String) {words : List String} (build : Leaf.Builder)
    (h : ∀ text ∈ words, ∀ c ∈ text.toList, IsUnmarked c) :
    (oneOf label words build).Levelled Form.rank here n := by
  simp [oneOf, levelled_firstKeyword here n h]

@[local simp] theorem levelled_baseType : baseType.Levelled Form.rank here n :=
  levelled_oneOf here n _ _ (by decide)

@[local simp] theorem level_baseType : baseType.level n = n := rfl

@[local simp] theorem levelled_requiredness : requiredness.Levelled Form.rank here n :=
  levelled_oneOf here n _ _ (by decide)

@[local simp] theorem level_requiredness : requiredness.level n = n := rfl

@[local simp] theorem levelled_containerType : containerType.Levelled Form.rank here n := by
  simp +decide [containerType, mapType, setType, listType, Tame.mapType.stays, Tame.setType.stays,
    Tame.listType.stays]

@[local simp] theorem level_containerType : containerType.level n = n := rfl

theorem levelled_fieldType : fieldType.Levelled Form.rank here n := by
  simp +decide [fieldType]

theorem levelled_constant : constant.Levelled Form.rank here n := by
  simp +decide [constant, constantList, constantMap, mapEntry, Reduction.openList, Tame.push,
    Tame.stays, Tame.constList, Tame.mapEntry, Tame.constMap]

theorem levelled_field (options : BuildOptions) : (field options).Levelled Form.rank 1 n := by
  simp +decide [field, fieldId, attributes, Reduction.openList, Tame.push, Tame.stays,
    Tame.attributes, Tame.field]

/-- What names stand for refers to names only behind brackets, or a field to a type or constant. -/
theorem levelled_find? {options : BuildOptions} {name : String} {rule : Production}
    (h : find? options name = some rule) :
    rule.Levelled Form.rank (Form.rank name) 0 ∧ rule.level 0 = 0 := by
  unfold find? at h
  split at h
  · cases h
    exact ⟨levelled_fieldType _ _, rfl⟩
  · cases h
    exact ⟨levelled_constant _ _, rfl⟩
  · cases h
    exact ⟨levelled_field _ _, rfl⟩
  · cases h

end Levels

/-! ## Repetitions -/

section Rounds

attribute [local simp] Rule.Every Rule.RoundsMove Rule.Moves Rule.sequence Rule.firstOf word symbol
  spaced layout token ofPattern flagWord identifier dashedIdentifier literal integer hexadecimal
  double separator named ending opening fieldTypeRef constantRef fieldRef hint

@[local simp] theorem moves_identifier : Pattern.identifier.Moves :=
  Pattern.moves_of_kind .identifier

@[local simp] theorem moves_literal : Pattern.literal.Moves := Pattern.moves_of_kind .literal

@[local simp] theorem moves_integer : Pattern.integer.Moves := Pattern.moves_of_kind .integer

@[local simp] theorem moves_hexadecimal : Pattern.hexadecimal.Moves :=
  Pattern.moves_of_kind .hexadecimal

@[local simp] theorem moves_decimal : Pattern.decimal.Moves := Pattern.moves_of_kind .decimal

theorem moves_firstKeyword {words : List String} (h : "" ∉ words) :
    ((words.map Rule.keyword).foldr Rule.alt Rule.never : Production).Moves := by
  induction words with
  | nil => trivial
  | cons word words ih =>
      rw [List.mem_cons, not_or] at h
      exact ⟨Ne.symm h.1, ih h.2⟩

theorem roundsMove_firstKeyword (words : List String) : Rule.Every Rule.RoundsMove
    ((words.map Rule.keyword).foldr Rule.alt Rule.never : Production) := by
  induction words with
  | nil => trivial
  | cons word words ih => exact ⟨trivial, trivial, ih⟩

theorem moves_oneOf (label : String) {words : List String} (build : Leaf.Builder)
    (h : "" ∉ words) : (oneOf label words build).Moves := by
  simp [oneOf, moves_firstKeyword h]

@[local simp] theorem roundsMove_oneOf (label : String) (words : List String)
    (build : Leaf.Builder) : (oneOf label words build).Every Rule.RoundsMove := by
  simp [oneOf, roundsMove_firstKeyword]

@[local simp] theorem moves_baseType : baseType.Moves := moves_oneOf _ _ (by decide)

@[local simp] theorem moves_containerType : containerType.Moves := by
  simp [containerType, mapType, setType, listType]

theorem moves_fieldType : fieldType.Moves := by simp [fieldType]

theorem moves_constant : constant.Moves := by simp [constant, constantList, constantMap]

theorem moves_field (options : BuildOptions) : (field options).Moves := by simp [field]

/-- What names stand for needs a token. -/
theorem moves_find? {options : BuildOptions} {name : String} {rule : Production}
    (h : find? options name = some rule) : rule.Moves := by
  unfold find? at h
  split at h
  · cases h
    exact moves_fieldType
  · cases h
    exact moves_constant
  · cases h
    exact moves_field options
  · cases h

@[local simp] theorem roundsMove_containerType : containerType.Every Rule.RoundsMove := by
  simp [containerType, mapType, setType, listType]

theorem roundsMove_fieldType : fieldType.Every Rule.RoundsMove := by simp [fieldType, baseType]

theorem roundsMove_constant : constant.Every Rule.RoundsMove := by
  simp [constant, constantList, constantMap, mapEntry]

theorem roundsMove_field (options : BuildOptions) : (field options).Every Rule.RoundsMove := by
  simp [field, fieldId, requiredness, attributes]

@[local simp] theorem roundsMove_function : function.Every Rule.RoundsMove := by
  simp [function, returnType, throws]

@[local simp] theorem roundsMove_header : header.Every Rule.RoundsMove := by
  simp [header, includeHeader, cppInclude, targetNamespace, phpNamespace, xsdNamespace,
    literalHeader, smalltalkCategory, smalltalkPrefix, scopedName, namespaceScope]

@[local simp] theorem roundsMove_definition (options : BuildOptions) :
    (definition options).Every Rule.RoundsMove := by
  simp [definition, const, typedef, definitionType, enum, enumValue, senum, struct, union,
    exception, service, function, baseType, returnType, throws]

/-- What is repeated in what names stand for needs a token. -/
theorem roundsMove_find? {options : BuildOptions} {name : String} {rule : Production}
    (h : find? options name = some rule) : rule.Every Rule.RoundsMove := by
  unfold find? at h
  split at h
  · cases h
    exact roundsMove_fieldType
  · cases h
    exact roundsMove_constant
  · cases h
    exact roundsMove_field options
  · cases h

@[local simp] theorem moves_header : header.Moves := by
  simp [header, includeHeader, cppInclude, targetNamespace, phpNamespace, xsdNamespace,
    literalHeader]

@[local simp] theorem moves_definition (options : BuildOptions) : (definition options).Moves := by
  simp [definition, const, typedef, enum, senum, struct, union, exception, service]

/-- What is repeated in a document needs a token. -/
theorem roundsMove_document (options : BuildOptions) :
    (document options).Every Rule.RoundsMove := by
  simp [document]

end Rounds

end Production

end ThriftSchema
