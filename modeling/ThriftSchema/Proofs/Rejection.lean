import ThriftSchema.Proofs.Assembly.Tame
import ThriftSchema.Proofs.Reading
import ThriftSchema.Proofs.Rule.Extent
import ThriftSchema.Proofs.Text.Lines
import ThriftSchema.Proofs.Text.Plain

set_option autoImplicit false

/-! # Where a text is rejected

The place of a rejection is an offset within the text without its comments. Its line and its
column are those of the offset, and the excerpt around it shows a part of the line, with a caret
below the character at the offset.

* `Production.measures_document`: the productions accept only what is ahead.
* `rejected_of_ofText`: the place is within the text.
* `rejection_locates`: line, column and excerpt agree with it.
-/

namespace ThriftSchema

open Text (InLine blankTab linesLength)

variable {limit : Nat}

/-! ## The productions accept what is ahead -/

namespace Pattern

theorem fits_layout : layout.Fits := by
  rintro cs n ⟨⟩
  exact (List.takeWhile_prefix _).length_le

end Pattern

namespace Production

attribute [local simp] Rule.Every Rule.Measures Rule.sequence Rule.firstOf word symbol spaced layout
  token ofPattern flagWord identifier dashedIdentifier literal integer hexadecimal double separator
  named ending opening fieldTypeRef constantRef fieldRef hint Pattern.fits_layout
  Pattern.fits_identifier Pattern.fits_dashedIdentifier Pattern.fits_literal Pattern.fits_integer
  Pattern.fits_hexadecimal Pattern.fits_decimal Pattern.fits_separator

theorem measures_firstKeyword (words : List String) :
    Rule.Every Rule.Measures ((words.map Rule.keyword).foldr Rule.alt Rule.never : Production) := by
  induction words with
  | nil => trivial
  | cons word words ih => exact ⟨trivial, trivial, ih⟩

@[local simp] theorem measures_oneOf (label : String) (words : List String)
    (build : Leaf.Builder) : (oneOf label words build).Every Rule.Measures := by
  simp [oneOf, measures_firstKeyword]

@[local simp] theorem measures_containerType : containerType.Every Rule.Measures := by
  simp [containerType, mapType, setType, listType]

theorem measures_fieldType : fieldType.Every Rule.Measures := by
  simp [fieldType, baseType]

theorem measures_constant : constant.Every Rule.Measures := by
  simp [constant, constantList, constantMap, mapEntry]

theorem measures_field (options : BuildOptions) : (field options).Every Rule.Measures := by
  simp [field, fieldId, requiredness, attributes]

@[local simp] theorem measures_function : function.Every Rule.Measures := by
  simp [function, returnType, throws]

@[local simp] theorem measures_header : header.Every Rule.Measures := by
  simp [header, includeHeader, cppInclude, targetNamespace, phpNamespace, xsdNamespace,
    literalHeader, smalltalkCategory, smalltalkPrefix, scopedName, namespaceScope]

@[local simp] theorem measures_definition (options : BuildOptions) :
    (definition options).Every Rule.Measures := by
  simp [definition, const, typedef, definitionType, enum, enumValue, senum, struct, union,
    exception, service, baseType]

theorem measures_document (options : BuildOptions) :
    (document options).Every Rule.Measures := by
  simp [document]

theorem measures_find? {options : BuildOptions} {name : String} {rule : Production}
    (h : find? options name = some rule) : rule.Every Rule.Measures := by
  unfold find? at h
  split at h
  · cases h
    exact measures_fieldType
  · cases h
    exact measures_constant
  · cases h
    exact measures_field options
  · cases h

end Production

/-! ## The place is within the text -/

theorem inside_documentResult (options : BuildOptions) (input : List Char) :
    (documentResult limit options input).state.Inside input.length := by
  have hnamed : ∀ name rule, (Production.rules options).find? name = some rule →
      rule.Every Rule.Fits := fun _ _ hfind =>
    (Production.measures_find? hfind).and ((Production.tame_find? hfind).mono fun _ h => h.stays)
  exact (Rule.ends_run _ _ _ _).inside hnamed
    ((Production.measures_document options).and
      ((Production.tame_document options).mono fun _ h => h.stays)) (.initial input)

/-- What the text of a document is rejected with, if it is. -/
def rejection? : Except Failure Document → Option Rejection
  | .error (.source (.rejected r)) => some r
  | _ => none

theorem rejection?_eq_some {result : Except Failure Document} {r : Rejection} :
    rejection? result = some r ↔ result = .error (.source (.rejected r)) := by
  unfold rejection?
  split
  · simp [eq_comm]
  · next hother =>
    simp only [reduceCtorEq, false_iff]
    exact hother r

/-- A text that is rejected is rejected at an offset within it. -/
theorem rejected_of_ofText {options : BuildOptions} {text : String} {source : Option String}
    {r : Rejection}
    (h : Document.ofText limit options text source = .error (.source (.rejected r))) :
    ∃ p ≤ (stripComments text).toList.length,
      r.toPlace = .ofOffset (stripComments text).toList (p : Nat) source := by
  have hends := readingEnds_ofText limit options text source
  rw [h] at hends
  generalize hread : Reader.document options limit (stripComments text).toList = read
    at hends
  cases hends with
  | rejected rejection =>
      rw [ofText_of_failed (outcome_of_failed hread)] at h
      cases h
      exact ⟨_, (inside_documentResult options (stripComments text).toList).furthest_le, rfl⟩

/-! ## What is shown of it -/

/-- What an excerpt at most `span` characters to each side of the offset `p` shows, which is in a
line behind the lines `front`: the part of the line, `shown`, with `k` characters in front of the
offset. -/
structure ShowsAround (cs : List Char) (p : Nat) (front : List (List Char)) (line : List Char)
    (span : Nat) (shown : List Char) (k : Nat) : Prop where
  of_text : shown = (cs.take (min (linesLength front + line.length) (p + span))).drop
    (max (linesLength front) (p - span))
  of_line : shown <:+: line
  caret : k = p - max (linesLength front) (p - span)
  caret_le : k ≤ span
  above_caret : 1 ≤ span → p < linesLength front + line.length →
    ∃ c, cs[p]? = some c ∧ (shown.map blankTab)[k]? = some (blankTab c)

theorem Text.InLine.shows {cs line : List Char} {p column : Nat} {front : List (List Char)}
    (h : InLine cs p front line column) (span : Nat) :
    ShowsAround cs p front line span
      ((cs.take (min (linesLength front + line.length) (p + span))).drop
        (max (linesLength front) (p - span)))
      (p - max (linesLength front) (p - span)) where
  of_text := rfl
  of_line := by
    rw [h.drop_take (Nat.le_max_left _ _) (Nat.min_le_left _ _)]
    exact (List.drop_suffix _ _).isInfix.trans (List.take_prefix _ _).isInfix
  caret := rfl
  caret_le := by omega
  above_caret hspan hp := by
    have hposition := h.position
    obtain ⟨hlength, hget⟩ : ∃ hlength : p < cs.length, cs[p]? = some cs[p] := by
      have hwithin := h.lineEnd_le
      exact ⟨by omega, List.getElem?_eq_getElem (by omega)⟩
    refine ⟨cs[p], hget, ?_⟩
    have hat :
        max (linesLength front) (p - span) + (p - max (linesLength front) (p - span)) = p := by
      omega
    rw [List.getElem?_map, List.getElem?_drop, hat, List.getElem?_take_of_lt (by omega), hget,
      Option.map_some]

/-- **Places are consistent.** The place of a rejection is an offset within the text without its
comments; its line and column, counted from one, are those of the line that the offset is in or
just behind. An excerpt shows the part of that line that is near enough, with each tab as one
space, and below it a caret under the character at the offset. -/
theorem rejection_locates {options : BuildOptions} {text : String} {source : Option String}
    {r : Rejection}
    (h : Document.ofText limit options text source = .error (.source (.rejected r))) :
    ∃ (p : Nat) (front : List (List Char)) (line : List Char) (column : Nat),
      r.position = p ∧ r.line = front.length + 1 ∧ r.column = column + 1 ∧
      p ≤ (stripComments text).toList.length ∧
      InLine (stripComments text).toList p front line column ∧
      ∀ span : Nat, ∃ shown k, ShowsAround (stripComments text).toList p front line span shown k ∧
        r.toPlace.excerpt (stripComments text) span = String.ofList
          (shown.map blankTab ++ '\n' :: (List.replicate k ' ' ++ ['^', '\n'])) := by
  obtain ⟨p, hp, hplace⟩ := rejected_of_ofText h
  obtain ⟨front, line, column, hline⟩ := Text.exists_inLine hp
  have hposition : r.position = p := congrArg Place.position hplace
  have hcolumns : (r.line, r.column) = ((front.length : Int) + 1, (column : Int) + 1) := by
    rw [← hline.lineColumn_eq]
    exact congrArg (fun place : Place => (place.line, place.column)) hplace
  obtain ⟨hlines, hcolumn⟩ := Prod.mk.inj hcolumns
  refine ⟨p, front, line, column, hposition, hlines, hcolumn, hp, hline, fun span => ?_⟩
  refine ⟨_, _, hline.shows span, ?_⟩
  rw [Place.excerpt, hposition]
  exact hline.excerpt_eq span

theorem rejection_locates_sample : ∃ r,
    Document.ofText 60 { } "struct S \x7b\n\t!" none = .error (.source (.rejected r)) ∧
      (∃ p front line column, r.position = (p : Nat) ∧ r.line = (front.length : Nat) + 1 ∧
        InLine "struct S \x7b\n\t!".toList p front line column ∧ r.column = column + 1) ∧
      r.line = 2 ∧ r.toPlace.excerpt "struct S \x7b\n\t!" 40 = " !\n ^\n" := by
  have hplain : Plain "struct S \x7b\n\t!".toList := .of_forall (by decide)
  have hstrip : stripComments "struct S \x7b\n\t!" = "struct S \x7b\n\t!" := by
    rw [stripComments, Comment.strip_of_plain hplain, String.ofList_toList]
  have hread : (rejection? (Document.ofText 60 { } "struct S \x7b\n\t!" none)).any
      (fun r => r.line = 2 ∧ r.toPlace.excerpt "struct S \x7b\n\t!" 40 = " !\n ^\n") = true := by
    unfold Document.ofText matchDocument
    rw [hstrip]
    decide +kernel
  obtain ⟨r, hrejected, hshown⟩ := (Option.any_eq_true _ _).1 hread
  have hresult := rejection?_eq_some.1 hrejected
  obtain ⟨hline, hexcerpt⟩ := of_decide_eq_true hshown
  obtain ⟨p, front, line, column, hposition, hfront, hcolumn, -, hin, -⟩ :=
    rejection_locates hresult
  rw [hstrip] at hin
  exact ⟨r, hresult, ⟨p, front, line, column, hposition, hfront, hin, hcolumn⟩, hline, hexcerpt⟩

end ThriftSchema
