import ThriftSchema.Outline.Import

set_option autoImplicit false

/-! # Nothing is lost in the export

The export of every part of a document is read back as that part: types, constants and fields by
induction, headers and definitions kind by kind. So documents with equal exports are equal.

* `FieldType.ofJson?_toJson`, `ConstValue.ofJson?_toJson`, `Field.ofJson?_toJson`: the parts that
  hold parts of their own kind.
* `Function.ofJson?_toJson`, `Header.ofJson?_toJson`, `Definition.ofJson?_toJson`: the parts of a
  document.
* `export_reads_back`: the whole document.
-/

namespace ThriftSchema

open Outline (ofText? ofInteger? ofOption)

/-! ## Plain values -/

theorem asText?_toJson (text : Option String) : (ofText? text).toJson.asText? = some text := by
  cases text <;> rfl

theorem asInteger?_toJson (n : Option Int) : (ofInteger? n).toJson.asInteger? = some n := by
  cases n <;> rfl

theorem identifier?_toJson (name : String) :
    (Outline.identifier name).toJson.identifier? = some name := rfl

/-- What may be missing is read back if no export of a part is `null`. -/
theorem asOption?_toJson {α : Type} {outline : α → Outline} {read : Json → Option α}
    {value : Option α} (hnull : ∀ a, (outline a).toJson ≠ .null)
    (hread : ∀ a ∈ value, read (outline a).toJson = some a) :
    (ofOption outline value).toJson.asOption? read = some value := by
  cases value with
  | none => rfl
  | some a =>
      show ((outline a).toJson).asOption? read = some (some a)
      have ha := hread a rfl
      have hne := hnull a
      generalize (outline a).toJson = json at ha hne
      cases json with
      | null => exact absurd rfl hne
      | _ => exact congrArg (Option.map some) ha

theorem itemsToJson_map {α : Type} (outline : α → Outline) (items : List α) :
    itemsToJson (items.map outline) = items.map fun item => (outline item).toJson := by
  induction items with
  | nil => rfl
  | cons item items ih => rw [List.map_cons, itemsToJson, ih, List.map_cons]

/-- Items are read back one by one. -/
theorem mapM_toJson {α : Type} {outline : α → Outline} {read : Json → Option α}
    (hread : ∀ item, read (outline item).toJson = some item) (items : List α) :
    (itemsToJson (items.map outline)).mapM read = some items := by
  rw [itemsToJson_map]
  induction items with
  | nil => rfl
  | cons item items ih =>
      rw [List.map_cons, List.mapM_cons, hread, ih]
      rfl

/-! ## Types and constants -/

theorem FieldType.ofJson?_toJson (type : FieldType) : ofJson? type.outline.toJson = some type := by
  induction type with
  | named name | base name => rfl
  | map key value hint ihKey ihValue =>
      simp [outline, Outline.toJson, fieldsToJson, ofJson?, ihKey, ihValue, asText?_toJson]
  | set element hint ih | list element hint ih =>
      simp [outline, Outline.toJson, fieldsToJson, ofJson?, ih, asText?_toJson]

mutual

theorem ConstValue.ofJson?_toJson (value : ConstValue) :
    ConstValue.ofJson? value.outline.toJson = some value := by
  cases value with
  | integer value | double value | literal text | reference name => rfl
  | list values =>
      have ih := constsOfJson?_toJson values
      simp [ConstValue.outline, Outline.toJson, fieldsToJson, ConstValue.ofJson?, ih]
  | map entries =>
      have ih := entriesOfJson?_toJson entries
      simp [ConstValue.outline, Outline.toJson, fieldsToJson, ConstValue.ofJson?, ih]

theorem constsOfJson?_toJson (values : List ConstValue) :
    constsOfJson? (itemsToJson (constOutlines values)) = some values := by
  cases values with
  | nil => rfl
  | cons value values =>
      have ih := ConstValue.ofJson?_toJson value
      have ihRest := constsOfJson?_toJson values
      simp [constOutlines, itemsToJson, constsOfJson?, ih, ihRest]

theorem entriesOfJson?_toJson (entries : List (ConstValue × ConstValue)) :
    entriesOfJson? (itemsToJson (entryOutlines entries)) = some entries := by
  match entries with
  | [] => rfl
  | (key, value) :: entries =>
      have ihKey := ConstValue.ofJson?_toJson key
      have ihValue := ConstValue.ofJson?_toJson value
      have ihRest := entriesOfJson?_toJson entries
      simp [entryOutlines, itemsToJson, Outline.toJson, fieldsToJson, entriesOfJson?, ihKey,
        ihValue, ihRest]

end

theorem ConstValue.toJson_ne_null (value : ConstValue) : value.outline.toJson ≠ .null := by
  cases value <;> exact nofun

/-! ## Fields and functions -/

theorem Requiredness.ofJson?_toJson (requiredness : Requiredness) :
    ofJson? requiredness.outline.toJson = some requiredness := by
  cases requiredness <;> rfl

theorem Requiredness.toJson_ne_null (requiredness : Requiredness) :
    requiredness.outline.toJson ≠ .null := by
  cases requiredness <;> exact nofun

mutual

theorem Field.ofJson?_toJson (f : Field) : Field.ofJson? f.outline.toJson = some f := by
  match f with
  | ⟨type, name, id, default, requiredness, exported⟩ =>
      have htype := type.ofJson?_toJson
      have hdefault : (ofOption ConstValue.outline default).toJson.asOption? ConstValue.ofJson? =
          some default :=
        asOption?_toJson ConstValue.toJson_ne_null fun value _ => value.ofJson?_toJson
      have hrequiredness :
          (ofOption Requiredness.outline requiredness).toJson.asOption? Requiredness.ofJson? =
            some requiredness :=
        asOption?_toJson Requiredness.toJson_ne_null fun value _ => value.ofJson?_toJson
      have hexported := exportedOfJson?_toJson exported
      simp [Field.outline, Outline.toJson, fieldsToJson, Field.ofJson?, htype, asInteger?_toJson,
        hdefault, hrequiredness, hexported]

theorem exportedOfJson?_toJson (exported : Option (ExportOptions Field)) :
    exportedOfJson? (exportedOutline exported).toJson = some exported := by
  match exported with
  | none => rfl
  | some ⟨optional, nillable, attributes⟩ =>
      have ih := fieldsOfJson?_toJson attributes
      simp [exportedOutline, Outline.toJson, fieldsToJson, exportedOfJson?, ih]

theorem fieldsOfJson?_toJson (fields : List Field) :
    fieldsOfJson? (itemsToJson (fieldOutlines fields)) = some fields := by
  match fields with
  | [] => rfl
  | field :: fields =>
      have ih := Field.ofJson?_toJson field
      have ihRest := fieldsOfJson?_toJson fields
      simp [fieldOutlines, itemsToJson, fieldsOfJson?, ih, ihRest]

end

theorem throwsOfJson?_toJson (fields : List Field) :
    throwsOfJson? (throwsOutline fields).toJson = some fields := by
  simp [throwsOutline, Outline.toJson, fieldsToJson, throwsOfJson?, fieldsOfJson?_toJson]

theorem ReturnType.ofJson?_toJson (returns : ReturnType) :
    ofJson? returns.outline.toJson = some returns := by
  cases returns with
  | void => rfl
  | type type =>
      have htype := type.ofJson?_toJson
      -- the export of a type is not that of `void`, since it has fields
      cases type <;> exact congrArg (Option.map ReturnType.type) htype

theorem Function.ofJson?_toJson (f : Function) : ofJson? f.outline.toJson = some f := by
  obtain ⟨returns, name, arguments, throws, oneway⟩ := f
  have hreturns := returns.ofJson?_toJson
  have harguments := fieldsOfJson?_toJson arguments
  have hthrows : (ofOption throwsOutline throws).toJson.asOption? throwsOfJson? = some throws :=
    asOption?_toJson (fun _ => nofun) fun fields _ => throwsOfJson?_toJson fields
  simp [outline, Outline.toJson, fieldsToJson, ofJson?, hreturns, harguments, hthrows]

/-! ## Headers and definitions -/

theorem Header.ofJson?_toJson (h : Header) : ofJson? h.outline.toJson = some h := by
  cases h <;> rfl

theorem EnumValue.ofJson?_toJson (v : EnumValue) : ofJson? v.outline.toJson = some v := by
  simp [outline, Outline.toJson, fieldsToJson, ofJson?, asInteger?_toJson]

theorem Definition.ofJson?_toJson (d : Definition) : ofJson? d.outline.toJson = some d := by
  cases d with
  | const type name value =>
      simp [outline, kind, outlineFields, Outline.toJson, fieldsToJson, ofJson?,
        type.ofJson?_toJson, value.ofJson?_toJson]
  | typedef type name =>
      simp [outline, kind, outlineFields, Outline.toJson, fieldsToJson, ofJson?,
        type.ofJson?_toJson]
  | enum name values =>
      have hvalues := mapM_toJson EnumValue.ofJson?_toJson values
      simp [outline, kind, outlineFields, Outline.toJson, fieldsToJson, ofJson?, hvalues]
  | senum name values =>
      have hvalues : (itemsToJson (values.map Outline.text)).mapM Json.text? = some values :=
        mapM_toJson (fun _ => rfl) values
      simp [outline, kind, outlineFields, Outline.toJson, fieldsToJson, ofJson?, hvalues]
  | struct name fields exportAll | union name fields exportAll | exception name fields =>
      simp [outline, kind, outlineFields, Outline.toJson, fieldsToJson, ofJson?,
        fieldsOfJson?_toJson]
  | service name parent functions =>
      have hparent : (ofOption Outline.identifier parent).toJson.asOption? Json.identifier? =
          some parent := asOption?_toJson (fun _ => nofun) fun name _ => identifier?_toJson name
      have hfunctions := mapM_toJson Function.ofJson?_toJson functions
      simp [outline, kind, outlineFields, Outline.toJson, fieldsToJson, ofJson?, hparent,
        hfunctions]

/-! ## Documents -/

/-- **The export loses nothing.** The export of every document is read back as that document, so
that documents with equal exports are equal. -/
theorem export_reads_back :
    (∀ d : Document, Document.ofJson? d.toJson = some d) ∧
    ∀ d e : Document, d.toJson = e.toJson → d = e := by
  have hread : ∀ d : Document, Document.ofJson? d.toJson = some d := by
    rintro ⟨headers, definitions⟩
    have hheaders := mapM_toJson Header.ofJson?_toJson headers
    have hdefinitions := mapM_toJson Definition.ofJson?_toJson definitions
    simp [Document.toJson, Document.outline, Outline.toJson, fieldsToJson, Document.ofJson?,
      hheaders, hdefinitions]
  refine ⟨hread, fun d e h => ?_⟩
  have hd := hread d
  rw [h, hread e] at hd
  exact (Option.some.inj hd).symm

/-- A field with a requiredness and an attribute of its own. -/
def exportSample : Document :=
  ⟨[.phpNamespace "a"], [.struct "S" [⟨.list (.named "b") none, "f", some 1, some (.list []),
    some .optional, some ⟨true, false, [⟨.base "i32", "g", none, none, none, none⟩]⟩⟩] false]⟩

theorem export_reads_back_sample :
    Document.ofJson? exportSample.toJson = some exportSample ∧
      (exportSample.merge .empty).toJson = exportSample.toJson ∧
      exportSample.merge .empty = exportSample := by
  have hexport : (exportSample.merge .empty).toJson = exportSample.toJson := rfl
  exact ⟨export_reads_back.1 exportSample, hexport, export_reads_back.2 _ _ hexport⟩

end ThriftSchema
