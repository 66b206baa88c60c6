import ThriftSchema.Outline.Tree
import ThriftSchema.Proofs.Text.Escape
import ThriftSchema.Proofs.Number.Readback
import ThriftSchema.Proofs.Text.Quoted

set_option autoImplicit false

/-! # The shapes of outlines

What can stand in a field of a node depends on the kind of the node and the name of the field
alone. Names are inert, so that they can stand in a label in front of other fields; any text
stands in the last field of its node.

* `Outline.Shape`, `Outline.HasShape`: what can stand in a field.
* `Outline.nodeShapes`: the fields of all nodes.
* `Outline.ShownAs.eq_of_escape`: telling values by what labels show of them.
* `Outline.HiddenAs.eq`: of each shape there is one value that is not shown.
-/

namespace ThriftSchema.Outline

open Text

/-! ## Shapes -/

/-- What can stand in a field of a node, or as an item. -/
inductive Shape where
  /-- An inert text. -/
  | word
  | text
  | integer
  | double
  | flag
  | requiredness
  /-- An inert name, or a node. -/
  | part
  /-- A name that does not end in a single backslash. -/
  | name
  | tuple (item : Shape)
  | list (item : Shape)
  | optional (shape : Shape)
deriving DecidableEq

/-- The shape of what is not missing. -/
def Shape.present : Shape → Shape
  | optional shape => shape
  | shape => shape

/-- Whether a shape is that of texts which labels have to escape. -/
def Shape.isFree (shape : Shape) : Bool := shape.present == .text || shape.present == .name

/-- Whether a shape is that of items. -/
def Shape.isItem (shape : Shape) : Bool := shape == .part || shape == .text

/-- Whether what a shape holds has the shape of items. -/
def Shape.holdsItems : Shape → Bool
  | tuple item | list item => item.isItem
  | _ => true

/-- The fields of each kind of node with their shapes. -/
def nodeShapes : List (String × List (String × Shape)) := [
  ("BaseTypeNode", [("name", .word)]),
  ("MapTypeNode", [("key", .part), ("value", .part), ("cpp_type", .optional .text)]),
  ("SetTypeNode", [("element", .part), ("cpp_type", .optional .text)]),
  ("ListTypeNode", [("element", .part), ("cpp_type", .optional .text)]),
  ("IntConstNode", [("value", .integer)]),
  ("DoubleConstNode", [("value", .double)]),
  ("LiteralNode", [("value", .text)]),
  ("ConstListNode", [("values", .tuple .part)]),
  ("ConstMapNode", [("entries", .tuple .part)]),
  ("ConstMapEntryNode", [("key", .part), ("value", .part)]),
  ("FieldNode", [("field_type", .part), ("name", .word), ("field_id", .optional .integer),
    ("default", .optional .part), ("requiredness", .optional .requiredness),
    ("xsd_options", .optional .part)]),
  ("XsdFieldOptionsNode", [("optional", .flag), ("nillable", .flag), ("attributes", .tuple .part)]),
  ("ThrowsNode", [("fields", .tuple .part)]),
  ("VoidNode", []),
  ("FunctionNode", [("return_type", .part), ("name", .word), ("arguments", .tuple .part),
    ("throws", .optional .part), ("oneway", .flag)]),
  ("IncludeNode", [("path", .text)]),
  ("CppIncludeNode", [("path", .text)]),
  ("NamespaceNode", [("scope", .word), ("name", .part)]),
  ("PhpNamespaceNode", [("name", .name)]),
  ("XsdNamespaceNode", [("name", .name)]),
  ("SmalltalkCategoryNode", [("name", .part)]),
  ("SmalltalkPrefixNode", [("name", .part)]),
  ("EnumValueNode", [("name", .word), ("value", .optional .integer), ("auto_numbered", .flag)]),
  ("ConstNode", [("const_type", .part), ("name", .word), ("value", .part)]),
  ("TypedefNode", [("definition_type", .part), ("name", .word)]),
  ("EnumNode", [("name", .word), ("values", .tuple .part)]),
  ("SenumNode", [("name", .word), ("values", .tuple .text)]),
  ("StructNode", [("name", .word), ("fields", .tuple .part), ("xsd_all", .flag)]),
  ("UnionNode", [("name", .word), ("fields", .tuple .part), ("xsd_all", .flag)]),
  ("ExceptionNode", [("name", .word), ("fields", .tuple .part)]),
  ("ServiceNode", [("name", .word), ("extends", .optional .part), ("functions", .tuple .part)]),
  ("ThriftDocument", [("headers", .list .part), ("definitions", .list .part)])]

/-- Fields that a label keeps apart: their names are inert and differ, and only the last one can
hold what has to be escaped. Their items are parts or texts. -/
structure Legible (shapes : List (String × Shape)) : Prop where
  names : ∀ field ∈ shapes, IsInert field.1
  apart : shapes.Pairwise fun first later => first.1 ≠ later.1 ∧ first.2.isFree = false
  items : ∀ field ∈ shapes, field.2.holdsItems = true

theorem Legible.tail {field : String × Shape} {shapes : List (String × Shape)}
    (h : Legible (field :: shapes)) : Legible shapes :=
  ⟨(List.forall_mem_cons.1 h.names).2, (List.pairwise_cons.1 h.apart).2,
    (List.forall_mem_cons.1 h.items).2⟩

/-- The fields of each kind are legible, and its name is inert. -/
theorem legible_nodeShapes {kind : String} {shapes : List (String × Shape)}
    (h : nodeShapes.lookup kind = some shapes) : IsInert kind ∧ Legible shapes := by
  have hall : ∀ entry ∈ nodeShapes, IsInert entry.1 ∧ (∀ field ∈ entry.2, IsInert field.1) ∧
      entry.2.Pairwise (fun first later => first.1 ≠ later.1 ∧ first.2.isFree = false) ∧
      ∀ field ∈ entry.2, field.2.holdsItems = true := by
    decide +kernel
  obtain ⟨before, after, hsplit, -⟩ := List.lookup_eq_some_iff.1 h
  have hmem : (kind, shapes) ∈ nodeShapes := by
    rw [hsplit]
    exact List.mem_append_right _ List.mem_cons_self
  obtain ⟨hkind, hnames, hapart, hitems⟩ := hall _ hmem
  exact ⟨hkind, hnames, hapart, hitems⟩

/-! ## Outlines of a shape -/

mutual

/-- An outline has a shape. -/
def HasShape : Outline → Shape → Prop
  | absent, shape => ∃ other, shape = .optional other
  | .flag _, shape => shape = .flag
  | .integer _, shape => shape.present = .integer
  | .double value, shape => shape.present = .double ∧ value.code ≤ Number.Double.infinite
  | .text value, shape => shape.present = .text ∨ shape.present = .word ∧ IsInert value
  | .member type name word, shape =>
    shape.present = .requiredness ∧ ∃ r : Requiredness, r.outline = .member type name word
  | .node kind fields, shape =>
    (kind = "IdentifierNode" ∧ ∃ name, fields = [("name", .text name)] ∧
      (shape.present = .part ∧ IsInert name ∨
        shape.present = .name ∧ guardEnd name.toList = name.toList)) ∨
      kind ≠ "IdentifierNode" ∧ shape.present = .part ∧
        ∃ shapes, nodeShapes.lookup kind = some shapes ∧ FieldsHaveShapes fields shapes
  | .tuple items, shape => ∃ item, shape = .tuple item ∧ ItemsHaveShape items item
  | .list items, shape => ∃ item, shape = .list item ∧ ItemsHaveShape items item

/-- Fields have the names and shapes of a list. -/
def FieldsHaveShapes : List (String × Outline) → List (String × Shape) → Prop
  | [], [] => True
  | (name, value) :: fields, (name', shape) :: shapes =>
    name = name' ∧ HasShape value shape ∧ FieldsHaveShapes fields shapes
  | _, _ => False

/-- All items have a shape. -/
def ItemsHaveShape : List Outline → Shape → Prop
  | [], _ => True
  | item :: items, shape => HasShape item shape ∧ ItemsHaveShape items shape

end

/-! ## What labels show of a value -/

/-- A text that is no part of the markup of a label: there are no blanks, brackets and backslashes
in it. -/
def IsSolid (text : String) : Prop := ∀ c ∈ text.toList, c ≠ ' ' ∧ c ≠ '[' ∧ c ≠ '\\'

theorem IsSolid.of_forall {text : String} {p : Char → Bool} (h : ∀ c ∈ text.toList, p c = true)
    (hp : p ' ' = false ∧ p '[' = false ∧ p '\\' = false) : IsSolid text := by
  intro c hc
  have hmem := h c hc
  refine ⟨?_, ?_, ?_⟩ <;> rintro rfl <;> simp [hp] at hmem

/-- The values of a shape that labels show. -/
inductive ShownAs : Shape → Outline → Prop
  | flag : ShownAs .flag (.flag true)
  | integer (value : Int) : ShownAs .integer (.integer value)
  | double {value : Number.Double} (h : value.code ≤ Number.Double.infinite) :
      ShownAs .double (.double value)
  | text (value : String) : ShownAs .text (.text value)
  | word {value : String} (h : IsInert value) : ShownAs .word (.text value)
  | requiredness (r : Requiredness) : ShownAs .requiredness r.outline
  | part {name : String} (h : IsInert name) : ShownAs .part (.identifier name)
  | name {name : String} (h : guardEnd name.toList = name.toList) :
      ShownAs .name (.identifier name)

namespace HasShape

variable {value value' : Outline} {shape : Shape}

theorem shownAs (h : value.HasShape shape) (hinline : value.isInline = true) :
    ShownAs shape.present value := by
  cases value with
  | absent | tuple items | list items => cases hinline
  | flag value =>
      obtain rfl : value = true := hinline
      obtain rfl : shape = .flag := h
      exact .flag
  | integer value =>
      have hshape : shape.present = .integer := h
      rw [hshape]
      exact .integer value
  | double value =>
      obtain ⟨hshape, hcode⟩ := h
      rw [hshape]
      exact .double hcode
  | text value =>
      rcases h with hshape | ⟨hshape, hinert⟩
      · rw [hshape]
        exact .text value
      · rw [hshape]
        exact .word hinert
  | member type name word =>
      obtain ⟨hshape, r, hr⟩ := h
      rw [hshape, ← hr]
      exact .requiredness r
  | node kind fields =>
      rcases h with ⟨rfl, name, rfl, ⟨hshape, hinert⟩ | ⟨hshape, hguard⟩⟩ | ⟨hkind, -⟩
      · rw [hshape]
        exact .part hinert
      · rw [hshape]
        exact .name hguard
      · rw [isInline, isIdentifier] at hinline
        · cases hinline
        · exact fun _ heq => hkind (node.inj heq).1

end HasShape

namespace ShownAs

variable {value value' : Outline} {shape : Shape}

/-- Before the last field of a node, labels show what they need not escape. -/
theorem isSolid (h : ShownAs shape value) (hfree : shape ≠ .text ∧ shape ≠ .name) :
    IsSolid value.inlineText := by
  cases h with
  | flag => exact .of_forall (p := isInertChar) (by decide) (by decide)
  | integer value => exact .of_forall (Number.Double.isTextChar_of_mem_toString value) (by decide)
  | double => exact .of_forall (Number.Double.isTextChar_of_mem_text _) (by decide)
  | text => exact absurd rfl hfree.1
  | word h =>
      refine .of_forall (p := fun c => isInertChar c || c == singleMark) (fun c hc => ?_)
        (by decide)
      have hquoted : (inlineText (.text _)).toList = _ := quote_of_inert h
      simp only [hquoted, List.mem_append, List.mem_cons, List.not_mem_nil, or_false] at hc
      rcases hc with (rfl | hc) | rfl
      · rfl
      · rw [h c hc, Bool.true_or]
      · rfl
  | requiredness r => cases r <;> exact .of_forall (p := isInertChar) (by decide) (by decide)
  | part h => exact .of_forall h (by decide)
  | name => exact absurd rfl hfree.2

/-- At the end of what labels show, escaping doubles no backslash. -/
theorem guardEnd_inlineText (h : ShownAs shape value) :
    guardEnd value.inlineText.toList = value.inlineText.toList := by
  by_cases hfree : shape ≠ .text ∧ shape ≠ .name
  · exact guardEnd_of_ne fun hlast =>
      (h.isSolid hfree _ (List.mem_of_getLast? hlast)).2.2 rfl
  · cases h with
    | text value =>
        refine guardEnd_of_ne ?_
        have hlast : (inlineText (.text value)).toList.getLast? = _ := getLast?_quote value
        rw [hlast]
        rcases quoteMark_eq value.toList with hmark | hmark <;> rw [hmark] <;> decide
    | name hguard => exact hguard
    | _ => exact absurd ⟨nofun, nofun⟩ hfree

/-- A value can be told from what labels show of it. -/
theorem eq_of_escape (h : ShownAs shape value) (h' : ShownAs shape value')
    (htext : escape value.inlineText = escape value'.inlineText) : value = value' := by
  have hinline : value.inlineText = value'.inlineText := by
    rw [escape_eq_escape_iff, h.guardEnd_inlineText, h'.guardEnd_inlineText] at htext
    exact String.toList_inj.1 htext
  cases h with
  | flag =>
      cases h'
      rfl
  | integer n =>
      cases h' with
      | integer m => exact congrArg Outline.integer (Number.eq_of_toString hinline)
  | double h =>
      cases h' with
      | double h' => exact congrArg Outline.double (Number.Double.text_injective h h' hinline)
  | text value =>
      cases h' with
      | text value' => exact congrArg Outline.text (quote_injective hinline)
  | word =>
      cases h' with
      | word => exact congrArg Outline.text (quote_injective hinline)
  | requiredness r =>
      cases h' with
      | requiredness r' => cases r <;> cases r' <;> first | rfl | exact absurd hinline (by decide)
  | part =>
      cases h' with
      | part => exact congrArg Outline.identifier hinline
  | name =>
      cases h' with
      | name => exact congrArg Outline.identifier hinline

end ShownAs

/-! ## What is not shown -/

/-- Whether neither a label nor a branch shows a value. -/
def isHidden : Outline → Bool
  | absent => true
  | .flag value => !value
  | .tuple items | .list items => items.isEmpty
  | _ => false

/-- The values of a shape that are not shown. -/
inductive HiddenAs : Shape → Outline → Prop
  | absent (shape : Shape) : HiddenAs (.optional shape) absent
  | flag : HiddenAs .flag (.flag false)
  | tuple (item : Shape) : HiddenAs (.tuple item) (.tuple [])
  | list (item : Shape) : HiddenAs (.list item) (.list [])

theorem HasShape.hiddenAs {value : Outline} {shape : Shape} (h : value.HasShape shape)
    (hhidden : value.isHidden = true) : HiddenAs shape value := by
  cases value with
  | integer | double | text | member | node => cases hhidden
  | absent =>
      obtain ⟨other, rfl⟩ := h
      exact .absent other
  | flag value =>
      obtain rfl : shape = .flag := h
      obtain rfl : value = false := by simpa [isHidden] using hhidden
      exact .flag
  | tuple items =>
      obtain ⟨item, rfl, -⟩ := h
      obtain rfl := List.isEmpty_iff.1 hhidden
      exact .tuple item
  | list items =>
      obtain ⟨item, rfl, -⟩ := h
      obtain rfl := List.isEmpty_iff.1 hhidden
      exact .list item

/-- Of each shape there is only one value that is not shown. -/
theorem HiddenAs.eq {value value' : Outline} {shape : Shape} (h : HiddenAs shape value)
    (h' : HiddenAs shape value') : value = value' := by
  cases h <;> cases h' <;> rfl

end ThriftSchema.Outline
