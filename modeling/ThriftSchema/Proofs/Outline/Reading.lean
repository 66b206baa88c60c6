import ThriftSchema.Proofs.Outline.Shape
import ThriftSchema.Proofs.Reading

set_option autoImplicit false

/-! # The outlines of what is read

Every part that a reader gives has an outline of its shape: names are inert since they are read
off names, and doubles are at most infinite since they are read off decimals. Only the names of
the namespaces that are read off literals can be any text. Labels double a single backslash at
the end of such a name, so it is taken as doubled.

* `Document.guarded`: a document with these names as labels show them.
* `Gives`: what holds of all that a reader gives, with one rule for each way of putting readers
  together.
* `isShaped_of_ofText`: the outline of a document that is read.
-/

namespace ThriftSchema

open Outline Text

variable {α β : Type}

/-! ## Shapes of values -/

namespace Outline

variable {kind name value : String} {items : List Outline} {fields : List (String × Outline)}
  {shape : Shape} {shapes : List (String × Shape)}

theorem FieldsHaveShapes.nil : FieldsHaveShapes [] [] := trivial

theorem FieldsHaveShapes.cons {value : Outline} (h : value.HasShape shape)
    (hfields : FieldsHaveShapes fields shapes) :
    FieldsHaveShapes ((name, value) :: fields) ((name, shape) :: shapes) := ⟨rfl, h, hfields⟩

theorem HasShape.node (hkind : nodeShapes.lookup kind = some shapes)
    (h : FieldsHaveShapes fields shapes) : (node kind fields).HasShape .part := by
  refine .inr ⟨?_, rfl, shapes, hkind, h⟩
  rintro rfl
  have hnone : nodeShapes.lookup "IdentifierNode" = none := by decide +kernel
  rw [hnone] at hkind
  cases hkind

theorem HasShape.identifier (h : IsInert name) : (identifier name).HasShape .part :=
  .inl ⟨rfl, name, rfl, .inl ⟨rfl, h⟩⟩

theorem HasShape.word (h : IsInert value) : (text value).HasShape .word := .inr ⟨rfl, h⟩

theorem HasShape.text (value : String) : (text value).HasShape .text := .inl rfl

theorem hasShape_ofText? (value : Option String) : (ofText? value).HasShape (.optional .text) := by
  cases value with
  | none => exact ⟨_, rfl⟩
  | some value => exact .inl rfl

theorem hasShape_ofInteger? (value : Option Int) :
    (ofInteger? value).HasShape (.optional .integer) := by
  cases value with
  | none => exact ⟨_, rfl⟩
  | some value => exact rfl

/-- A part may also be missing. -/
theorem HasShape.optional {value : Outline} (h : value.HasShape .part) :
    value.HasShape (.optional .part) := by
  cases value with
  | absent => exact ⟨_, rfl⟩
  | node kind fields => exact h
  | flag | integer => cases h
  | double => cases h.1
  | text => rcases h with h | ⟨h, -⟩ <;> cases h
  | member => cases h.1
  | tuple | list =>
      obtain ⟨item, h, -⟩ := h
      cases h

theorem hasShape_ofOption {outline : α → Outline} {o : Option α}
    (h : ∀ a ∈ o, (outline a).HasShape .part) :
    (ofOption outline o).HasShape (.optional .part) := by
  cases o with
  | none => exact ⟨_, rfl⟩
  | some a => exact (h a rfl).optional

theorem itemsHaveShape_map {outline : α → Outline} {as : List α}
    (h : ∀ a ∈ as, (outline a).HasShape shape) : ItemsHaveShape (as.map outline) shape := by
  induction as with
  | nil => exact trivial
  | cons a as ih =>
      obtain ⟨ha, has⟩ := List.forall_mem_cons.1 h
      exact ⟨ha, ih has⟩

theorem HasShape.tuple (h : ItemsHaveShape items shape) :
    (tuple items).HasShape (.tuple shape) := ⟨shape, rfl, h⟩

theorem HasShape.list (h : ItemsHaveShape items shape) :
    (list items).HasShape (.list shape) := ⟨shape, rfl, h⟩

end Outline

/-! ## Lists of parts -/

theorem constOutlines_eq (values : List ConstValue) :
    constOutlines values = values.map ConstValue.outline := by
  induction values with
  | nil => rfl
  | cons value values ih => rw [constOutlines, ih, List.map_cons]

theorem fieldOutlines_eq (fields : List Field) :
    fieldOutlines fields = fields.map Field.outline := by
  induction fields with
  | nil => rfl
  | cons field fields ih => rw [fieldOutlines, ih, List.map_cons]

/-- The outline of a map entry. -/
def entryOutline (entry : ConstValue × ConstValue) : Outline :=
  node "ConstMapEntryNode" [("key", entry.1.outline), ("value", entry.2.outline)]

theorem entryOutlines_eq (entries : List (ConstValue × ConstValue)) :
    entryOutlines entries = entries.map entryOutline := by
  induction entries with
  | nil => rfl
  | cons entry entries ih => rw [entryOutlines, ih, List.map_cons, entryOutline]

/-! ## Namespace names as labels show them -/

/-- A text with a single backslash at its end doubled. -/
def Text.guarded (text : String) : String := String.ofList (guardEnd text.toList)

/-- A header with the name of a namespace as labels show it. -/
def Header.guarded : Header → Header
  | .phpNamespace name => .phpNamespace (Text.guarded name)
  | .xsdNamespace name => .xsdNamespace (Text.guarded name)
  | header => header

/-- A document with the names of namespaces as labels show them. -/
def Document.guarded (d : Document) : Document := ⟨d.headers.map Header.guarded, d.definitions⟩

theorem Text.guardEnd_guardEnd (cs : List Char) : guardEnd (guardEnd cs) = guardEnd cs := by
  by_cases hlast : cs.getLast? = some '\\'
  · obtain ⟨ds, rfl⟩ := List.getLast?_eq_some_iff.1 hlast
    have hdouble : ∀ ds : List Char, guardEnd (ds ++ ['\\', '\\']) = ds ++ ['\\', '\\'] := by
      intro ds
      rw [List.append_cons, guardEnd_concat, if_pos (by simp)]
    rw [guardEnd_concat]
    split
    · next hbefore => rw [guardEnd_concat, if_pos hbefore]
    · exact hdouble ds
  · rw [guardEnd_of_ne hlast, guardEnd_of_ne hlast]

/-- The documents whose parts have outlines of their shapes. -/
structure Document.IsShaped (d : Document) : Prop where
  headers : ∀ header ∈ d.headers, header.guarded.outline.HasShape .part
  definitions : ∀ definition ∈ d.definitions, definition.outline.HasShape .part

namespace Document

theorem IsShaped.merge {d e : Document} (hd : d.IsShaped) (he : e.IsShaped) :
    (d.merge e).IsShaped :=
  ⟨List.forall_mem_append.2 ⟨hd.headers, he.headers⟩,
    List.forall_mem_append.2 ⟨hd.definitions, he.definitions⟩⟩

theorem IsShaped.hasShape {d : Document} (h : d.IsShaped) :
    d.guarded.outline.HasShape .part := by
  have hheaders : ∀ header ∈ d.guarded.headers, header.outline.HasShape .part := by
    intro header hmem
    obtain ⟨header, hheader, rfl⟩ := List.mem_map.1 hmem
    exact h.headers header hheader
  exact .node rfl <| .cons (.list (itemsHaveShape_map hheaders)) <|
    .cons (.list (itemsHaveShape_map h.definitions)) .nil

end Document

/-! ## Trees of guarded documents -/

theorem Text.escape_guarded (text : String) : escape (guarded text) = escape text := by
  rw [escape_eq_escape_iff, guarded, String.toList_ofList, guardEnd_guardEnd]

theorem Header.tree_guarded (header : Header) :
    header.guarded.outline.tree = header.outline.tree := by
  have htree : ∀ kind name, isIdentifier (node kind [("name", identifier name)]) = false →
      tree (node kind [("name", identifier name)]) =
        .node (" ".intercalate ["[bold]" ++ kind ++ "[/bold]", "name=" ++ escape name]) [] := by
    intro kind name hnode
    rw [tree, if_neg (Bool.eq_false_iff.1 hnode)]
    rfl
  cases header with
  | phpNamespace name | xsdNamespace name =>
      refine (htree _ _ rfl).trans (Eq.trans ?_ (htree _ _ rfl).symm)
      rw [escape_guarded]
      rfl
  | _ => rfl

theorem Outline.itemTrees_map (outline : α → Outline) (as : List α) :
    itemTrees (as.map outline) = as.map fun a => (outline a).tree := by
  induction as with
  | nil => rfl
  | cons a as ih => rw [List.map_cons, itemTrees, ih, List.map_cons]

/-- A branch for a list is told by the trees of its items. -/
theorem Outline.fieldTrees_list {name : String} {items items' : List Outline}
    {fields : List (String × Outline)} (h : itemTrees items = itemTrees items') :
    fieldTrees ((name, .list items) :: fields) = fieldTrees ((name, .list items') :: fields) := by
  cases items with
  | nil =>
      cases items' with
      | nil => rfl
      | cons item' items' => cases h
  | cons item items =>
      cases items' with
      | nil => cases h
      | cons item' items' => rw [fieldTrees, fieldTrees, h]

/-- The tree of a document shows the names of namespaces as labels show them. -/
theorem Document.tree_guarded (d : Document) : d.guarded.tree = d.tree := by
  have hheaders : itemTrees (d.guarded.headers.map Header.outline) =
      itemTrees (d.headers.map Header.outline) := by
    rw [itemTrees_map, itemTrees_map, guarded, List.map_map]
    exact List.map_congr_left fun header _ => header.tree_guarded
  exact congrArg (Tree.node _) (fieldTrees_list hheaders)

/-! ## What readers give -/

/-- All that a reader gives has a property. -/
def Gives (p : PartReader α) (P : α → Prop) : Prop :=
  ∀ ⦃input rest : List Char⦄ ⦃a : α⦄, p input = .read a rest → P a

namespace Gives

variable {p q : PartReader α} {f : α → PartReader β} {P : α → Prop} {Q : β → Prop}

theorem pure {a : α} (h : P a) : Gives (Pure.pure a) P := by
  intro input rest b hread
  cases hread
  exact h

theorem fail : Gives (Reader.fail : PartReader α) P := fun _ _ _ h => by cases h

theorem stop {why : Stop BuildError} : Gives (Reader.stop why : PartReader α) P :=
  fun _ _ _ h => by cases h

theorem bind (hp : Gives p P) (hf : ∀ a, P a → Gives (f a) Q) : Gives (p >>= f) Q := by
  intro input rest b h
  obtain ⟨a, middle, hread, hrest⟩ := Reader.bind_eq_read.1 h
  exact hf a (hp hread) hrest

/-- A reader whose value does not matter. -/
theorem skip (hf : ∀ a, Gives (f a) Q) : Gives (p >>= f) Q :=
  bind (P := fun _ => True) (fun _ _ _ _ => trivial) fun a _ => hf a

theorem map {g : α → β} (hp : Gives p P) (h : ∀ a, P a → Q (g a)) :
    Gives (p >>= fun a => Pure.pure (g a)) Q := hp.bind fun a ha => pure (h a ha)

theorem orElse (hp : Gives p P) (hq : Gives q P) : Gives (p <|> q) P := by
  intro input rest a h
  rcases Reader.orElse_eq_read.1 h with h | ⟨-, h⟩
  · exact hp h
  · exact hq h

theorem optional (hp : Gives p P) : Gives (Reader.optional p) fun o => ∀ a ∈ o, P a := by
  intro input rest o h
  rcases Reader.optional_eq_read.1 h with ⟨a, rfl, hread⟩ | ⟨rfl, -, -⟩
  · intro b hb
    obtain rfl := Option.mem_some_iff.1 hb
    exact hp hread
  · exact nofun

theorem manyWithin (hp : Gives p P) (bound : List Char) :
    Gives (Reader.manyWithin p bound) fun as => ∀ a ∈ as, P a := by
  induction bound with
  | nil => exact stop
  | cons c bound ih =>
      intro input rest as h
      rcases Reader.manyWithin_eq_read.1 h with
        ⟨-, rfl, -⟩ | ⟨a, middle, hread, ⟨-, rfl, -⟩ | ⟨-, bs, hmore, rfl⟩⟩
      · exact List.forall_mem_nil _
      · exact List.forall_mem_singleton.2 (hp hread)
      · exact List.forall_mem_cons.2 ⟨hp hread, ih hmore⟩

theorem many (hp : Gives p P) : Gives (Reader.many p) fun as => ∀ a ∈ as, P a :=
  fun _ _ _ h => manyWithin hp _ h

/-! ## Tokens -/

theorem spaced (hp : Gives p P) : Gives (Reader.spaced p) P :=
  hp.bind fun _ ha => skip fun _ => pure ha

theorem isInert_of_isSpelled {cs : List Char} (h : ∀ c ∈ cs, isSpelled c = true) :
    IsInert (String.ofList cs) := by
  intro c hc
  rw [String.toList_ofList] at hc
  rw [isInertChar, h c hc, Bool.true_or]

theorem identifier : Gives Reader.identifier IsInert := by
  refine (spaced (P := fun cs => ∀ c ∈ cs, isSpelled c = true) fun _ _ _ h => ?_).map
    fun _ => isInert_of_isSpelled
  obtain ⟨-, hname, -⟩ := Reader.identifier_measured.1 h
  exact isSpelled_of_isWord (fun _ => isSpelled_of_isNameChar) hname

theorem dashedIdentifier : Gives Reader.dashedIdentifier IsInert := by
  refine (spaced (P := fun cs => ∀ c ∈ cs, isSpelled c = true) fun _ _ _ h => ?_).map
    fun _ => isInert_of_isSpelled
  obtain ⟨-, hname, -⟩ := Reader.dashedIdentifier_measured.1 h
  exact isSpelled_of_isWord (fun _ => isSpelled_of_isDashedNameChar) hname

theorem oneOf {words : List String} (h : ∀ text ∈ words, IsInert text) :
    Gives (Reader.oneOf words) IsInert :=
  spaced fun _ _ _ hread => h _ (Reader.firstKeyword_eq_read hread).1

theorem double : Gives Reader.double fun value => value.code ≤ Number.Double.infinite := by
  refine (spaced (P := IsDecimal) fun _ _ _ h => (Reader.decimal_measured h).2.1).bind
    fun cs hcs => ?_
  obtain ⟨negative, digits, exponent, hread⟩ := Number.exists_read_eq_ofDecimal hcs
  rw [Reader.doubleValue, hread]
  exact pure (Number.Double.code_ofDecimal_le negative digits exponent)

/-! ## Types -/

/-- An outline that a field or an item of a node can be. -/
abbrev IsPart (outline : α → Outline) (a : α) : Prop := (outline a).HasShape .part

theorem containerType {type : PartReader FieldType} (h : Gives type (IsPart FieldType.outline)) :
    Gives (Reader.containerType type) (IsPart FieldType.outline) := by
  have hmap : Gives (Reader.mapType type) (IsPart FieldType.outline) :=
    skip fun _ => skip fun hint => skip fun _ => h.bind fun _ hkey => skip fun _ =>
      h.bind fun _ hvalue => skip fun _ => pure <| .node rfl <|
        .cons hkey <| .cons hvalue <| .cons (hasShape_ofText? hint) .nil
  have hset : Gives (Reader.setType type) (IsPart FieldType.outline) :=
    skip fun _ => skip fun hint => skip fun _ => h.bind fun _ helement => skip fun _ =>
      pure <| .node rfl <| .cons helement <| .cons (hasShape_ofText? hint) .nil
  have hlist : Gives (Reader.listType type) (IsPart FieldType.outline) :=
    skip fun _ => skip fun _ => h.bind fun _ helement => skip fun _ => skip fun hint =>
      pure <| .node rfl <| .cons helement <| .cons (hasShape_ofText? hint) .nil
  exact hmap.orElse (hset.orElse (hlist.orElse fail))

theorem baseType : Gives Reader.baseType (IsPart FieldType.outline) :=
  (oneOf (by decide +kernel)).map fun _ h => .node rfl <| .cons (.word h) .nil

theorem fieldType (depth : Nat) : Gives (Reader.fieldType depth) (IsPart FieldType.outline) := by
  induction depth with
  | zero => exact stop
  | succ depth ih =>
      have hnamed : Gives Reader.namedType (IsPart FieldType.outline) :=
        identifier.map fun _ h => .identifier h
      exact (containerType ih).orElse (baseType.orElse (hnamed.orElse fail))

theorem definitionType (depth : Nat) :
    Gives (Reader.definitionType (Reader.fieldType depth)) (IsPart FieldType.outline) :=
  baseType.orElse ((containerType (fieldType depth)).orElse fail)

theorem returnType {type : PartReader FieldType} (h : Gives type (IsPart FieldType.outline)) :
    Gives (Reader.returnType type) (IsPart ReturnType.outline) := by
  have hvoid : Gives (do Reader.word "void"; return .void) (IsPart ReturnType.outline) :=
    skip fun _ => pure (.node rfl .nil)
  have htype : Gives (do return .type (← type)) (IsPart ReturnType.outline) :=
    h.map fun _ htype => htype
  exact hvoid.orElse (htype.orElse fail)

/-! ## Constants -/

theorem constant (depth : Nat) : Gives (Reader.constant depth) (IsPart ConstValue.outline) := by
  induction depth with
  | zero => exact stop
  | succ depth ih =>
      have hinteger : ∀ p : PartReader Int,
          Gives (do return ConstValue.integer (← p)) (IsPart ConstValue.outline) :=
        fun _ => skip fun _ => pure (.node rfl (.cons rfl .nil))
      have hdouble : Gives (do return .double (← Reader.double)) (IsPart ConstValue.outline) :=
        double.map fun _ h => .node rfl (.cons ⟨rfl, h⟩ .nil)
      have hliteral : Gives (do return .literal (← Reader.literal)) (IsPart ConstValue.outline) :=
        skip fun text => pure (.node rfl (.cons (.text text) .nil))
      have hreference :
          Gives (do return .reference (← Reader.identifier)) (IsPart ConstValue.outline) :=
        identifier.map fun _ h => .identifier h
      have hitem : Gives (Reader.listItem (Reader.constant depth)) (IsPart ConstValue.outline) :=
        ih.bind fun _ h => skip fun _ => pure h
      have hlist : Gives (Reader.constantList (Reader.constant depth))
          (IsPart ConstValue.outline) :=
        skip fun _ => hitem.many.bind fun _ h => skip fun _ => pure <| .node rfl <|
          .cons (.tuple (constOutlines_eq _ ▸ itemsHaveShape_map h)) .nil
      have hentry : Gives (Reader.mapEntry (Reader.constant depth)) (IsPart entryOutline) :=
        ih.bind fun _ hkey => skip fun _ => ih.bind fun _ hvalue => skip fun _ =>
          pure (.node rfl (.cons hkey (.cons hvalue .nil)))
      have hmap : Gives (Reader.constantMap (Reader.constant depth)) (IsPart ConstValue.outline) :=
        skip fun _ => hentry.many.bind fun _ h => skip fun _ => pure <| .node rfl <|
          .cons (.tuple (entryOutlines_eq _ ▸ itemsHaveShape_map h)) .nil
      exact (hinteger _).orElse <| hdouble.orElse <| (hinteger _).orElse <| hliteral.orElse <|
        hreference.orElse <| hlist.orElse <| hmap.orElse fail

/-! ## Fields and functions -/

theorem hasShape_fieldOutlines {fields : List Field}
    (h : ∀ field ∈ fields, IsPart Field.outline field) :
    (Outline.tuple (fieldOutlines fields)).HasShape (.tuple .part) := by
  rw [fieldOutlines_eq]
  exact .tuple (itemsHaveShape_map h)

theorem hasShape_requiredness (requiredness : Option Requiredness) :
    (ofOption Requiredness.outline requiredness).HasShape (.optional .requiredness) := by
  cases requiredness with
  | none => exact ⟨_, rfl⟩
  | some r =>
      cases r with
      | required => exact ⟨rfl, .required, rfl⟩
      | optional => exact ⟨rfl, .optional, rfl⟩

theorem hasShape_exported {isOptional isNillable : Bool} {attributes : Option (List Field)}
    (h : ∀ fields ∈ attributes, ∀ field ∈ fields, IsPart Field.outline field) :
    (exportedOutline (Reduction.exportOptions isOptional isNillable
      (attributes.map fun as => ⟨false, false, as⟩))).HasShape (.optional .part) := by
  have hnode : ∀ {fields : List Field}, (∀ field ∈ fields, IsPart Field.outline field) →
      (exportedOutline (some ⟨isOptional, isNillable, fields⟩)).HasShape .part := fun hfields =>
    .node rfl (.cons rfl (.cons rfl (.cons (hasShape_fieldOutlines hfields) .nil)))
  cases attributes with
  | some fields => exact (hnode (h fields rfl)).optional
  | none =>
      simp only [Option.map_none, Reduction.exportOptions]
      split
      · exact (hnode (List.forall_mem_nil _)).optional
      · exact ⟨_, rfl⟩

theorem block {text opener closer : String} {field : PartReader Field}
    (h : Gives field (IsPart Field.outline)) :
    Gives (Reader.block text opener closer field) fun fields =>
      ∀ field ∈ fields, IsPart Field.outline field :=
  skip fun _ => skip fun _ => h.many.bind fun _ hfields => skip fun _ => pure hfields

theorem field (options : BuildOptions) (depth : Nat) :
    Gives (Reader.field options depth) (IsPart Field.outline) := by
  induction depth with
  | zero => exact stop
  | succ depth ih =>
      have hdefault : Gives (Reader.assigned (Reader.constant depth)) (IsPart ConstValue.outline) :=
        skip fun _ => constant depth
      have hattributes : Gives (Reader.attributes (Reader.field options depth)) fun fields =>
          ∀ field ∈ fields, IsPart Field.outline field := block ih
      exact skip fun id => skip fun requiredness => (fieldType depth).bind fun _ htype =>
        identifier.bind fun _ hname => hdefault.optional.bind fun _ hdefault => skip fun _ =>
        skip fun _ => hattributes.optional.bind fun _ hattributes => skip fun _ =>
        pure <| .node rfl <| .cons htype <| .cons (.word hname) <|
          .cons (hasShape_ofInteger? id) <| .cons (hasShape_ofOption hdefault) <|
          .cons (hasShape_requiredness _) <| .cons (hasShape_exported hattributes) .nil

theorem function {type : PartReader FieldType} {field : PartReader Field}
    (htype : Gives type (IsPart FieldType.outline)) (hfield : Gives field (IsPart Field.outline)) :
    Gives (Reader.function type field) (IsPart Function.outline) := by
  have hthrows : Gives (Reader.throws field) (IsPart throwsOutline) := fun _ _ _ h =>
    .node rfl (.cons (hasShape_fieldOutlines (block hfield h)) .nil)
  exact skip fun _ => (returnType htype).bind fun _ hreturns => identifier.bind fun _ hname =>
    skip fun _ => hfield.many.bind fun _ harguments => skip fun _ =>
    hthrows.optional.bind fun _ hthrows => skip fun _ => pure <| .node rfl <| .cons hreturns <|
      .cons (.word hname) <| .cons (hasShape_fieldOutlines harguments) <|
      .cons (hasShape_ofOption hthrows) <| .cons rfl .nil

/-! ## Definitions -/

section Definitions

variable (options : BuildOptions) (depth : Nat)

theorem const : Gives (Reader.const depth) (IsPart Definition.outline) :=
  skip fun _ => (fieldType depth).bind fun _ htype => identifier.bind fun _ hname =>
    skip fun _ => (constant depth).bind fun _ hvalue => skip fun _ => pure <| .node rfl <|
      .cons htype <| .cons (.word hname) <| .cons hvalue .nil

theorem typedef : Gives (Reader.typedef depth) (IsPart Definition.outline) :=
  skip fun _ => (definitionType depth).bind fun _ htype => identifier.bind fun _ hname =>
    skip fun _ => pure <| .node rfl <| .cons htype <| .cons (.word hname) .nil

theorem isInert_of_mem_countOn {next : Int} {values : List EnumValue}
    (h : ∀ v ∈ values, IsInert v.name) : ∀ v ∈ countOn next values, IsInert v.name := by
  induction values generalizing next with
  | nil => exact h
  | cons v values ih =>
      obtain ⟨hv, hvalues⟩ := List.forall_mem_cons.1 h
      rw [countOn]
      split
      · exact List.forall_mem_cons.2 ⟨hv, ih hvalues⟩
      · exact List.forall_mem_cons.2 ⟨hv, ih hvalues⟩

theorem enum : Gives (Reader.enum options) (IsPart Definition.outline) := by
  have hvalue : Gives Reader.enumValue fun v => IsInert v.name :=
    identifier.bind fun _ hname => skip fun _ => skip fun _ => pure hname
  have hcounted : ∀ {values : List EnumValue}, (∀ v ∈ values, IsInert v.name) →
      ∀ v ∈ Reader.countedValues options values, v.outline.HasShape .part := by
    intro values h v hv
    have hname : IsInert v.name := by
      unfold Reader.countedValues at hv
      split at hv
      · exact isInert_of_mem_countOn h v hv
      · exact h v hv
    exact .node rfl (.cons (.word hname) (.cons (hasShape_ofInteger? _) (.cons rfl .nil)))
  exact skip fun _ => identifier.bind fun _ hname => skip fun _ => hvalue.many.bind
    fun _ hvalues => skip fun _ => pure <| .node rfl <| .cons (.word hname) <|
      .cons (.tuple (itemsHaveShape_map (hcounted hvalues))) .nil

theorem senum : Gives Reader.senum (IsPart Definition.outline) :=
  skip fun _ => identifier.bind fun _ hname => skip fun _ => skip fun _ => skip fun _ =>
    pure <| .node rfl <| .cons (.word hname) <|
      .cons (.tuple (itemsHaveShape_map fun text _ => .text text)) .nil

theorem flaggedFields {text : String} {make : String → List Field → Bool → Definition}
    (hmake : ∀ name fields exportAll, IsInert name → (∀ f ∈ fields, IsPart Field.outline f) →
      IsPart Definition.outline (make name fields exportAll)) :
    Gives (Reader.flaggedFields text make options depth) (IsPart Definition.outline) :=
  skip fun _ => identifier.bind fun _ hname => skip fun exportAll => skip fun _ =>
    (field options depth).many.bind fun _ hfields => skip fun _ =>
    pure (hmake _ _ exportAll hname hfields)

theorem exception : Gives (Reader.exception options depth) (IsPart Definition.outline) :=
  skip fun _ => identifier.bind fun _ hname => skip fun _ => (field options depth).many.bind
    fun _ hfields => skip fun _ => pure <| .node rfl <| .cons (.word hname) <|
      .cons (hasShape_fieldOutlines hfields) .nil

theorem service : Gives (Reader.service options depth) (IsPart Definition.outline) := by
  have hparent : Gives Reader.parent (IsPart Outline.identifier) := skip fun _ =>
    fun _ _ _ h => .identifier (identifier h)
  exact skip fun _ => identifier.bind fun _ hname => hparent.optional.bind fun _ hparent =>
    skip fun _ => (function (fieldType depth) (field options depth)).many.bind
    fun _ hfunctions => skip fun _ => pure <| .node rfl <| .cons (.word hname) <|
      .cons (hasShape_ofOption hparent) <| .cons (.tuple (itemsHaveShape_map hfunctions)) .nil

theorem definition : Gives (Reader.definition options depth) (IsPart Definition.outline) := by
  have hfields : ∀ {kind name : String} {fields : List Field} {exportAll : Bool},
      nodeShapes.lookup kind =
        some [("name", .word), ("fields", .tuple .part), ("xsd_all", .flag)] →
      IsInert name → (∀ f ∈ fields, IsPart Field.outline f) →
      (Outline.node kind [("name", .text name), ("fields", .tuple (fieldOutlines fields)),
        ("xsd_all", .flag exportAll)]).HasShape .part := fun hkind hname hfields =>
    .node hkind (.cons (.word hname) (.cons (hasShape_fieldOutlines hfields) (.cons rfl .nil)))
  exact (const depth).orElse <| (typedef depth).orElse <| (enum options).orElse <|
    senum.orElse <| (flaggedFields options depth fun _ _ _ => hfields rfl).orElse <|
    (flaggedFields options depth fun _ _ _ => hfields rfl).orElse <|
    (exception options depth).orElse <| (service options depth).orElse fail

end Definitions

/-! ## Documents -/

theorem header : Gives Reader.header fun h => h.guarded.outline.HasShape .part := by
  have hliteral : ∀ {text : String} (make : String → Header),
      (∀ content, (make content).guarded.outline.HasShape .part) →
      Gives (Reader.literalHeader text make) fun h => h.guarded.outline.HasShape .part :=
    fun make hmake => skip fun _ => skip fun content => pure (hmake content)
  have hname : ∀ name, (Outline.identifier (Text.guarded name)).HasShape .name := fun name =>
    .inl ⟨rfl, _, rfl, .inr ⟨rfl, by rw [guarded, String.toList_ofList, guardEnd_guardEnd]⟩⟩
  have hcategory : Gives Reader.smalltalkCategory fun h => h.guarded.outline.HasShape .part :=
    skip fun _ => dashedIdentifier.map fun _ h => .node rfl (.cons (.identifier h) .nil)
  have hclass : Gives Reader.smalltalkPrefix fun h => h.guarded.outline.HasShape .part :=
    skip fun _ => identifier.map fun _ h => .node rfl (.cons (.identifier h) .nil)
  have hscoped : Gives Reader.scopedName fun h => h.guarded.outline.HasShape .part :=
    (oneOf (by decide +kernel)).bind fun _ hscope => identifier.map fun _ h =>
      .node rfl (.cons (.word hscope) (.cons (.identifier h) .nil))
  have hnamespace : Gives Reader.targetNamespace fun h => h.guarded.outline.HasShape .part :=
    skip fun _ => hcategory.orElse (hclass.orElse (hscoped.orElse fail))
  exact (hliteral .include fun path => .node rfl (.cons (.text path) .nil)).orElse <|
    (hliteral .cppInclude fun path => .node rfl (.cons (.text path) .nil)).orElse <|
    hnamespace.orElse <|
    (hliteral (fun content => .phpNamespace (trim content)) fun _ =>
      .node rfl (.cons (hname _) .nil)).orElse <|
    (hliteral (fun content => .xsdNamespace (trim content)) fun _ =>
      .node rfl (.cons (hname _) .nil)).orElse fail

theorem document (options : BuildOptions) (depth : Nat) :
    Gives (Reader.document options depth) Document.IsShaped :=
  skip fun _ => header.many.bind fun _ hheaders => (definition options depth).many.bind
    fun _ hdefinitions => skip fun _ => pure ⟨hheaders, hdefinitions⟩

end Gives

/-- A text that is read gives a document of shaped parts. -/
theorem isShaped_of_ofText {limit : Nat} {options : BuildOptions} {text : String}
    {source : Option String} {d : Document}
    (h : Document.ofText limit options text source = .ok d) : d.IsShaped :=
  Gives.document options limit (ofText_eq_ok_iff.1 h)

end ThriftSchema
