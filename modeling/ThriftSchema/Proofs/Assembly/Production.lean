import ThriftSchema.Proofs.Assembly.Leaf

set_option autoImplicit false

/-! # What productions perform

Every production performs its reader: it ends as the reader does on the text ahead, and pushes
one entry, that of the value read, on whatever stack it finds and in whatever frame. Only the
definitions need to know something of the stack, since they take the parts of their lists without
a boundary: that none of these parts is on top already.

The productions that are referred to by name are followed by induction on the depth.
-/

namespace ThriftSchema

variable {α β : Type} {call : Calls}

/-- The rule performs the reader and pushes the entry of its value. -/
def Pushes (call : Calls) (rule : Production) (p : PartReader α) (entry : α → Entry) : Prop :=
  ∀ stack frame, Performs call rule (stack, frame) p (fun a => (entry a :: stack, frame))

namespace Performs

variable {rule first rest : Production} {stack : List Entry} {frame : Frame Entry}
  {p : PartReader α} {after : α → Store} {entry : α → Entry}

/-! ## Small parts -/

theorem word (text : String) :
    Performs call (Production.word text) (stack, frame) (Reader.word text)
      (fun _ => (stack, frame)) := spaced (keyword text)

theorem symbol (text : String) :
    Performs call (Production.symbol text) (stack, frame) (Reader.symbol text)
      (fun _ => (stack, frame)) := spaced (characters text)

theorem separator :
    Performs call Production.separator (stack, frame) Reader.separator
      (fun _ => (stack, frame)) := by
  have hlexeme : Performs call
      (Production.spaced (.pattern "',' or ';'" Pattern.separator)) (stack, frame)
      (Reader.lexeme Pattern.separator) (fun _ => (stack, frame)) :=
    spaced (measured Pattern.fits_separator _)
  refine map (opt hlexeme) fun o => ?_
  cases o <;> rfl

/-- A boundary in front of a list reads nothing. -/
theorem opening {opener : String}
    (hrest : Performs call rest (.boundary opener :: stack, frame) p after) :
    Performs call (.seq (Production.opening opener) rest) (stack, frame) p after := by
  have hopen : Performs call (Production.opening opener) (stack, frame) (pure ())
      (fun _ => (.boundary opener :: stack, frame)) := by
    refine act (fun c => ?_) _
    rfl
  exact seq hopen fun _ => hrest

/-- A list of entries comes on the stack, the last one on top. -/
theorem starPush (h : Pushes call rule p entry) :
    Performs call (.star rule) (stack, frame) (Reader.many p)
      (fun as => (Reduction.pushAll entry as stack, frame)) := by
  have hitem : ∀ as : List α, Performs call rule (Reduction.pushAll entry as stack, frame) p
      (fun a => (Reduction.pushAll entry (as ++ [a]) stack, frame)) := by
    intro as
    have := h (Reduction.pushAll entry as stack) frame
    simpa only [Reduction.pushAll_concat] using this
  exact star hitem

/-- An entry comes on the stack, or nothing. -/
theorem optPush (h : Pushes call rule p entry) :
    Performs call (.opt rule) (stack, frame) (Reader.optional p)
      (fun o => ((o.map entry).toList ++ stack, frame)) := by
  have hopt := opt (h stack frame)
  have hafter : (fun o : Option α => o.elim (stack, frame) fun a => (entry a :: stack, frame))
      = fun o => ((o.map entry).toList ++ stack, frame) := by
    funext o
    cases o <;> rfl
  rwa [hafter] at hopt

end Performs

/-- A boundary in front of a list reads nothing, in a scope too. -/
theorem Leaves.opening {rest : Production} {stack : List Entry} {frame : Frame Entry}
    {p : PartReader α} {after : α → List Entry} {opener : String}
    (hrest : Leaves call rest (.boundary opener :: stack, frame) p after) :
    Leaves call (.seq (Production.opening opener) rest) (stack, frame) p after := by
  have hopen : Performs call (Production.opening opener) (stack, frame) (pure ())
      (fun _ => (.boundary opener :: stack, frame)) := by
    refine Performs.act (fun c => ?_) _
    rfl
  exact Leaves.seq hopen fun _ => hrest

namespace Pushes

variable {rule first rest : Production} {p q : PartReader α} {entry : α → Entry}

theorem never : Pushes call .never (Reader.fail : PartReader α) entry :=
  fun _ _ => Performs.never

theorem alt (hfirst : Pushes call first p entry) (hrest : Pushes call rest q entry) :
    Pushes call (.alt first rest) (p <|> q) entry :=
  fun stack frame => Performs.alt (hfirst stack frame) (hrest stack frame)

theorem map {f : α → β} {entry' : β → Entry} (h : Pushes call rule p entry)
    (hentry : ∀ a, entry a = entry' (f a)) :
    Pushes call rule (p >>= fun a => pure (f a)) entry' := by
  intro stack frame
  refine Performs.map (h stack frame) fun a => ?_
  rw [hentry]

/-! ## Leaves -/

theorem identifier : Pushes call Production.identifier Reader.identifier Entry.identifier :=
  fun _ _ => Performs.token
    (Performs.leaf (Performs.measured Pattern.fits_identifier _)
      fun h _ hblanks => Performs.builds_identifier h hblanks) _

theorem dashedIdentifier :
    Pushes call Production.dashedIdentifier Reader.dashedIdentifier Entry.identifier :=
  fun _ _ => Performs.token
    (Performs.leaf (Performs.measured Pattern.fits_dashedIdentifier _)
      fun h _ hblanks => Performs.builds_dashedIdentifier h hblanks) _

theorem literal : Pushes call Production.literal Reader.literal Entry.literal :=
  fun _ _ => Performs.token
    (Performs.leaf (Performs.measured Pattern.fits_literal _)
      fun h _ hblanks => Performs.builds_literal h hblanks) _

theorem integer : Pushes call Production.integer Reader.integer Entry.integer :=
  fun _ _ => Performs.token
    (Performs.leaf (Performs.measured Pattern.fits_integer _)
      fun h _ hblanks => Performs.builds_integer h hblanks) _

theorem hexadecimal : Pushes call Production.hexadecimal Reader.hexadecimal Entry.integer :=
  fun _ _ => Performs.token
    (Performs.leaf (Performs.measured Pattern.fits_hexadecimal _)
      fun h _ hblanks => Performs.builds_hexadecimal h hblanks) _

theorem double : Pushes call Production.double Reader.double Entry.double :=
  fun _ _ => Performs.token
    (Performs.leaf (Performs.measured Pattern.fits_decimal _)
      fun h _ hblanks => Performs.builds_double h hblanks) _

theorem firstKeyword {store : Store} (words : List String) :
    Performs call (.firstOf (words.map .keyword)) store (Reader.firstKeyword words)
      (fun _ => store) := by
  induction words with
  | nil => exact Performs.never
  | cons text words ih =>
      exact Performs.alt (Performs.map (Performs.keyword text) fun _ => rfl) ih

theorem baseType : Pushes call Production.baseType Reader.baseType FieldType.entry :=
  fun _ _ => Performs.token
    (Performs.leaf (firstKeyword _) fun h _ hblanks => Performs.builds_baseType h hblanks) _

theorem scopeWord :
    Pushes call Production.namespaceScope (Reader.oneOf Production.namespaceScopes)
      Entry.literal := by
  have hpure : Reader.oneOf Production.namespaceScopes
      = Reader.oneOf Production.namespaceScopes >>= pure := (Reader.bind_pure _).symm
  rw [hpure]
  exact fun _ _ => Performs.token
    (Performs.leaf (firstKeyword _) fun h _ hblanks => Performs.builds_scope h hblanks) _

theorem requiredness :
    Pushes call Production.requiredness Reader.requiredness Entry.requiredness :=
  fun _ _ => Performs.token
    (Performs.leaf (firstKeyword _) fun h _ hblanks => Performs.builds_requiredness h hblanks) _

/-! ## Types -/

theorem hint (stack : List Entry) (frame : Frame Entry) :
    Performs call Production.hint (stack, frame) Reader.hint
      (fun o => (stack, Bindings.fill frame "cpp_type" (o.map Entry.literal))) :=
  Performs.optFill
    (Performs.capture (Performs.seq (Performs.word "cpp_type") fun _ =>
      Performs.last (literal stack frame)) "cpp_type")

section Types

variable {type : PartReader FieldType}

theorem mapType (htype : Pushes call Production.fieldTypeRef type FieldType.entry) :
    Pushes call Production.mapType (Reader.mapType type) FieldType.entry := by
  intro stack frame
  refine Performs.scope ?_
  refine Leaves.seq (Performs.word "map") fun _ => ?_
  refine Leaves.seq (hint stack []) fun hint => ?_
  refine Leaves.seq (Performs.symbol "<") fun _ => ?_
  refine Leaves.seq (Performs.capture (htype _ _) "key") fun key => ?_
  refine Leaves.seq (Performs.symbol ",") fun _ => ?_
  refine Leaves.seq (Performs.capture (htype _ _) "value") fun value => ?_
  refine Leaves.seq (Performs.symbol ">") fun _ => ?_
  refine Leaves.ending (fun c => Reduction.runOn_mapType ?_ ?_ ?_) _
  · simp [Bindings.get?_set]
  · simp [Bindings.get?_set]
  · simp [Bindings.get?_set, Bindings.get?_fill]

theorem setType (htype : Pushes call Production.fieldTypeRef type FieldType.entry) :
    Pushes call Production.setType (Reader.setType type) FieldType.entry := by
  intro stack frame
  refine Performs.scope ?_
  refine Leaves.seq (Performs.word "set") fun _ => ?_
  refine Leaves.seq (hint stack []) fun hint => ?_
  refine Leaves.seq (Performs.symbol "<") fun _ => ?_
  refine Leaves.seq (Performs.capture (htype _ _) "element") fun element => ?_
  refine Leaves.seq (Performs.symbol ">") fun _ => ?_
  refine Leaves.ending (fun c => Reduction.runOn_setType ?_ ?_) _
  · simp [Bindings.get?_set]
  · simp [Bindings.get?_set, Bindings.get?_fill]

theorem listType (htype : Pushes call Production.fieldTypeRef type FieldType.entry) :
    Pushes call Production.listType (Reader.listType type) FieldType.entry := by
  intro stack frame
  refine Performs.scope ?_
  refine Leaves.seq (Performs.word "list") fun _ => ?_
  refine Leaves.seq (Performs.symbol "<") fun _ => ?_
  refine Leaves.seq (Performs.capture (htype _ _) "element") fun element => ?_
  refine Leaves.seq (Performs.symbol ">") fun _ => ?_
  refine Leaves.seq (hint stack _) fun hint => ?_
  refine Leaves.ending (fun c => Reduction.runOn_listType ?_ ?_) _
  · simp [Bindings.get?_set, Bindings.get?_fill]
  · simp [Bindings.get?_set, Bindings.get?_fill]

theorem containerType (htype : Pushes call Production.fieldTypeRef type FieldType.entry) :
    Pushes call Production.containerType (Reader.containerType type) FieldType.entry :=
  alt (mapType htype) (alt (setType htype) (alt (listType htype) never))

theorem definitionType (htype : Pushes call Production.fieldTypeRef type FieldType.entry) :
    Pushes call Production.definitionType (Reader.definitionType type) FieldType.entry :=
  alt baseType (alt (containerType htype) never)

theorem returnType (htype : Pushes call Production.fieldTypeRef type FieldType.entry) :
    Pushes call Production.returnType (Reader.returnType type) ReturnType.entry := by
  have hvoid : Pushes call (.leaf Leaf.void (Production.word "void"))
      (do Reader.word "void"; return ReturnType.void) ReturnType.entry :=
    fun _ _ => Performs.leaf (Performs.keyword "void") fun _ _ _ => Performs.builds_void
  exact alt hvoid (alt (map htype fun _ => rfl) never)

end Types

/-! ## Constants -/

section Constants

variable {constant : PartReader ConstValue}

theorem listItem (hconstant : Pushes call Production.constantRef constant ConstValue.entry) :
    Pushes call (.sequence [Production.constantRef, Production.separator])
      (Reader.listItem constant) ConstValue.entry :=
  fun stack frame => Performs.seq (hconstant stack frame) fun _ =>
    Performs.seq Performs.separator fun _ => Performs.done rfl

theorem constantList (hconstant : Pushes call Production.constantRef constant ConstValue.entry) :
    Pushes call Production.constantList (Reader.constantList constant) ConstValue.entry := by
  intro stack frame
  refine Performs.seq (Performs.symbol "[") fun _ => Performs.opening ?_
  refine Performs.seq (Performs.starPush (listItem hconstant)) fun values => ?_
  refine Performs.seq (Performs.symbol "]") fun _ => ?_
  exact Performs.ending (fun c => Reduction.runOn_constList values) _

theorem mapEntry (hconstant : Pushes call Production.constantRef constant ConstValue.entry) :
    Pushes call Production.mapEntry (Reader.mapEntry constant) pairEntry := by
  intro stack frame
  refine Performs.seq (hconstant stack frame) fun key => ?_
  refine Performs.seq (Performs.symbol ":") fun _ => ?_
  refine Performs.seq (hconstant _ frame) fun value => ?_
  refine Performs.seq Performs.separator fun _ => ?_
  exact Performs.ending (fun c => Reduction.runOn_mapEntry key value) _

theorem constantMap (hconstant : Pushes call Production.constantRef constant ConstValue.entry) :
    Pushes call Production.constantMap (Reader.constantMap constant) ConstValue.entry := by
  intro stack frame
  refine Performs.seq (Performs.symbol "\x7b") fun _ => Performs.opening ?_
  refine Performs.seq (Performs.starPush (mapEntry hconstant)) fun entries => ?_
  refine Performs.seq (Performs.symbol "\x7d") fun _ => ?_
  exact Performs.ending (fun c => Reduction.runOn_constMap entries) _

end Constants

/-! ## Fields and functions -/

section Fields

variable {type : PartReader FieldType} {constant : PartReader ConstValue}
  {field : PartReader Field}

theorem fieldId : Pushes call Production.fieldId Reader.fieldId Entry.integer :=
  fun stack frame => Performs.seq (integer stack frame) fun _ =>
    Performs.seq (Performs.symbol ":") fun _ => Performs.done rfl

theorem attributes (hfield : Pushes call Production.fieldRef field Entry.field) :
    Pushes call Production.attributes (Reader.attributes field) attributesEntry := by
  intro stack frame
  refine Performs.seq (Performs.word "xsd_attrs") fun _ => ?_
  refine Performs.seq (Performs.symbol "\x7b") fun _ => Performs.opening ?_
  refine Performs.seq (Performs.starPush hfield) fun fields => ?_
  refine Performs.seq (Performs.symbol "\x7d") fun _ => ?_
  exact Performs.ending (fun c => Reduction.runOn_attributes fields) _

theorem throws (hfield : Pushes call Production.fieldRef field Entry.field) :
    Pushes call Production.throws (Reader.throws field) Entry.throws := by
  intro stack frame
  refine Performs.seq (Performs.word "throws") fun _ => ?_
  refine Performs.seq (Performs.symbol "(") fun _ => Performs.opening ?_
  refine Performs.seq (Performs.starPush hfield) fun fields => ?_
  refine Performs.seq (Performs.symbol ")") fun _ => ?_
  exact Performs.ending (fun c => Reduction.runOn_throws fields) _

/-- A value behind an equals sign, put into a slot. -/
theorem assigned {value : PartReader α} {rule : Production} {entry : α → Entry}
    (h : Pushes call rule value entry) (slot : String) (stack : List Entry)
    (frame : Frame Entry) :
    Performs call (.sequence [Production.symbol "=", .capture slot rule]) (stack, frame)
      (Reader.assigned value) (fun a => (stack, Bindings.set frame slot (entry a))) :=
  Performs.seq (Performs.symbol "=") fun _ =>
    Performs.last (Performs.capture (h stack frame) slot)

theorem fieldOver (options : BuildOptions)
    (htype : Pushes call Production.fieldTypeRef type FieldType.entry)
    (hconstant : Pushes call Production.constantRef constant ConstValue.entry)
    (hfield : Pushes call Production.fieldRef field Entry.field) :
    Pushes call (Production.field options) (Reader.fieldOver options type constant field)
      Entry.field := by
  intro stack frame
  refine Performs.scope ?_
  refine Leaves.seq (Performs.optFill (Performs.capture (fieldId _ _) "id")) fun id => ?_
  refine Leaves.seq (Performs.optFill (Performs.capture (requiredness _ _) "requiredness"))
    fun required => ?_
  refine Leaves.seq (Performs.capture (htype _ _) "type") fun type => ?_
  refine Leaves.seq (Performs.capture (identifier _ _) "name") fun name => ?_
  refine Leaves.seq (Performs.optFill (assigned hconstant "default" _ _)) fun default => ?_
  refine Leaves.seq (Performs.flagWord _ _ "xsd_optional") fun isOptional => ?_
  refine Leaves.seq (Performs.flagWord _ _ "xsd_nillable") fun isNillable => ?_
  refine Leaves.seq (Performs.optFill (Performs.capture (attributes hfield _ _) "xsd_attrs"))
    fun block => ?_
  refine Leaves.seq Performs.separator fun _ => ?_
  refine Leaves.ending (fun c => Reduction.runOn_field
    (⟨?_, ?_, ?_, ?_, ?_, ?_, ?_, ?_⟩ : Reduction.HoldsField _ id required type name default
      isOptional isNillable block)) _
  all_goals simp [Bindings.get?_set, Bindings.get?_fill, flagEntry]

theorem function (htype : Pushes call Production.fieldTypeRef type FieldType.entry)
    (hfield : Pushes call Production.fieldRef field Entry.field) :
    Pushes call Production.function (Reader.function type field) Entry.function := by
  intro stack frame
  refine Performs.scope ?_
  refine Leaves.seq (Performs.flagWord _ _ "oneway") fun oneway => ?_
  refine Leaves.seq (Performs.capture (returnType htype _ _) "return_type") fun returns => ?_
  refine Leaves.seq (Performs.capture (identifier _ _) "name") fun name => ?_
  refine Leaves.seq (Performs.symbol "(") fun _ => Leaves.opening ?_
  refine Leaves.seq (Performs.starPush hfield) fun arguments => ?_
  refine Leaves.seq (Performs.symbol ")") fun _ => ?_
  refine Leaves.seq (Performs.optPush (throws hfield)) fun thrown => ?_
  refine Leaves.seq Performs.separator fun _ => ?_
  refine Leaves.ending (fun c => Reduction.runOn_function ?_ ?_ ?_) _
  all_goals simp [Bindings.get?_set, Bindings.get?_fill, flagEntry]

end Fields

/-! ## References -/

section References

variable (options : BuildOptions)

theorem fieldType {depth : Nat}
    (htype : Pushes call Production.fieldTypeRef (Reader.fieldType depth) FieldType.entry) :
    Pushes call Production.fieldType (Reader.fieldType (depth + 1)) FieldType.entry :=
  alt (containerType htype) (alt baseType (alt (map identifier fun _ => rfl) never))

/-- A field type, by induction on the depth. -/
theorem fieldTypeRef (depth : Nat) :
    Pushes ((Production.rules options).call depth) Production.fieldTypeRef
      (Reader.fieldType depth) FieldType.entry := by
  induction depth with
  | zero => exact fun _ _ => Performs.ref_zero _ _
  | succ depth ih => exact fun stack frame => Performs.ref rfl (fieldType ih stack frame)

theorem constant {depth : Nat}
    (hconstant : Pushes call Production.constantRef (Reader.constant depth) ConstValue.entry) :
    Pushes call Production.constant (Reader.constant (depth + 1)) ConstValue.entry :=
  alt (map hexadecimal fun _ => rfl) <| alt (map double fun _ => rfl) <|
    alt (map integer fun _ => rfl) <| alt (map literal fun _ => rfl) <|
    alt (map identifier fun _ => rfl) <| alt (constantList hconstant) <|
    alt (constantMap hconstant) never

/-- A constant, by induction on the depth. -/
theorem constantRef (depth : Nat) :
    Pushes ((Production.rules options).call depth) Production.constantRef
      (Reader.constant depth) ConstValue.entry := by
  induction depth with
  | zero => exact fun _ _ => Performs.ref_zero _ _
  | succ depth ih => exact fun stack frame => Performs.ref rfl (constant ih stack frame)

/-- A field, by induction on the depth. -/
theorem fieldRef (depth : Nat) :
    Pushes ((Production.rules options).call depth) Production.fieldRef
      (Reader.field options depth) Entry.field := by
  induction depth with
  | zero => exact fun _ _ => Performs.ref_zero _ _
  | succ depth ih =>
      have hrule : Pushes ((Production.rules options).call depth) (Production.field options)
          (Reader.field options (depth + 1)) Entry.field :=
        fieldOver options (fieldTypeRef options depth) (constantRef options depth) ih
      exact fun stack frame => Performs.ref rfl (hrule stack frame)

end References

/-! ## Headers -/

theorem literalHeader {text : String} {reduction : Reduction} {make : String → Header}
    (hreduction : ∀ c path stack frame, reduction.runOn ⟨c, .literal path :: stack, frame⟩
      = (.ok (), ⟨c, .header (make path) :: stack, frame⟩)) :
    Pushes call (Production.literalHeader text reduction) (Reader.literalHeader text make)
      Entry.header := by
  intro stack frame
  refine Performs.seq (Performs.word text) fun _ => ?_
  refine Performs.seq (literal stack frame) fun path => ?_
  exact Performs.ending (fun c => hreduction c path stack frame) _

theorem smalltalkCategory :
    Pushes call Production.smalltalkCategory Reader.smalltalkCategory Entry.header := by
  intro stack frame
  refine Performs.seq (Performs.word "smalltalk.category") fun _ => ?_
  refine Performs.seq (dashedIdentifier stack frame) fun name => ?_
  refine Performs.ending (fun c => ?_) _
  rfl

theorem smalltalkPrefix :
    Pushes call Production.smalltalkPrefix Reader.smalltalkPrefix Entry.header := by
  intro stack frame
  refine Performs.seq (Performs.word "smalltalk.prefix") fun _ => ?_
  refine Performs.seq (identifier stack frame) fun name => ?_
  refine Performs.ending (fun c => ?_) _
  rfl

theorem scopedName : Pushes call Production.scopedName Reader.scopedName Entry.header := by
  intro stack frame
  refine Performs.scope ?_
  refine Leaves.seq (Performs.capture (scopeWord _ _) "scope") fun scope => ?_
  refine Leaves.seq (identifier stack _) fun name => ?_
  refine Leaves.ending (fun c => Reduction.runOn_targetNamespace ?_) _
  simp [Bindings.get?_set]

theorem targetNamespace :
    Pushes call Production.targetNamespace Reader.targetNamespace Entry.header :=
  fun stack frame => Performs.seq (Performs.word "namespace") fun _ => Performs.last
    (alt smalltalkCategory (alt smalltalkPrefix (alt scopedName never)) stack frame)

theorem header : Pushes call Production.header Reader.header Entry.header :=
  alt (literalHeader fun _ _ _ _ => rfl) <| alt (literalHeader fun _ _ _ _ => rfl) <|
    alt targetNamespace <| alt (literalHeader fun _ _ _ _ => rfl) <|
    alt (literalHeader fun _ _ _ _ => rfl) never

/-! ## Values of enumerations -/

theorem enumValue : Pushes call Production.enumValue Reader.enumValue Entry.enumValue := by
  have hnumber : Pushes call (.firstOf [Production.hexadecimal, Production.integer])
      (Reader.hexadecimal <|> Reader.integer <|> Reader.fail) Entry.integer :=
    alt hexadecimal (alt integer never)
  intro stack frame
  refine Performs.scope ?_
  refine Leaves.seq (Performs.capture (identifier _ _) "name") fun name => ?_
  refine Leaves.seq (Performs.optFill (assigned hnumber "value" _ _)) fun value => ?_
  refine Leaves.seq Performs.separator fun _ => ?_
  refine Leaves.ending (fun c => Reduction.runOn_enumValue ?_ ?_) _
  · simp [Bindings.get?_set, Bindings.get?_fill]
  · simp [Bindings.get?_set, Bindings.get?_fill]

theorem literalItem :
    Pushes call (.sequence [Production.literal, Production.separator]) Reader.literalItem
      Entry.literal :=
  fun stack frame => Performs.seq (literal stack frame) fun _ =>
    Performs.seq Performs.separator fun _ => Performs.done rfl

end Pushes

/-! ## Definitions -/

/-- Nothing on top of the stack belongs into a list of a definition. -/
structure Ready (stack : List Entry) : Prop where
  enumValue : Reduction.Clear Entry.asEnumValue? stack
  literal : Reduction.Clear Entry.asLiteral? stack
  field : Reduction.Clear Entry.asField? stack
  function : Reduction.Clear Entry.asFunction? stack

theorem ready_nil : Ready [] := by
  constructor <;> exact fun e he => absurd he (by simp)

theorem ready_header (h : Header) (stack : List Entry) : Ready (.header h :: stack) := by
  constructor <;> (rintro e ⟨⟩; rfl)

theorem ready_definition (d : Definition) (stack : List Entry) :
    Ready (.definition d :: stack) := by
  constructor <;> (rintro e ⟨⟩; rfl)

/-- The rule performs the reader and pushes the definition that it reads. -/
def Defines (call : Calls) (rule : Production) (p : PartReader Definition) : Prop :=
  ∀ stack frame, Ready stack →
    Performs call rule (stack, frame) p (fun d => (.definition d :: stack, frame))

namespace Defines

variable {rule first rest : Production} {p q : PartReader Definition}

theorem alt (hfirst : Defines call first p) (hrest : Defines call rest q) :
    Defines call (.alt first rest) (p <|> q) :=
  fun stack frame hready => Performs.alt (hfirst stack frame hready) (hrest stack frame hready)

variable (options : BuildOptions) (depth : Nat)

theorem const :
    Defines ((Production.rules options).call depth) Production.const (Reader.const depth) := by
  intro stack frame _
  refine Performs.scope ?_
  refine Leaves.seq (Performs.word "const") fun _ => ?_
  refine Leaves.seq (Performs.capture (Pushes.fieldTypeRef options depth _ _) "type")
    fun type => ?_
  refine Leaves.seq (Performs.capture (Pushes.identifier _ _) "name") fun name => ?_
  refine Leaves.seq (Performs.symbol "=") fun _ => ?_
  refine Leaves.seq (Performs.capture (Pushes.constantRef options depth _ _) "value")
    fun value => ?_
  refine Leaves.seq Performs.separator fun _ => ?_
  refine Leaves.ending (fun c => Reduction.runOn_const ?_ ?_ ?_) _
  all_goals simp [Bindings.get?_set]

theorem typedef :
    Defines ((Production.rules options).call depth) Production.typedef (Reader.typedef depth) := by
  intro stack frame _
  refine Performs.scope ?_
  refine Leaves.seq (Performs.word "typedef") fun _ => ?_
  refine Leaves.seq (Performs.capture
    (Pushes.definitionType (Pushes.fieldTypeRef options depth) _ _) "type") fun type => ?_
  refine Leaves.seq (Performs.capture (Pushes.identifier _ _) "name") fun name => ?_
  refine Leaves.seq Performs.separator fun _ => ?_
  refine Leaves.ending (fun c => Reduction.runOn_typedef ?_ ?_) _
  all_goals simp [Bindings.get?_set]

theorem enum : Defines call (Production.enum options) (Reader.enum options) := by
  intro stack frame hready
  refine Performs.scope ?_
  refine Leaves.seq (Performs.word "enum") fun _ => ?_
  refine Leaves.seq (Performs.capture (Pushes.identifier _ _) "name") fun name => ?_
  refine Leaves.seq (Performs.symbol "\x7b") fun _ => ?_
  refine Leaves.seq (Performs.starPush Pushes.enumValue) fun values => ?_
  refine Leaves.seq (Performs.symbol "\x7d") fun _ => ?_
  refine Leaves.ending (fun c => Reduction.runOn_enum values hready.enumValue ?_) _
  simp [Bindings.get?_set]

theorem senum : Defines call Production.senum Reader.senum := by
  intro stack frame hready
  refine Performs.scope ?_
  refine Leaves.seq (Performs.word "senum") fun _ => ?_
  refine Leaves.seq (Performs.capture (Pushes.identifier _ _) "name") fun name => ?_
  refine Leaves.seq (Performs.symbol "\x7b") fun _ => ?_
  refine Leaves.seq (Performs.starPush Pushes.literalItem) fun values => ?_
  refine Leaves.seq (Performs.symbol "\x7d") fun _ => ?_
  refine Leaves.ending (fun c => Reduction.runOn_senum values hready.literal ?_) _
  simp [Bindings.get?_set]

theorem struct :
    Defines ((Production.rules options).call depth) Production.struct
      (Reader.struct options depth) := by
  intro stack frame hready
  refine Performs.scope ?_
  refine Leaves.seq (Performs.word "struct") fun _ => ?_
  refine Leaves.seq (Performs.capture (Pushes.identifier _ _) "name") fun name => ?_
  refine Leaves.seq (Performs.flagWord _ _ "xsd_all") fun exportAll => ?_
  refine Leaves.seq (Performs.symbol "\x7b") fun _ => ?_
  refine Leaves.seq (Performs.starPush (Pushes.fieldRef options depth)) fun fields => ?_
  refine Leaves.seq (Performs.symbol "\x7d") fun _ => ?_
  refine Leaves.ending (fun c => Reduction.runOn_struct fields hready.field ?_ ?_) _
  all_goals simp [Bindings.get?_set, Bindings.get?_fill, flagEntry]

theorem union :
    Defines ((Production.rules options).call depth) Production.union
      (Reader.union options depth) := by
  intro stack frame hready
  refine Performs.scope ?_
  refine Leaves.seq (Performs.word "union") fun _ => ?_
  refine Leaves.seq (Performs.capture (Pushes.identifier _ _) "name") fun name => ?_
  refine Leaves.seq (Performs.flagWord _ _ "xsd_all") fun exportAll => ?_
  refine Leaves.seq (Performs.symbol "\x7b") fun _ => ?_
  refine Leaves.seq (Performs.starPush (Pushes.fieldRef options depth)) fun fields => ?_
  refine Leaves.seq (Performs.symbol "\x7d") fun _ => ?_
  refine Leaves.ending (fun c => Reduction.runOn_union fields hready.field ?_ ?_) _
  all_goals simp [Bindings.get?_set, Bindings.get?_fill, flagEntry]

theorem exception :
    Defines ((Production.rules options).call depth) Production.exception
      (Reader.exception options depth) := by
  intro stack frame hready
  refine Performs.scope ?_
  refine Leaves.seq (Performs.word "exception") fun _ => ?_
  refine Leaves.seq (Performs.capture (Pushes.identifier _ _) "name") fun name => ?_
  refine Leaves.seq (Performs.symbol "\x7b") fun _ => ?_
  refine Leaves.seq (Performs.starPush (Pushes.fieldRef options depth)) fun fields => ?_
  refine Leaves.seq (Performs.symbol "\x7d") fun _ => ?_
  refine Leaves.ending (fun c => Reduction.runOn_exception fields hready.field ?_) _
  simp [Bindings.get?_set]

theorem service :
    Defines ((Production.rules options).call depth) Production.service
      (Reader.service options depth) := by
  intro stack frame hready
  have hparent : ∀ frame, Performs ((Production.rules options).call depth)
      (.sequence [Production.word "extends", .capture "extends" Production.identifier])
      (stack, frame) Reader.parent
      (fun name => (stack, Bindings.set frame "extends" (.identifier name))) :=
    fun frame => Performs.seq (Performs.word "extends") fun _ =>
      Performs.last (Performs.capture (Pushes.identifier _ _) "extends")
  refine Performs.scope ?_
  refine Leaves.seq (Performs.word "service") fun _ => ?_
  refine Leaves.seq (Performs.capture (Pushes.identifier _ _) "name") fun name => ?_
  refine Leaves.seq (Performs.optFill (hparent _)) fun parent => ?_
  refine Leaves.seq (Performs.symbol "\x7b") fun _ => ?_
  refine Leaves.seq (Performs.starPush (Pushes.function (Pushes.fieldTypeRef options depth)
    (Pushes.fieldRef options depth))) fun functions => ?_
  refine Leaves.seq (Performs.symbol "\x7d") fun _ => ?_
  refine Leaves.ending (fun c => Reduction.runOn_service functions hready.function ?_ ?_) _
  all_goals simp [Bindings.get?_set, Bindings.get?_fill]

theorem definition :
    Defines ((Production.rules options).call depth) (Production.definition options)
      (Reader.definition options depth) :=
  alt (const options depth) <| alt (typedef options depth) <| alt (enum options) <|
    alt senum <| alt (struct options depth) <| alt (union options depth) <|
    alt (exception options depth) <| alt (service options depth) fun _ _ _ => Performs.never

end Defines

/-! ## Documents -/

/-- The stack behind headers and definitions. -/
def headStack (headers : List Header) (definitions : List Definition) : List Entry :=
  Reduction.pushAll Entry.definition definitions (Reduction.pushAll Entry.header headers [])

theorem ready_headStack (headers : List Header) (definitions : List Definition) :
    Ready (headStack headers definitions) := by
  rcases List.eq_nil_or_concat definitions with rfl | ⟨ds, d, rfl⟩
  · rcases List.eq_nil_or_concat headers with rfl | ⟨hs, h, rfl⟩
    · exact ready_nil
    · rw [headStack, List.concat_eq_append, Reduction.pushAll_concat]
      exact ready_header h _
  · rw [headStack, List.concat_eq_append, Reduction.pushAll_concat]
    exact ready_definition d _

theorem Performs.finish {store : Store} :
    Performs call .finish store Reader.finish (fun _ => store) := by
  intro s hstack hframe
  rw [← eq_store hstack hframe, Rule.run]
  cases hrest : s.cursor.rest with
  | nil =>
      refine ⟨rfl, [], hrest, ?_⟩
      show s.toMark = ⟨⟨s.cursor.pos, []⟩, s.stack, s.frame⟩
      rw [← hrest]
  | cons c cs => exact agrees_refuse s _

/-- A document leaves nothing but itself. -/
theorem Performs.document (options : BuildOptions) (depth : Nat) (frame : Frame Entry) :
    Performs ((Production.rules options).call depth) (Production.document options) ([], frame)
      (Reader.document options depth) (fun d => ([.document d], frame)) := by
  refine seq layout fun _ => ?_
  refine seq (starPush Pushes.header) fun headers => ?_
  have hdefinitions : ∀ definitions, Performs ((Production.rules options).call depth)
      (Production.definition options) (headStack headers definitions, frame)
      (Reader.definition options depth)
      (fun d => (headStack headers (definitions ++ [d]), frame)) := by
    intro definitions
    have := Defines.definition options depth _ frame (ready_headStack headers definitions)
    simpa only [headStack, Reduction.pushAll_concat] using this
  refine seq (star hdefinitions) fun definitions => ?_
  refine seq finish fun _ => ?_
  exact ending (fun c => Reduction.runOn_document headers definitions) _

end ThriftSchema
