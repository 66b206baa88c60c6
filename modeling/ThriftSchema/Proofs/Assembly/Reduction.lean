import ThriftSchema.Proofs.Assembly.Performs

set_option autoImplicit false

/-! # What reductions do

Each way of taking parts has a law about the stacks and frames that productions leave: where the
parts are in place, they are taken as a whole and nothing else changes. A reduction then pushes
one entry that is made of them.
-/

namespace ThriftSchema

variable {α β : Type}

/-! ## Entries of types and constants -/

/-- The entry of a type. -/
def FieldType.entry : FieldType → Entry
  | named name => .identifier name
  | base name => .baseType name
  | map key value hint => .mapType key value hint
  | set element hint => .setType element hint
  | list element hint => .listType element hint

@[simp] theorem FieldType.asType?_entry (type : FieldType) :
    type.entry.asType? = some type := by
  cases type <;> rfl

/-- The entry of a result. -/
def ReturnType.entry : ReturnType → Entry
  | void => .void
  | type t => t.entry

@[simp] theorem ReturnType.asReturn?_entry (returns : ReturnType) :
    returns.entry.asReturn? = some returns := by
  cases returns with
  | void => rfl
  | type t => cases t <;> rfl

/-- The entry of a constant. -/
def ConstValue.entry : ConstValue → Entry
  | integer value => .integer value
  | double value => .double value
  | literal text => .literal text
  | reference name => .identifier name
  | list values => .constList values
  | map entries => .constMap entries

@[simp] theorem ConstValue.asConst?_entry (value : ConstValue) :
    value.entry.asConst? = some value := by
  cases value <;> rfl

/-- The entry of a key and its value. -/
def pairEntry (pair : ConstValue × ConstValue) : Entry := .mapEntry pair.1 pair.2

/-- The entry of a block of attributes. -/
def attributesEntry (fields : List Field) : Entry := .exported ⟨false, false, fields⟩

/-- The entry of a flag that is set. -/
def flagEntry (b : Bool) : Option Entry := if b then some .flag else none

namespace Entry

@[simp] theorem asMapEntry?_pairEntry (pair : ConstValue × ConstValue) :
    asMapEntry? (pairEntry pair) = some pair := rfl

@[simp] theorem asField?_field (f : Field) : asField? (field f) = some f := rfl

@[simp] theorem asThrows?_throws (fields : List Field) :
    asThrows? (throws fields) = some fields := rfl

@[simp] theorem asFunction?_function (f : Function) : asFunction? (function f) = some f := rfl

@[simp] theorem asEnumValue?_enumValue (value : EnumValue) :
    asEnumValue? (enumValue value) = some value := rfl

@[simp] theorem asLiteral?_literal (text : String) : asLiteral? (literal text) = some text := rfl

@[simp] theorem asHeader?_header (h : Header) : asHeader? (header h) = some h := rfl

@[simp] theorem asDefinition?_definition (d : Definition) :
    asDefinition? (definition d) = some d := rfl

end Entry

/-! ## Steps -/

namespace Action

variable (m : Mark Entry)

@[simp] theorem runOn_pure (a : α) : (pure a : Assembly α).runOn m = (.ok a, m) := rfl

theorem runOn_bind (x : Assembly α) (f : α → Assembly β) :
    (x >>= f).runOn m =
      match x.runOn m with
      | (.ok a, m') => (f a).runOn m'
      | (.error stop, m') => (.error stop, m') := by
  show ((ExceptT.run x >>= ExceptT.bindCont f) : StateM (Mark Entry) _) m = _
  show (match (ExceptT.run x).run m with
    | (r, m') => (ExceptT.bindCont f r).run m') = _
  rw [runOn]
  generalize (ExceptT.run x).run m = r
  obtain ⟨r, m'⟩ := r
  cases r <;> rfl

/-- A step that gives a value is followed by the next one. -/
theorem runOn_bind_of_ok {x : Assembly α} {f : α → Assembly β} {m m' : Mark Entry} {a : α}
    (h : x.runOn m = (.ok a, m')) : (x >>= f).runOn m = (f a).runOn m' := by
  rw [runOn_bind, h]

@[simp] theorem runOn_push (entry : Entry) :
    (push entry : Assembly Unit).runOn m = (.ok (), { m with stack := entry :: m.stack }) := rfl

@[simp] theorem runOn_slot? (name : String) :
    (slot? name : Assembly (Option Entry)).runOn m = (.ok (m.frame.get? name), m) := rfl

@[simp] theorem runOn_peek :
    (peek : Assembly (Option Entry)).runOn m = (.ok m.stack.head?, m) := rfl

theorem runOn_pop (c : Cursor) (entry : Entry) (stack : List Entry) (frame : Frame Entry) :
    (pop : Assembly Entry).runOn ⟨c, entry :: stack, frame⟩ = (.ok entry, ⟨c, stack, frame⟩) :=
  rfl

end Action

namespace Reduction

open ThriftSchema.Action

variable {view : Entry → Option α} {entry : α → Entry} {c : Cursor} {stack : List Entry}
  {frame : Frame Entry}

/-! ## Parts from the frame -/

theorem runOn_slot {name : String} {held : Entry} {part : α}
    (hheld : frame.get? name = some held) (hview : view held = some part) :
    (slot view name).runOn ⟨c, stack, frame⟩ = (.ok part, ⟨c, stack, frame⟩) := by
  rw [slot, runOn_bind_of_ok (runOn_slot? _ _), hheld, Option.bind_some, hview]
  rfl

theorem runOn_optSlot {name : String} {part : Option α} (hheld : frame.get? name = part.map entry)
    (hview : ∀ a ∈ part, view (entry a) = some a) :
    (slot? view name).runOn ⟨c, stack, frame⟩ = (.ok part, ⟨c, stack, frame⟩) := by
  rw [slot?, runOn_bind_of_ok (runOn_slot? _ _), hheld]
  cases part with
  | none => rfl
  | some a =>
      rw [Option.map_some]
      simp only [hview a rfl]
      rfl

theorem runOn_flagged {name : String} {b : Bool} (hheld : frame.get? name = flagEntry b) :
    (flagged name).runOn ⟨c, stack, frame⟩ = (.ok b, ⟨c, stack, frame⟩) := by
  cases b with
  | false =>
      have hnone : frame.get? name = none := hheld
      rw [flagged, slot?, runOn_bind, runOn_bind_of_ok (runOn_slot? _ _), hnone]
      rfl
  | true =>
      have hflag : frame.get? name = some .flag := hheld
      rw [flagged, slot?, runOn_bind, runOn_bind_of_ok (runOn_slot? _ _), hflag]
      rfl

/-! ## Parts from the stack -/

/-- The top of a stack, if there is one, has no part of a kind. -/
def Clear (view : Entry → Option α) (stack : List Entry) : Prop :=
  ∀ e ∈ stack.head?, view e = none

theorem splitRun_append (hview : ∀ a, view (entry a) = some a) (hclear : Clear view stack)
    (xs parts : List α) :
    splitRun view (xs.map entry ++ stack) parts = (xs.reverse ++ parts, stack) := by
  induction xs generalizing parts with
  | nil =>
      cases stack with
      | nil => rfl
      | cons e stack =>
          rw [List.map_nil, List.nil_append, splitRun, hclear e rfl]
          rfl
  | cons x xs ih =>
      rw [List.map_cons, List.cons_append, splitRun, hview]
      simp only [ih, List.reverse_cons, List.append_assoc, List.singleton_append]

/-- The entries of a list on a stack, the last one on top. -/
def pushAll (entry : α → Entry) (as : List α) (stack : List Entry) : List Entry :=
  (as.map entry).reverse ++ stack

theorem pushAll_concat (as : List α) (a : α) :
    pushAll entry (as ++ [a]) stack = entry a :: pushAll entry as stack := by
  simp [pushAll]

theorem runOn_takeRun (hview : ∀ a, view (entry a) = some a) (hclear : Clear view stack)
    (as : List α) :
    (takeRun view).runOn ⟨c, pushAll entry as stack, frame⟩ = (.ok as, ⟨c, stack, frame⟩) := by
  have hsplit : splitRun view (pushAll entry as stack) [] = (as, stack) := by
    rw [pushAll, ← List.map_reverse, splitRun_append hview hclear, List.reverse_reverse,
      List.append_nil]
  rw [takeRun]
  exact congrArg (fun run : List α × List Entry =>
    ((.ok run.1, ⟨c, run.2, frame⟩) : Except (Stop BuildError) (List α) × Mark Entry)) hsplit

theorem runOn_takeToBoundary (hview : ∀ a, view (entry a) = some a) {opener : String}
    (hboundary : view (.boundary opener) = none) (as : List α) :
    (takeToBoundary view opener).runOn ⟨c, pushAll entry as (.boundary opener :: stack), frame⟩
      = (.ok as, ⟨c, stack, frame⟩) := by
  have hclear : Clear view (.boundary opener :: stack) := by
    rintro e ⟨⟩
    exact hboundary
  rw [takeToBoundary, runOn_bind_of_ok (runOn_takeRun hview hclear as),
    runOn_bind_of_ok (runOn_peek _)]
  simp only [List.head?_cons, if_true]
  rfl

theorem runOn_takeExpected {held : Entry} {part : α} (hview : view held = some part) :
    (takeExpected view).runOn ⟨c, held :: stack, frame⟩ = (.ok part, ⟨c, stack, frame⟩) := by
  rw [takeExpected, runOn_bind_of_ok (runOn_pop ..), hview]
  rfl

theorem runOn_takeOptional (hview : ∀ a, view (entry a) = some a) (hclear : Clear view stack)
    (part : Option α) :
    (takeOptional view).runOn ⟨c, (part.map entry).toList ++ stack, frame⟩
      = (.ok part, ⟨c, stack, frame⟩) := by
  rw [takeOptional, runOn_bind_of_ok (runOn_peek _)]
  cases part with
  | none =>
      have hnone : stack.head?.bind view = none := by
        cases stack with
        | nil => rfl
        | cons e stack => exact hclear e rfl
      simp only [Option.map_none, Option.toList_none, List.nil_append, hnone]
      rfl
  | some a =>
      simp only [Option.map_some, Option.toList_some, List.cons_append, List.nil_append,
        List.head?_cons, Option.bind_some, hview]
      rfl

/-! ## Types and constants -/

theorem runOn_hintSlot {hint : Option String}
    (hhint : frame.get? "cpp_type" = hint.map Entry.literal) :
    hintSlot.runOn ⟨c, stack, frame⟩ = (.ok hint, ⟨c, stack, frame⟩) :=
  runOn_optSlot hhint fun _ _ => rfl

theorem runOn_mapType {key value : FieldType} {hint : Option String}
    (hkey : frame.get? "key" = some key.entry) (hvalue : frame.get? "value" = some value.entry)
    (hhint : frame.get? "cpp_type" = hint.map Entry.literal) :
    mapType.runOn ⟨c, stack, frame⟩
      = (.ok (), ⟨c, (FieldType.map key value hint).entry :: stack, frame⟩) := by
  rw [mapType, runOn_bind_of_ok (runOn_slot hkey (FieldType.asType?_entry _)),
    runOn_bind_of_ok (runOn_slot hvalue (FieldType.asType?_entry _)),
    runOn_bind_of_ok (runOn_hintSlot hhint)]
  rfl

theorem runOn_setType {element : FieldType} {hint : Option String}
    (helement : frame.get? "element" = some element.entry)
    (hhint : frame.get? "cpp_type" = hint.map Entry.literal) :
    setType.runOn ⟨c, stack, frame⟩
      = (.ok (), ⟨c, (FieldType.set element hint).entry :: stack, frame⟩) := by
  rw [setType, runOn_bind_of_ok (runOn_slot helement (FieldType.asType?_entry _)),
    runOn_bind_of_ok (runOn_hintSlot hhint)]
  rfl

theorem runOn_listType {element : FieldType} {hint : Option String}
    (helement : frame.get? "element" = some element.entry)
    (hhint : frame.get? "cpp_type" = hint.map Entry.literal) :
    listType.runOn ⟨c, stack, frame⟩
      = (.ok (), ⟨c, (FieldType.list element hint).entry :: stack, frame⟩) := by
  rw [listType, runOn_bind_of_ok (runOn_slot helement (FieldType.asType?_entry _)),
    runOn_bind_of_ok (runOn_hintSlot hhint)]
  rfl

theorem runOn_constList (values : List ConstValue) :
    constList.runOn
        ⟨c, pushAll ConstValue.entry values (.boundary "const_list" :: stack), frame⟩
      = (.ok (), ⟨c, (ConstValue.list values).entry :: stack, frame⟩) := by
  rw [constList, runOn_bind_of_ok (runOn_takeToBoundary ConstValue.asConst?_entry rfl values)]
  rfl

theorem runOn_mapEntry (key value : ConstValue) :
    mapEntry.runOn ⟨c, value.entry :: key.entry :: stack, frame⟩
      = (.ok (), ⟨c, pairEntry (key, value) :: stack, frame⟩) := by
  rw [mapEntry, runOn_bind_of_ok (runOn_takeExpected value.asConst?_entry),
    runOn_bind_of_ok (runOn_takeExpected key.asConst?_entry)]
  rfl

theorem runOn_constMap (entries : List (ConstValue × ConstValue)) :
    constMap.runOn ⟨c, pushAll pairEntry entries (.boundary "const_map" :: stack), frame⟩
      = (.ok (), ⟨c, (ConstValue.map entries).entry :: stack, frame⟩) := by
  rw [constMap, runOn_bind_of_ok (runOn_takeToBoundary Entry.asMapEntry?_pairEntry rfl entries)]
  rfl

/-! ## Fields and functions -/

theorem runOn_attributes (fields : List Field) :
    attributes.runOn ⟨c, pushAll Entry.field fields (.boundary "xsd_attrs" :: stack), frame⟩
      = (.ok (), ⟨c, attributesEntry fields :: stack, frame⟩) := by
  rw [attributes, runOn_bind_of_ok (runOn_takeToBoundary Entry.asField?_field rfl fields)]
  rfl

theorem runOn_throws (fields : List Field) :
    throws.runOn ⟨c, pushAll Entry.field fields (.boundary "throws" :: stack), frame⟩
      = (.ok (), ⟨c, .throws fields :: stack, frame⟩) := by
  rw [throws, runOn_bind_of_ok (runOn_takeToBoundary Entry.asField?_field rfl fields)]
  rfl

theorem runOn_nameSlot {name : String} (hname : frame.get? "name" = some (.identifier name)) :
    nameSlot.runOn ⟨c, stack, frame⟩ = (.ok name, ⟨c, stack, frame⟩) :=
  runOn_slot hname rfl

theorem runOn_typeSlot {type : FieldType} (htype : frame.get? "type" = some type.entry) :
    typeSlot.runOn ⟨c, stack, frame⟩ = (.ok type, ⟨c, stack, frame⟩) :=
  runOn_slot htype type.asType?_entry

/-- The frame at the end of a field. -/
structure HoldsField (frame : Frame Entry) (id : Option Int)
    (requiredness : Option Requiredness) (type : FieldType) (name : String)
    (default : Option ConstValue) (isOptional isNillable : Bool)
    (attributes : Option (List Field)) : Prop where
  id : frame.get? "id" = id.map Entry.integer
  requiredness : frame.get? "requiredness" = requiredness.map Entry.requiredness
  type : frame.get? "type" = some type.entry
  name : frame.get? "name" = some (.identifier name)
  default : frame.get? "default" = default.map ConstValue.entry
  isOptional : frame.get? "xsd_optional" = flagEntry isOptional
  isNillable : frame.get? "xsd_nillable" = flagEntry isNillable
  attributes : frame.get? "xsd_attrs" = attributes.map attributesEntry

theorem runOn_field {options : BuildOptions} {id : Option Int}
    {requiredness : Option Requiredness} {type : FieldType} {name : String}
    {default : Option ConstValue} {isOptional isNillable : Bool}
    {attributes : Option (List Field)}
    (h : HoldsField frame id requiredness type name default isOptional isNillable attributes) :
    (field options).runOn ⟨c, stack, frame⟩ = (.ok (), ⟨c, .field ⟨type, name, id, default,
      Reader.keptRequiredness options requiredness,
      exportOptions isOptional isNillable (attributes.map fun as => ⟨false, false, as⟩)⟩
        :: stack, frame⟩) := by
  have hattributes : (slot? Entry.asExported? "xsd_attrs").runOn ⟨c, stack, frame⟩
      = (.ok (attributes.map fun as => ⟨false, false, as⟩), ⟨c, stack, frame⟩) := by
    have hheld : frame.get? "xsd_attrs"
        = (attributes.map fun as => ⟨false, false, as⟩).map Entry.exported := by
      rw [h.attributes, Option.map_map]
      rfl
    exact runOn_optSlot hheld fun _ _ => rfl
  rw [field, runOn_bind_of_ok hattributes, runOn_bind_of_ok (runOn_flagged h.isOptional),
    runOn_bind_of_ok (runOn_flagged h.isNillable), runOn_bind_of_ok (runOn_typeSlot h.type),
    runOn_bind_of_ok (runOn_nameSlot h.name),
    runOn_bind_of_ok (runOn_optSlot h.id fun _ _ => rfl),
    runOn_bind_of_ok (runOn_optSlot h.default fun a _ => a.asConst?_entry)]
  by_cases hkeep : options.retainRequiredness = true
  · rw [if_pos hkeep, runOn_bind_of_ok (runOn_optSlot h.requiredness fun _ _ => rfl)]
    simp only [Reader.keptRequiredness, if_pos hkeep]
    rfl
  · rw [if_neg hkeep, runOn_bind_of_ok (runOn_pure ..)]
    simp only [Reader.keptRequiredness, if_neg hkeep]
    rfl

theorem runOn_function {returns : ReturnType} {name : String} {arguments : List Field}
    {thrown : Option (List Field)} {oneway : Bool}
    (hreturns : frame.get? "return_type" = some returns.entry)
    (hname : frame.get? "name" = some (.identifier name))
    (honeway : frame.get? "oneway" = flagEntry oneway) :
    function.runOn ⟨c, (thrown.map Entry.throws).toList ++
        pushAll Entry.field arguments (.boundary "arguments" :: stack), frame⟩
      = (.ok (), ⟨c, .function ⟨returns, name, arguments, thrown, oneway⟩ :: stack, frame⟩) := by
  have hclear : Clear Entry.asThrows?
      (pushAll Entry.field arguments (.boundary "arguments" :: stack)) := by
    intro e he
    rcases List.eq_nil_or_concat arguments with rfl | ⟨as, a, rfl⟩
    · obtain rfl : Entry.boundary "arguments" = e := by simpa [pushAll] using he
      rfl
    · rw [List.concat_eq_append, pushAll_concat] at he
      obtain rfl : Entry.field a = e := by simpa using he
      rfl
  rw [function, runOn_bind_of_ok (runOn_takeOptional Entry.asThrows?_throws hclear thrown),
    runOn_bind_of_ok (runOn_takeToBoundary Entry.asField?_field rfl arguments),
    runOn_bind_of_ok (runOn_slot hreturns returns.asReturn?_entry),
    runOn_bind_of_ok (runOn_nameSlot hname), runOn_bind_of_ok (runOn_flagged honeway)]
  rfl

/-! ## Definitions -/

theorem runOn_const {type : FieldType} {name : String} {value : ConstValue}
    (htype : frame.get? "type" = some type.entry)
    (hname : frame.get? "name" = some (.identifier name))
    (hvalue : frame.get? "value" = some value.entry) :
    const.runOn ⟨c, stack, frame⟩
      = (.ok (), ⟨c, .definition (.const type name value) :: stack, frame⟩) := by
  rw [const, runOn_bind_of_ok (runOn_typeSlot htype), runOn_bind_of_ok (runOn_nameSlot hname),
    runOn_bind_of_ok (runOn_slot hvalue value.asConst?_entry)]
  rfl

theorem runOn_typedef {type : FieldType} {name : String}
    (htype : frame.get? "type" = some type.entry)
    (hname : frame.get? "name" = some (.identifier name)) :
    typedef.runOn ⟨c, stack, frame⟩
      = (.ok (), ⟨c, .definition (.typedef type name) :: stack, frame⟩) := by
  rw [typedef, runOn_bind_of_ok (runOn_typeSlot htype), runOn_bind_of_ok (runOn_nameSlot hname)]
  rfl

theorem runOn_enumValue {name : String} {value : Option Int}
    (hname : frame.get? "name" = some (.identifier name))
    (hvalue : frame.get? "value" = value.map Entry.integer) :
    enumValue.runOn ⟨c, stack, frame⟩
      = (.ok (), ⟨c, .enumValue ⟨name, value, false⟩ :: stack, frame⟩) := by
  rw [enumValue, runOn_bind_of_ok (runOn_nameSlot hname),
    runOn_bind_of_ok (runOn_optSlot hvalue fun _ _ => rfl)]
  rfl

theorem runOn_enum {options : BuildOptions} {name : String} (values : List EnumValue)
    (hclear : Clear Entry.asEnumValue? stack)
    (hname : frame.get? "name" = some (.identifier name)) :
    (enum options).runOn ⟨c, pushAll Entry.enumValue values stack, frame⟩
      = (.ok (), ⟨c, .definition (.enum name (Reader.countedValues options values)) :: stack,
          frame⟩) := by
  rw [enum, runOn_bind_of_ok (runOn_takeRun Entry.asEnumValue?_enumValue hclear values),
    runOn_bind_of_ok (runOn_nameSlot hname)]
  rfl

theorem runOn_senum {name : String} (values : List String)
    (hclear : Clear Entry.asLiteral? stack)
    (hname : frame.get? "name" = some (.identifier name)) :
    senum.runOn ⟨c, pushAll Entry.literal values stack, frame⟩
      = (.ok (), ⟨c, .definition (.senum name values) :: stack, frame⟩) := by
  rw [senum, runOn_bind_of_ok (runOn_takeRun Entry.asLiteral?_literal hclear values),
    runOn_bind_of_ok (runOn_nameSlot hname)]
  rfl

theorem runOn_struct {name : String} {exportAll : Bool} (fields : List Field)
    (hclear : Clear Entry.asField? stack)
    (hname : frame.get? "name" = some (.identifier name))
    (hall : frame.get? "xsd_all" = flagEntry exportAll) :
    struct.runOn ⟨c, pushAll Entry.field fields stack, frame⟩
      = (.ok (), ⟨c, .definition (.struct name fields exportAll) :: stack, frame⟩) := by
  rw [struct, runOn_bind_of_ok (runOn_takeRun Entry.asField?_field hclear fields),
    runOn_bind_of_ok (runOn_nameSlot hname), runOn_bind_of_ok (runOn_flagged hall)]
  rfl

theorem runOn_union {name : String} {exportAll : Bool} (fields : List Field)
    (hclear : Clear Entry.asField? stack)
    (hname : frame.get? "name" = some (.identifier name))
    (hall : frame.get? "xsd_all" = flagEntry exportAll) :
    union.runOn ⟨c, pushAll Entry.field fields stack, frame⟩
      = (.ok (), ⟨c, .definition (.union name fields exportAll) :: stack, frame⟩) := by
  rw [union, runOn_bind_of_ok (runOn_takeRun Entry.asField?_field hclear fields),
    runOn_bind_of_ok (runOn_nameSlot hname), runOn_bind_of_ok (runOn_flagged hall)]
  rfl

theorem runOn_exception {name : String} (fields : List Field)
    (hclear : Clear Entry.asField? stack)
    (hname : frame.get? "name" = some (.identifier name)) :
    exception.runOn ⟨c, pushAll Entry.field fields stack, frame⟩
      = (.ok (), ⟨c, .definition (.exception name fields) :: stack, frame⟩) := by
  rw [exception, runOn_bind_of_ok (runOn_takeRun Entry.asField?_field hclear fields),
    runOn_bind_of_ok (runOn_nameSlot hname)]
  rfl

theorem runOn_service {name : String} {parent : Option String} (functions : List Function)
    (hclear : Clear Entry.asFunction? stack)
    (hname : frame.get? "name" = some (.identifier name))
    (hparent : frame.get? "extends" = parent.map Entry.identifier) :
    service.runOn ⟨c, pushAll Entry.function functions stack, frame⟩
      = (.ok (), ⟨c, .definition (.service name parent functions) :: stack, frame⟩) := by
  rw [service, runOn_bind_of_ok (runOn_takeRun Entry.asFunction?_function hclear functions),
    runOn_bind_of_ok (runOn_nameSlot hname),
    runOn_bind_of_ok (runOn_optSlot hparent fun _ _ => rfl)]
  rfl

/-! ## Headers and the document -/

theorem runOn_targetNamespace {scope name : String}
    (hscope : frame.get? "scope" = some (.literal scope)) :
    targetNamespace.runOn ⟨c, .identifier name :: stack, frame⟩
      = (.ok (), ⟨c, .header (.targetNamespace scope name) :: stack, frame⟩) := by
  have hname : (takeExpected Entry.asIdentifier?).runOn ⟨c, .identifier name :: stack, frame⟩
      = (.ok name, ⟨c, stack, frame⟩) := runOn_takeExpected rfl
  have hslot : (slot Entry.asLiteral? "scope").runOn ⟨c, stack, frame⟩
      = (.ok scope, ⟨c, stack, frame⟩) := runOn_slot hscope rfl
  rw [targetNamespace, runOn_bind_of_ok hname, runOn_bind_of_ok hslot]
  rfl

theorem runOn_document (headers : List Header) (definitions : List Definition) :
    document.runOn
        ⟨c, pushAll Entry.definition definitions (pushAll Entry.header headers []), frame⟩
      = (.ok (), ⟨c, [.document ⟨headers, definitions⟩], frame⟩) := by
  have hclear : Clear Entry.asDefinition? (pushAll Entry.header headers []) := by
    intro e he
    rcases List.eq_nil_or_concat headers with rfl | ⟨hs, h, rfl⟩
    · simp [pushAll] at he
    · rw [List.concat_eq_append, pushAll_concat] at he
      obtain rfl : Entry.header h = e := by simpa using he
      rfl
  have hempty : Clear Entry.asHeader? [] := by
    intro e he
    simp at he
  rw [document,
    runOn_bind_of_ok (runOn_takeRun Entry.asDefinition?_definition hclear definitions),
    runOn_bind_of_ok (runOn_takeRun Entry.asHeader?_header hempty headers)]
  rfl

end Reduction

end ThriftSchema
