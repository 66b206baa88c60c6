import ThriftSchema.Proofs.Recognition
import ThriftSchema.Proofs.Settings.Numbering

set_option autoImplicit false

/-! # What the options change

The options of a build change what is built from a text and nothing else. A document that is read
under any options is the one that is read under the faithful ones, which keep what the text says,
without requiredness if that is not kept and with numbers counted on if they are. A text that is
not read fails at the same place in the same way.

* `Field.withoutRequiredness`: a field without requiredness at any depth.
* `Document.under`: a document as options have it.
* `Yields`: a reader that reads what another one does, but for a change to the value.
* `ofText_under`: reading under options.
-/

namespace ThriftSchema

/-- The options that keep requiredness and count nothing. -/
def BuildOptions.faithful : BuildOptions := ⟨true, false⟩

/-! ## Documents under options -/

mutual

/-- A field without requiredness, nor is there any in its attributes. -/
def Field.withoutRequiredness : Field → Field
  | ⟨type, name, id, default, _, exported⟩ =>
    ⟨type, name, id, default, none, exportedWithoutRequiredness exported⟩

/-- Export options without requiredness in the attributes. -/
def exportedWithoutRequiredness : Option (ExportOptions Field) → Option (ExportOptions Field)
  | none => none
  | some ⟨optional, nillable, attributes⟩ =>
    some ⟨optional, nillable, fieldsWithoutRequiredness attributes⟩

/-- Fields without requiredness. -/
def fieldsWithoutRequiredness : List Field → List Field
  | [] => []
  | f :: fs => f.withoutRequiredness :: fieldsWithoutRequiredness fs

end

theorem fieldsWithoutRequiredness_eq (fields : List Field) :
    fieldsWithoutRequiredness fields = fields.map Field.withoutRequiredness := by
  induction fields with
  | nil => rfl
  | cons f fields ih => rw [fieldsWithoutRequiredness, ih, List.map_cons]

section Under

variable (options : BuildOptions)

/-- A field as options have it. -/
def Field.under (f : Field) : Field :=
  if options.retainRequiredness then f else f.withoutRequiredness

/-- A function as options have it. -/
def Function.under (f : Function) : Function :=
  { f with
    arguments := f.arguments.map (Field.under options)
    throws := f.throws.map (·.map (Field.under options)) }

/-- Values of an enumeration as options have them. -/
def valuesUnder (values : List EnumValue) : List EnumValue :=
  if options.numberEnums then numberedValues values else values

/-- A definition as options have it. -/
def Definition.under : Definition → Definition
  | const type name value => const type name value
  | typedef type name => typedef type name
  | enum name values => enum name (valuesUnder options values)
  | senum name values => senum name values
  | struct name fields exportAll => struct name (fields.map (Field.under options)) exportAll
  | union name fields exportAll => union name (fields.map (Field.under options)) exportAll
  | exception name fields => exception name (fields.map (Field.under options))
  | service name parent functions => service name parent (functions.map (Function.under options))

/-- A document as options have it. -/
def Document.under (d : Document) : Document :=
  ⟨d.headers, d.definitions.map (Definition.under options)⟩

end Under

/-! ## Readers that change a value -/

variable {E α β γ δ : Type}

/-- The same ending with another value. -/
def Attempt.map (f : α → β) : Attempt E α → Attempt E β
  | failed => failed
  | stopped stop => stopped stop
  | read a rest => read (f a) rest

/-- The second reader reads what the first one does, and changes the value. -/
def Yields (f : α → β) (p : Reader E α) (q : Reader E β) : Prop :=
  ∀ input, q input = (p input).map f

namespace Yields

variable {f : α → β} {g : γ → δ} {p : Reader E α} {q : Reader E β}

theorem same (p : Reader E α) : Yields id p p := fun input => by
  cases p input <;> rfl

theorem pure {f : α → β} {a : α} {b : β} (h : b = f a) :
    Yields f (Pure.pure a : Reader E α) (Pure.pure b) := fun _ => h ▸ rfl

theorem fail : Yields f (Reader.fail : Reader E α) Reader.fail := fun _ => rfl

theorem stop (why : Stop E) : Yields f (Reader.stop why) (Reader.stop why) := fun _ => rfl

theorem bind {next : α → Reader E γ} {next' : β → Reader E δ} (h : Yields f p q)
    (hnext : ∀ a, Yields g (next a) (next' (f a))) : Yields g (p >>= next) (q >>= next') := by
  intro input
  rw [Reader.bind_apply, Reader.bind_apply, h input]
  cases p input with
  | failed => rfl
  | stopped stop => rfl
  | read a rest => exact hnext a rest

/-- Behind the same reader. -/
theorem skip {p : Reader E α} {next : α → Reader E γ} {next' : α → Reader E δ}
    (hnext : ∀ a, Yields g (next a) (next' a)) : Yields g (p >>= next) (p >>= next') :=
  (same p).bind hnext

theorem orElse {p' : Reader E α} {q' : Reader E β} (h : Yields f p q) (h' : Yields f p' q') :
    Yields f (p <|> p') (q <|> q') := by
  intro input
  rw [Reader.orElse_apply, Reader.orElse_apply, h input, h' input]
  cases p input <;> rfl

theorem optional (h : Yields f p q) :
    Yields (Option.map f) (Reader.optional p) (Reader.optional q) := by
  intro input
  rw [Reader.optional, Reader.optional, h input]
  cases p input <;> rfl

theorem manyWithin (h : Yields f p q) (bound input : List Char) :
    Reader.manyWithin q bound input = (Reader.manyWithin p bound input).map (List.map f) := by
  induction bound generalizing input with
  | nil => rfl
  | cons c bound ih =>
      rw [Reader.manyWithin, Reader.manyWithin, h input]
      cases p input with
      | failed => rfl
      | stopped stop => rfl
      | read a rest =>
          simp only [Attempt.map, Attempt.andThen]
          split
          · rfl
          · rw [ih rest]
            cases Reader.manyWithin p bound rest <;> rfl

theorem many (h : Yields f p q) : Yields (List.map f) (Reader.many p) (Reader.many q) :=
  fun input => h.manyWithin (' ' :: ' ' :: input) input

end Yields

/-! ## Productions under options -/

namespace Yields

variable (options : BuildOptions)

theorem block {text opener closer : String} {f : Field → Field} {p q : PartReader Field}
    (h : Yields f p q) :
    Yields (List.map f) (Reader.block text opener closer p) (Reader.block text opener closer q) :=
  .skip fun _ => .skip fun _ => h.many.bind fun _ => .skip fun _ => .pure rfl

/-- The end of a field. -/
theorem field_under (type : FieldType) (name : String) (id : Option Int)
    (default : Option ConstValue) (requiredness : Option Requiredness)
    (isOptional isNillable : Bool)
    (attributes : Option (List Field)) :
    (⟨type, name, id, default, Reader.keptRequiredness options requiredness,
      Reduction.exportOptions isOptional isNillable
        ((attributes.map (List.map (Field.under options))).map fun as => ⟨false, false, as⟩)⟩ :
        Field) =
      Field.under options ⟨type, name, id, default,
        Reader.keptRequiredness .faithful requiredness,
        Reduction.exportOptions isOptional isNillable
          (attributes.map fun as => ⟨false, false, as⟩)⟩ := by
  unfold Field.under Reader.keptRequiredness
  cases options.retainRequiredness with
  | true => simp [BuildOptions.faithful]
  | false =>
      simp only [Bool.false_eq_true, if_false, Field.withoutRequiredness]
      cases attributes with
      | none => cases isOptional <;> cases isNillable <;> rfl
      | some fields =>
          simp [Reduction.exportOptions, exportedWithoutRequiredness, fieldsWithoutRequiredness_eq]

theorem fieldOver {type : PartReader FieldType} {constant : PartReader ConstValue}
    {p q : PartReader Field} (h : Yields (Field.under options) p q) :
    Yields (Field.under options) (Reader.fieldOver .faithful type constant p)
      (Reader.fieldOver options type constant q) :=
  .skip fun _ => .skip fun _ => .skip fun _ => .skip fun _ => .skip fun _ => .skip fun _ =>
    .skip fun _ => h.block.optional.bind fun _ => .skip fun _ => .pure (field_under ..)

theorem field (depth : Nat) :
    Yields (Field.under options) (Reader.field .faithful depth) (Reader.field options depth) := by
  induction depth with
  | zero => exact .stop _
  | succ depth ih => exact fieldOver options ih

theorem function {type : PartReader FieldType} {p q : PartReader Field}
    (h : Yields (Field.under options) p q) :
    Yields (Function.under options) (Reader.function type p) (Reader.function type q) :=
  .skip fun _ => .skip fun _ => .skip fun _ => .skip fun _ => h.many.bind fun _ =>
    .skip fun _ => h.block.optional.bind fun _ => .skip fun _ => .pure rfl

theorem enum : Yields (Definition.under options) (Reader.enum .faithful) (Reader.enum options) :=
  .skip fun _ => .skip fun _ => .skip fun _ => .skip fun _ => .skip fun _ => .pure <| by
    unfold Definition.under valuesUnder Reader.countedValues
    rw [countOn_eq_numberedValues]
    rfl

theorem flaggedFields (text : String) {make : String → List Field → Bool → Definition}
    (hmake : ∀ name fields exportAll, (make name fields exportAll).under options =
      make name (fields.map (Field.under options)) exportAll) (depth : Nat) :
    Yields (Definition.under options) (Reader.flaggedFields text make .faithful depth)
      (Reader.flaggedFields text make options depth) :=
  .skip fun _ => .skip fun _ => .skip fun _ => .skip fun _ => (field options depth).many.bind
    fun _ => .skip fun _ => .pure (hmake _ _ _).symm

theorem exception (depth : Nat) :
    Yields (Definition.under options) (Reader.exception .faithful depth)
      (Reader.exception options depth) :=
  .skip fun _ => .skip fun _ => .skip fun _ => (field options depth).many.bind fun _ =>
    .skip fun _ => .pure rfl

theorem service (depth : Nat) :
    Yields (Definition.under options) (Reader.service .faithful depth)
      (Reader.service options depth) :=
  .skip fun _ => .skip fun _ => .skip fun _ => .skip fun _ =>
    (function options (field options depth)).many.bind fun _ => .skip fun _ => .pure rfl

theorem definition (depth : Nat) :
    Yields (Definition.under options) (Reader.definition .faithful depth)
      (Reader.definition options depth) := by
  have hconst : Yields (Definition.under options) (Reader.const depth) (Reader.const depth) :=
    .skip fun _ => .skip fun _ => .skip fun _ => .skip fun _ => .skip fun _ => .skip fun _ =>
      .pure rfl
  have htypedef : Yields (Definition.under options) (Reader.typedef depth)
      (Reader.typedef depth) :=
    .skip fun _ => .skip fun _ => .skip fun _ => .skip fun _ => .pure rfl
  have hsenum : Yields (Definition.under options) Reader.senum Reader.senum :=
    .skip fun _ => .skip fun _ => .skip fun _ => .skip fun _ => .skip fun _ => .pure rfl
  exact hconst.orElse <| htypedef.orElse <| (enum options).orElse <| hsenum.orElse <|
    (flaggedFields options "struct" (fun _ _ _ => rfl) depth).orElse <|
    (flaggedFields options "union" (fun _ _ _ => rfl) depth).orElse <|
    (exception options depth).orElse <| (service options depth).orElse fail

theorem document (depth : Nat) :
    Yields (Document.under options) (Reader.document .faithful depth)
      (Reader.document options depth) :=
  .skip fun _ => .skip fun _ => (definition options depth).many.bind fun _ => .skip fun _ =>
    .pure rfl

end Yields

/-! ## Reading under options -/

theorem State.rejection_eq_of_bare {V : Type} {s t : State V} (h : s.bare = t.bare)
    (input : List Char) (source : Option String) :
    s.rejection input source = t.rejection input source := by
  have hfurthest : s.bare.furthest = t.bare.furthest := congrArg _ h
  have hexpected : s.bare.expected = t.bare.expected := congrArg _ h
  rw [State.rejection, State.rejection, show s.furthest = t.furthest from hfurthest,
    show s.expected = t.expected from hexpected]

theorem State.pos_eq_of_bare {V : Type} {s t : State V} (h : s.bare = t.bare) : s.pos = t.pos := by
  have hpos : s.bare.pos = t.bare.pos := congrArg _ h
  exact hpos

section Ending

variable {limit : Nat} {options options' : BuildOptions} {text : String} {source : Option String}

/-- Whatever the options, a match of a document is shadowed by one match that builds nothing. -/
theorem shadows_documentResult (options : BuildOptions) (input : List Char) :
    Shadows (documentResult limit options input)
      ((Production.document { }).bare.run
        ((Production.rules { }).bare.call limit) (State.initial input)) := by
  rw [← Production.bare_rules options, ← Production.bare_document options]
  exact Rule.run_bare (Rules.call_bare (fun _ _ => Production.stays_find?) limit) _
    (Production.stays_document options) _

/-- Whatever the options, a match that does not break off at an integer ends in one state, but for
what is built. -/
theorem bare_documentResult {input : List Char}
    (h : ∀ stop, (documentResult limit options input).outcome = .stopped stop →
      stop = .nestingTooDeep)
    (h' : ∀ stop, (documentResult limit options' input).outcome = .stopped stop →
      stop = .nestingTooDeep) :
    (documentResult limit options input).state.bare =
      (documentResult limit options' input).state.bare :=
  congrArg Result.state (((shadows_documentResult options input).outcome h).symm.trans
    ((shadows_documentResult options' input).outcome h'))

theorem bare_of_outcome {input : List Char} {outcome : Outcome BuildError}
    (h : (documentResult limit options input).outcome = outcome)
    (h' : (documentResult limit options' input).outcome = outcome)
    (hstop : ∀ stop, outcome = .stopped stop → stop = .nestingTooDeep) :
    (documentResult limit options input).state.bare =
      (documentResult limit options' input).state.bare :=
  bare_documentResult (fun stop hsame => hstop stop (h.symm.trans hsame))
    fun stop hsame => hstop stop (h'.symm.trans hsame)

end Ending

/-- Reading under any options is reading under the faithful ones and then changing the document as
the options say. So it ends in the same way: with the same failure, at the same place and with the
same expectations, or with a document that only differs in what the options are about. -/
theorem ofText_under (limit : Nat) (options : BuildOptions) (text : String)
    (source : Option String) :
    Document.ofText limit options text source =
      (Document.ofText limit .faithful text source).map (Document.under options) := by
  have hyields := Yields.document options limit (stripComments text).toList
  cases hread : Reader.document .faithful limit (stripComments text).toList with
  | failed =>
      rw [hread] at hyields
      have hends := outcome_of_failed hyields
      have hends' := outcome_of_failed hread
      have hbare := bare_of_outcome hends hends' (fun stop h => nomatch h)
      rw [ofText_of_failed hends, ofText_of_failed hends', State.rejection_eq_of_bare hbare]
      rfl
  | stopped stop =>
      rw [hread] at hyields
      have hends := outcome_of_stopped hyields
      have hends' := outcome_of_stopped hread
      rcases stop_of_document hread with rfl | ⟨digits, rfl⟩
      · have hbare := bare_of_outcome hends hends' (fun stop h => by cases h; rfl)
        rw [ofText_of_tooDeep hends, ofText_of_tooDeep hends', State.pos_eq_of_bare hbare]
        rfl
      · rw [ofText_of_tooLong hends, ofText_of_tooLong hends']
        rfl
  | read d rest =>
      obtain rfl := document_rest hread
      rw [hread] at hyields
      rw [ofText_eq_ok_iff.2 hyields, ofText_eq_ok_iff.2 hread]
      rfl

end ThriftSchema
