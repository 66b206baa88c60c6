import ThriftSchema.Proofs.Assembly.Reduction
import ThriftSchema.Proofs.Rule.Bare

set_option autoImplicit false

/-! # What actions and leaves keep to

The actions of the productions work on stack and frame. They do not move the cursor, and where
one of them breaks off it does not say that the text is at fault: such a break would be a mistake
of the productions. Of the leaves only a decimal integer may say so.

* `Tame`, `Mild`: actions and builders of leaves that do not blame the text.
* `Production.IsTame`: what holds of every part of a document.
-/

namespace ThriftSchema

variable {α β : Type}

/-- An action that leaves the cursor, and that blames no text when it breaks off. -/
structure Tame (action : Assembly α) : Prop where
  cursor : ∀ m, (action.runOn m).2.cursor = m.cursor
  blames : ∀ m stop, (action.runOn m).1 = .error stop → ¬stop.IsOfText

namespace Tame

/-- Such an action leaves the cursor and does not break off for the depth of references. -/
theorem stays {action : Action Entry BuildError Unit} (h : Tame action) : action.Stays where
  cursor := h.cursor
  shallow m hstop := h.blames m _ hstop trivial

theorem pure (a : α) : Tame (Pure.pure a : Assembly α) :=
  ⟨fun _ => rfl, fun _ _ h => by cases h⟩

theorem bind {x : Assembly α} {f : α → Assembly β} (hx : Tame x) (hf : ∀ a, Tame (f a)) :
    Tame (x >>= f) := by
  refine ⟨fun m => ?_, fun m stop h => ?_⟩
  · have hcursor := hx.cursor m
    rw [Action.runOn_bind]
    generalize x.runOn m = r at hcursor ⊢
    obtain ⟨why | a, m'⟩ := r
    · exact hcursor
    · exact ((hf a).cursor m').trans hcursor
  · have hblames := hx.blames m
    rw [Action.runOn_bind] at h
    generalize x.runOn m = r at hblames h
    obtain ⟨why | a, m'⟩ := r
    · exact hblames stop (by simpa using h)
    · exact (hf a).blames m' stop h

theorem raise {error : BuildError} (h : ¬(Stop.raised error).IsOfText) :
    Tame (Action.raise error : Assembly α) :=
  ⟨fun _ => rfl, fun _ _ heq => by cases heq; exact h⟩

/-! ## Taking parts -/

theorem push (entry : Entry) : Tame (Action.push entry : Reduction) :=
  ⟨fun _ => rfl, fun _ _ h => by cases h⟩

theorem peek : Tame (Action.peek : Assembly (Option Entry)) :=
  ⟨fun _ => rfl, fun _ _ h => by cases h⟩

theorem pop : Tame (Action.pop : Assembly Entry) := by
  have hrun : ∀ m : Mark Entry, (Action.pop : Assembly Entry).runOn m =
      match m.stack with
      | [] => (.error .emptyStack, m)
      | value :: stack => (.ok value, { m with stack }) := by
    intro m
    obtain ⟨cursor, stack, frame⟩ := m
    cases stack <;> rfl
  refine ⟨fun m => ?_, fun m stop h => ?_⟩
  · rw [hrun]
    split <;> rfl
  · rw [hrun] at h
    split at h
    · cases h
      exact fun hstop => hstop
    · cases h

theorem takeRun (view : Entry → Option α) : Tame (Reduction.takeRun view) :=
  ⟨fun _ => rfl, fun _ _ h => by cases h⟩

theorem takeToBoundary (view : Entry → Option α) (opener : String) :
    Tame (Reduction.takeToBoundary view opener) := by
  refine (takeRun view).bind fun parts => peek.bind fun found => ?_
  split
  · split
    · exact pop.bind fun _ => pure _
    · exact raise fun h => h
  · exact raise fun h => h

theorem takeExpected (view : Entry → Option α) : Tame (Reduction.takeExpected view) := by
  refine pop.bind fun entry => ?_
  split
  · exact pure _
  · exact raise fun h => h

theorem takeOptional (view : Entry → Option α) : Tame (Reduction.takeOptional view) := by
  refine peek.bind fun found => ?_
  split
  · exact pop.bind fun _ => pure _
  · exact pure _

theorem held (name : String) : Tame (Action.slot? name : Assembly (Option Entry)) :=
  ⟨fun _ => rfl, fun _ _ h => by cases h⟩

theorem slot (view : Entry → Option α) (name : String) : Tame (Reduction.slot view name) := by
  refine (held name).bind fun entry => ?_
  split
  · exact pure _
  · exact raise fun h => h

theorem slot? (view : Entry → Option α) (name : String) : Tame (Reduction.slot? view name) := by
  refine (held name).bind fun entry => ?_
  split
  · exact pure _
  · split
    · exact pure _
    · exact raise fun h => h

theorem flagged (name : String) : Tame (Reduction.flagged name) :=
  (slot? _ name).bind fun _ => pure _

/-! ## Reductions -/

theorem mapType : Tame Reduction.mapType :=
  (slot _ _).bind fun _ => (slot _ _).bind fun _ => (slot? _ _).bind fun _ => push _

theorem setType : Tame Reduction.setType :=
  (slot _ _).bind fun _ => (slot? _ _).bind fun _ => push _

theorem listType : Tame Reduction.listType :=
  (slot _ _).bind fun _ => (slot? _ _).bind fun _ => push _

theorem constList : Tame Reduction.constList := (takeToBoundary _ _).bind fun _ => push _

theorem mapEntry : Tame Reduction.mapEntry :=
  (takeExpected _).bind fun _ => (takeExpected _).bind fun _ => push _

theorem constMap : Tame Reduction.constMap := (takeToBoundary _ _).bind fun _ => push _

theorem attributes : Tame Reduction.attributes := (takeToBoundary _ _).bind fun _ => push _

theorem field (options : BuildOptions) : Tame (Reduction.field options) := by
  refine (slot? _ _).bind fun _ => (flagged _).bind fun _ => (flagged _).bind fun _ =>
    (slot _ _).bind fun _ => (slot _ _).bind fun _ => (slot? _ _).bind fun _ =>
    (slot? _ _).bind fun _ => ?_
  dsimp only
  split
  · exact (slot? _ _).bind fun _ => push _
  · exact (pure _).bind fun _ => push _

theorem throws : Tame Reduction.throws := (takeToBoundary _ _).bind fun _ => push _

theorem function : Tame Reduction.function :=
  (takeOptional _).bind fun _ => (takeToBoundary _ _).bind fun _ => (slot _ _).bind fun _ =>
    (slot _ _).bind fun _ => (flagged _).bind fun _ => push _

theorem const : Tame Reduction.const :=
  (slot _ _).bind fun _ => (slot _ _).bind fun _ => (slot _ _).bind fun _ => push _

theorem typedef : Tame Reduction.typedef :=
  (slot _ _).bind fun _ => (slot _ _).bind fun _ => push _

theorem enumValue : Tame Reduction.enumValue :=
  (slot _ _).bind fun _ => (slot? _ _).bind fun _ => push _

theorem enum (options : BuildOptions) : Tame (Reduction.enum options) :=
  (takeRun _).bind fun _ => (slot _ _).bind fun _ => push _

theorem senum : Tame Reduction.senum :=
  (takeRun _).bind fun _ => (slot _ _).bind fun _ => push _

theorem struct : Tame Reduction.struct :=
  (takeRun _).bind fun _ => (slot _ _).bind fun _ => (flagged _).bind fun _ => push _

theorem union : Tame Reduction.union :=
  (takeRun _).bind fun _ => (slot _ _).bind fun _ => (flagged _).bind fun _ => push _

theorem exception : Tame Reduction.exception :=
  (takeRun _).bind fun _ => (slot _ _).bind fun _ => push _

theorem service : Tame Reduction.service :=
  (takeRun _).bind fun _ => (slot _ _).bind fun _ => (slot? _ _).bind fun _ => push _

/-- A header that is made of the top of the stack. -/
theorem head {view : Entry → Option α} (make : α → Header) :
    Tame (do Reduction.head (make (← Reduction.takeExpected view))) :=
  (takeExpected view).bind fun _ => push _

theorem targetNamespace : Tame Reduction.targetNamespace :=
  (takeExpected _).bind fun _ => (slot _ _).bind fun _ => push _

theorem document : Tame Reduction.document := by
  have hget : Tame (get : Assembly (Mark Entry)) := ⟨fun _ => rfl, fun _ _ h => by cases h⟩
  refine (takeRun _).bind fun definitions => (takeRun _).bind fun headers => hget.bind fun m => ?_
  dsimp only
  split
  · exact bind (raise (by exact fun h => h)) fun _ => push _
  · exact push _

end Tame

/-! ## Leaves -/

/-- A builder of leaves that does not blame the text. -/
def Mild (build : Leaf.Builder) : Prop :=
  ∀ text error, build text = .error error → ¬(Stop.raised error).IsOfText

namespace Mild

theorem identifier : Mild Leaf.identifier := fun _ _ h => by cases h

theorem literal : Mild Leaf.literal := fun _ _ h => by cases h

theorem baseType : Mild Leaf.baseType := fun _ _ h => by cases h

theorem void : Mild Leaf.void := fun _ _ h => by cases h

theorem scope : Mild Leaf.scope := fun _ _ h => by cases h

theorem hexadecimal : Mild Leaf.hexadecimal := by
  intro text error h
  unfold Leaf.hexadecimal at h
  split at h
  · cases h
  · cases h
    exact fun h => h

theorem double : Mild Leaf.double := by
  intro text error h
  unfold Leaf.double at h
  split at h
  · cases h
  · cases h
    exact fun h => h

theorem requiredness : Mild Leaf.requiredness := by
  intro text error h
  unfold Leaf.requiredness at h
  split at h
  · cases h
  · cases h
  · cases h
    exact fun h => h

end Mild

/-! ## The parts of the productions -/

namespace Production

/-- A part that blames the text for nothing but a decimal integer. -/
def IsTame : Production → Prop
  | .action _ run => Tame run
  | .leaf build rule =>
    Mild build ∨ build = Leaf.integer ∧ rule = spaced (.pattern "integer" Pattern.integer)
  | _ => True

theorem IsTame.stays {rule : Production} (h : rule.IsTame) : rule.Stays := by
  cases rule with
  | action name run => exact Tame.stays h
  | _ => trivial

attribute [local simp] Rule.Every IsTame Rule.sequence Rule.firstOf word symbol spaced layout token
  ofPattern flagWord identifier dashedIdentifier literal integer hexadecimal double separator
  named ending opening fieldTypeRef constantRef fieldRef hint Mild.identifier Mild.literal
  Mild.baseType Mild.void Mild.scope Mild.hexadecimal Mild.double Mild.requiredness

theorem every_firstKeyword (words : List String) :
    Rule.Every IsTame ((words.map Rule.keyword).foldr Rule.alt Rule.never : Production) := by
  induction words with
  | nil => trivial
  | cons word words ih => exact ⟨trivial, trivial, ih⟩

@[local simp] theorem tame_oneOf (label : String) (words : List String) {build : Leaf.Builder}
    (h : Mild build) : (oneOf label words build).Every IsTame := by
  simp [oneOf, every_firstKeyword, h]

@[local simp] theorem tame_containerType : containerType.Every IsTame := by
  simp [containerType, mapType, setType, listType, Tame.mapType, Tame.setType, Tame.listType]

theorem tame_fieldType : fieldType.Every IsTame := by
  simp [fieldType, baseType]

theorem tame_constant : constant.Every IsTame := by
  simp [constant, constantList, constantMap, mapEntry, Tame.push, Reduction.openList,
    Tame.constList, Tame.mapEntry, Tame.constMap]

theorem tame_field (options : BuildOptions) : (field options).Every IsTame := by
  simp [field, fieldId, requiredness, attributes, Reduction.openList, Tame.push,
    Tame.attributes, Tame.field]

@[local simp] theorem tame_function : function.Every IsTame := by
  simp [function, returnType, throws, Reduction.openList, Tame.push, Tame.throws, Tame.function]

@[local simp] theorem tame_header : header.Every IsTame := by
  simp [header, includeHeader, cppInclude, targetNamespace, phpNamespace, xsdNamespace,
    literalHeader, smalltalkCategory, smalltalkPrefix, scopedName, namespaceScope,
    Reduction.includeHeader, Reduction.cppInclude, Reduction.phpNamespace, Reduction.xsdNamespace,
    Reduction.smalltalkCategory, Reduction.smalltalkPrefix, Tame.head, Tame.targetNamespace]

@[local simp] theorem tame_definition (options : BuildOptions) :
    (definition options).Every IsTame := by
  simp [definition, const, typedef, definitionType, enum, enumValue, senum, struct, union,
    exception, service, baseType, Tame.const, Tame.typedef, Tame.enum, Tame.enumValue, Tame.senum,
    Tame.struct, Tame.union, Tame.exception, Tame.service]

/-- No part of a document is to blame where a match breaks off, and no action moves the cursor. -/
theorem tame_document (options : BuildOptions) : (document options).Every IsTame := by
  simp [document, Tame.document]

theorem tame_find? {options : BuildOptions} {name : String} {rule : Production}
    (h : find? options name = some rule) : rule.Every IsTame := by
  unfold find? at h
  split at h
  · cases h
    exact tame_fieldType
  · cases h
    exact tame_constant
  · cases h
    exact tame_field options
  · cases h

end Production

end ThriftSchema
