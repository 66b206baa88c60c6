import ThriftSchema.Proofs.Outline.Label

set_option autoImplicit false

/-! # Trees

The tree of a node shows each of its fields in the label, or as a branch, or not at all, and of
each shape there is only one value that is not shown. So the fields can be told from the tree, by
induction on the parts of an outline. In the same way the tags of all labels are in order.

* `parts_induction`: induction on the parts of an outline.
* `fieldTrees_eq`: the branches of a node.
* `eq_of_tree`: telling outlines of one shape by their trees.
* `labelsInOrder_tree`: the labels of the tree of an outline.
-/

namespace ThriftSchema.Outline

open Command (InOrder)
open Text

variable {kind name : String} {value value' : Outline} {fields fields' : List (String × Outline)}
  {items items' : List Outline} {shape item : Shape} {shapes : List (String × Shape)}

/-! ## Parts -/

/-- The fields of a node, or the items of a tuple or list. -/
def parts : Outline → List Outline
  | node _ fields => fields.map Prod.snd
  | tuple items | list items => items
  | _ => []

/-- What holds of an outline if it holds of its parts holds of all outlines. -/
theorem parts_induction {motive : Outline → Prop}
    (step : ∀ value : Outline, (∀ part ∈ value.parts, motive part) → motive value)
    (value : Outline) : motive value := by
  have hleaf : ∀ value : Outline, value.parts = [] → motive value := fun value h =>
    step value (by simp [h])
  refine @Outline.rec motive (fun fields => ∀ field ∈ fields, motive field.2)
    (fun items => ∀ item ∈ items, motive item) (fun field => motive field.2) ?absent ?flag ?integer
    ?double ?text ?member ?node ?tuple ?list ?noField ?field ?noItem ?item ?pair value
  case node =>
    intro kind fields h
    refine step _ fun part hpart => ?_
    obtain ⟨field, hfield, rfl⟩ := List.mem_map.1 hpart
    exact h field hfield
  case tuple | list => exact fun items h => step _ h
  case noField | noItem => exact fun _ h => absurd h List.not_mem_nil
  case field | item => exact fun _ _ hhead htail => List.forall_mem_cons.2 ⟨hhead, htail⟩
  case pair => exact fun _ _ h => h
  all_goals intros; exact hleaf _ rfl

/-! ## Branches -/

/-- The trees that a node shows for a field on a branch of its own. -/
def branches? : Outline → Option (List Tree)
  | tuple (item :: items) | list (item :: items) => some (itemTrees (item :: items))
  | node kind fields =>
    if isIdentifier (node kind fields) then none else some [tree (node kind fields)]
  | _ => none

/-- A node has a branch for each field that has trees of its own. -/
theorem fieldTrees_eq (fields : List (String × Outline)) :
    fieldTrees fields =
      (keyed branches? fields).map fun entry => .node (branchLabel entry.1) entry.2 := by
  induction fields with
  | nil => rfl
  | cons field fields ih =>
      obtain ⟨name, value⟩ := field
      unfold fieldTrees
      split
      · rw [keyed_cons_some (f := branches?) rfl, List.map_cons, ih]
      · rw [keyed_cons_some (f := branches?) rfl, List.map_cons, ih]
      · next kind inner =>
        split
        · next h => rw [keyed_cons_none (by rw [branches?, if_pos h]), ih]
        · next h => rw [keyed_cons_some (by rw [branches?, if_neg h]), List.map_cons, ih]
      · next htuple hlist hnode =>
        have hnone : branches? value = none := by
          unfold branches?
          split
          · exact absurd rfl (htuple _ _)
          · exact absurd rfl (hlist _ _)
          · exact absurd rfl (hnode _ _)
          · rfl
        rw [keyed_cons_none hnone, ih]

theorem branchLabel_injective : Function.Injective branchLabel := by
  intro name name' h
  have hchars := congrArg String.toList h
  rw [branchLabel, branchLabel, String.toList_append, String.toList_append, String.toList_append,
    String.toList_append] at hchars
  exact String.toList_inj.1 (List.append_cancel_left (List.append_cancel_right hchars))

theorem keyed_eq_of_fieldTrees (h : fieldTrees fields = fieldTrees fields') :
    keyed branches? fields = keyed branches? fields' := by
  rw [fieldTrees_eq, fieldTrees_eq] at h
  refine List.map_injective_iff.2 (fun entry entry' hentry => ?_) h
  obtain ⟨hlabel, htrees⟩ := Tree.node.inj hentry
  exact Prod.ext (branchLabel_injective hlabel) htrees

/-- The values that have trees of their own. -/
inductive BranchesTo : Outline → List Tree → Prop
  | tuple {items : List Outline} (h : items ≠ []) : BranchesTo (.tuple items) (itemTrees items)
  | list {items : List Outline} (h : items ≠ []) : BranchesTo (.list items) (itemTrees items)
  | node {kind : String} {fields : List (String × Outline)}
      (h : isIdentifier (.node kind fields) = false) :
      BranchesTo (.node kind fields) [tree (.node kind fields)]

theorem branchesTo {trees : List Tree} (h : value.branches? = some trees) :
    BranchesTo value trees := by
  unfold branches? at h
  split at h
  · obtain rfl := Option.some.inj h
    exact .tuple (List.cons_ne_nil _ _)
  · obtain rfl := Option.some.inj h
    exact .list (List.cons_ne_nil _ _)
  · split at h
    · cases h
    · next hnode =>
      obtain rfl := Option.some.inj h
      exact .node (Bool.eq_false_iff.2 hnode)
  · cases h

/-- What is neither in the label nor on a branch is not shown. -/
theorem isHidden_of_notShown (hinline : value.isInline = false) (hbranch : value.branches? = none) :
    value.isHidden = true := by
  cases value with
  | absent => rfl
  | integer | double | text | member => cases hinline
  | flag value =>
      obtain rfl : value = false := hinline
      rfl
  | tuple items | list items =>
      cases items with
      | nil => rfl
      | cons item items => cases hbranch
  | node kind fields =>
      rw [isInline] at hinline
      simp [branches?, hinline] at hbranch

theorem part_of_node (hnode : isIdentifier (.node kind fields) = false)
    (h : (node kind fields).HasShape shape) :
    shape.present = .part ∧ (node kind fields).HasShape .part := by
  rcases h with ⟨rfl, -⟩ | ⟨hkind, hpresent, hfields⟩
  · cases hnode
  · exact ⟨hpresent, .inr ⟨hkind, rfl, hfields⟩⟩

/-! ## Items -/

theorem tree_of_isInline (h : value.isInline = true) :
    value.tree = .node (escape value.inlineText) [] := by
  cases value with
  | node kind fields =>
      rw [isInline] at h
      rw [tree, if_pos h]
  | _ => rfl

theorem tree_of_isIdentifier_eq_false (h : isIdentifier (.node kind fields) = false) :
    tree (.node kind fields) = .node (label kind fields) (fieldTrees fields) := by
  rw [tree, if_neg (Bool.eq_false_iff.1 h)]

/-- What stands as an item: a text or a name, or a node that is a part. -/
theorem HasShape.item_cases (h : value.HasShape item) (hitem : item.isItem = true) :
    value.isInline = true ∨ ∃ kind fields shapes, value = .node kind fields ∧
      isIdentifier (.node kind fields) = false ∧ item = .part ∧
      nodeShapes.lookup kind = some shapes ∧ FieldsHaveShapes fields shapes := by
  have hshape : item = .part ∨ item = .text := by simpa [Shape.isItem] using hitem
  cases value with
  | absent =>
      obtain ⟨other, rfl⟩ := h
      simp at hshape
  | flag value =>
      obtain rfl : item = .flag := h
      simp at hshape
  | integer | double | text | member => exact .inl rfl
  | tuple items | list items =>
      obtain ⟨item, rfl, -⟩ := h
      simp at hshape
  | node kind fields =>
      rcases h with ⟨rfl, -⟩ | ⟨hkind, hpresent, shapes, hlookup, hfields⟩
      · exact .inl rfl
      · refine .inr ⟨kind, fields, shapes, rfl, ?_, ?_, hlookup, hfields⟩
        · rw [isIdentifier]
          exact fun _ heq => hkind (Outline.node.inj heq).1
        · rcases hshape with rfl | rfl
          · rfl
          · cases hpresent

/-! ## Telling outlines apart -/

/-- An outline can be told from the others of its shape: an item by its tree, and a field by what
its node shows for it. -/
structure IsTold (value : Outline) : Prop where
  byTree : ∀ {value' : Outline} {item : Shape}, item.isItem = true → value.HasShape item →
    value'.HasShape item → value.tree = value'.tree → value = value'
  byField : ∀ {value' : Outline} {shape : Shape}, shape.holdsItems = true → value.HasShape shape →
    value'.HasShape shape → value.shownText? = value'.shownText? →
    value.branches? = value'.branches? → value = value'

theorem eq_of_itemTrees (htold : ∀ value ∈ items, value.IsTold) (hitem : item.isItem = true)
    (h : ItemsHaveShape items item) (h' : ItemsHaveShape items' item)
    (htrees : itemTrees items = itemTrees items') : items = items' := by
  induction items generalizing items' with
  | nil =>
      cases items' with
      | nil => rfl
      | cons value' items' => cases htrees
  | cons value items ih =>
      cases items' with
      | nil => cases htrees
      | cons value' items' =>
          obtain ⟨hvalue, hitems⟩ := List.forall_mem_cons.1 htold
          obtain ⟨htree, htrees⟩ := List.cons.inj htrees
          rw [hvalue.byTree hitem h.1 h'.1 htree, ih hitems h.2 h'.2 htrees]

theorem eq_of_keyed (htold : ∀ field ∈ fields, field.2.IsTold) (hlegible : Legible shapes)
    (h : FieldsHaveShapes fields shapes) (h' : FieldsHaveShapes fields' shapes)
    (hshown : keyed shownText? fields = keyed shownText? fields')
    (hbranches : keyed branches? fields = keyed branches? fields') : fields = fields' := by
  induction shapes generalizing fields fields' with
  | nil => rw [fieldsHaveShapes_nil h, fieldsHaveShapes_nil h']
  | cons field shapes ih =>
      obtain ⟨name, shape⟩ := field
      obtain ⟨value, rest, rfl, hvalue, hrest⟩ := fieldsHaveShapes_cons h
      obtain ⟨value', rest', rfl, hvalue', hrest'⟩ := fieldsHaveShapes_cons h'
      obtain ⟨htoldValue, htoldRest⟩ := List.forall_mem_cons.1 htold
      have hnames := hlegible.name_ne hrest
      have hnames' := hlegible.name_ne hrest'
      obtain ⟨htext, hshown⟩ := keyed_cons_inj hnames hnames' hshown
      obtain ⟨htrees, hbranches⟩ := keyed_cons_inj hnames hnames' hbranches
      have hitems : shape.holdsItems = true := hlegible.items _ List.mem_cons_self
      have hsame : value = value' := htoldValue.byField hitems hvalue hvalue' htext htrees
      rw [hsame, ih htoldRest hlegible.tail hrest hrest' hshown hbranches]

/-- A name does not look like the label of a node. -/
theorem escape_ne_label (h : ShownAs .part value) :
    escape value.inlineText ≠ label kind fields := by
  have hsolid := h.isSolid (by decide)
  have hbracket : '[' ∉ value.inlineText.toList := fun hmem => (hsolid _ hmem).2.1 rfl
  intro heq
  have hchars := congrArg String.toList heq
  rw [toList_escape, h.guardEnd_inlineText, escapeChars_of_notMem hbracket, toList_label,
    String.toList_append, String.toList_append] at hchars
  refine hbracket ?_
  rw [hchars]
  exact List.mem_append_left _ (List.mem_append_left _ (List.mem_append_left _ (by decide)))

/-- Items are told by their trees if their parts are. -/
theorem eq_of_tree_of_parts (htold : ∀ part ∈ value.parts, part.IsTold)
    (hitem : item.isItem = true) (h : value.HasShape item) (h' : value'.HasShape item)
    (htree : value.tree = value'.tree) : value = value' := by
  rcases h.item_cases hitem with hinline | ⟨kind, fields, shapes, rfl, hnode, rfl, hkind, hfields⟩
  · rcases h'.item_cases hitem with hinline' | ⟨kind', fields', shapes', rfl, hnode', rfl, -⟩
    · rw [tree_of_isInline hinline, tree_of_isInline hinline'] at htree
      exact (h.shownAs hinline).eq_of_escape (h'.shownAs hinline') (Tree.node.inj htree).1
    · rw [tree_of_isInline hinline, tree_of_isIdentifier_eq_false hnode'] at htree
      exact absurd (Tree.node.inj htree).1 (escape_ne_label (h.shownAs hinline))
  · rcases h'.item_cases hitem with
      hinline' | ⟨kind', fields', shapes', rfl, hnode', -, hkind', hfields'⟩
    · rw [tree_of_isInline hinline', tree_of_isIdentifier_eq_false hnode] at htree
      exact absurd (Tree.node.inj htree).1.symm (escape_ne_label (h'.shownAs hinline'))
    · rw [tree_of_isIdentifier_eq_false hnode, tree_of_isIdentifier_eq_false hnode'] at htree
      obtain ⟨hlabel, hbranches⟩ := Tree.node.inj htree
      obtain ⟨rfl, hshown⟩ := label_inj hkind hkind' hfields hfields' hlabel
      obtain rfl := Option.some.inj (hkind.symm.trans hkind')
      rw [eq_of_keyed (fun field hfield => htold _ (List.mem_map_of_mem hfield))
        (legible_nodeShapes hkind).2 hfields hfields' hshown (keyed_eq_of_fieldTrees hbranches)]

/-- Fields are told by their branches if their parts are told. -/
theorem eq_of_branchesTo {trees trees' : List Tree} (htold : ∀ part ∈ value.parts, part.IsTold)
    (hitems : shape.holdsItems = true) (h : value.HasShape shape) (h' : value'.HasShape shape)
    (hbranches : BranchesTo value trees) (hbranches' : BranchesTo value' trees')
    (htrees : trees = trees') : value = value' := by
  cases hbranches with
  | tuple =>
      obtain ⟨item, rfl, hall⟩ := h
      cases hbranches' with
      | tuple =>
          obtain ⟨item', heq, hall'⟩ := h'
          obtain rfl := Shape.tuple.inj heq
          exact congrArg Outline.tuple (eq_of_itemTrees htold hitems hall hall' htrees)
      | list =>
          obtain ⟨item', heq, -⟩ := h'
          cases heq
      | node hnode' => cases (part_of_node hnode' h').1
  | list =>
      obtain ⟨item, rfl, hall⟩ := h
      cases hbranches' with
      | tuple =>
          obtain ⟨item', heq, -⟩ := h'
          cases heq
      | list =>
          obtain ⟨item', heq, hall'⟩ := h'
          obtain rfl := Shape.list.inj heq
          exact congrArg Outline.list (eq_of_itemTrees htold hitems hall hall' htrees)
      | node hnode' => cases (part_of_node hnode' h').1
  | node hnode =>
      obtain ⟨hpresent, hpart⟩ := part_of_node hnode h
      cases hbranches' with
      | tuple | list =>
          obtain ⟨item', rfl, -⟩ := h'
          cases hpresent
      | node hnode' =>
          exact eq_of_tree_of_parts htold rfl hpart (part_of_node hnode' h').2
            (List.singleton_inj.1 htrees)

/-- Fields are told by what their node shows for them if their parts are told. -/
theorem eq_of_shown (htold : ∀ part ∈ value.parts, part.IsTold) (hitems : shape.holdsItems = true)
    (h : value.HasShape shape) (h' : value'.HasShape shape)
    (hshown : value.shownText? = value'.shownText?)
    (hbranches : value.branches? = value'.branches?) : value = value' := by
  cases hinline : value.isInline with
  | true =>
      have hinline' : value'.isInline = true := by
        by_contra hnot
        simp [shownText?, hinline, hnot] at hshown
      simp only [shownText?, hinline, hinline', if_true] at hshown
      exact (h.shownAs hinline).eq_of_escape (h'.shownAs hinline') (Option.some.inj hshown)
  | false =>
      have hinline' : value'.isInline = false := by
        by_contra hnot
        simp [shownText?, hinline, hnot] at hshown
      cases htrees : value.branches? with
      | some trees =>
          exact eq_of_branchesTo htold hitems h h' (branchesTo htrees)
            (branchesTo (hbranches.symm.trans htrees)) rfl
      | none =>
          have hhidden := isHidden_of_notShown hinline htrees
          have hhidden' := isHidden_of_notShown hinline' (hbranches.symm.trans htrees)
          exact (h.hiddenAs hhidden).eq (h'.hiddenAs hhidden')

theorem isTold (value : Outline) : value.IsTold :=
  parts_induction (fun _ htold => ⟨eq_of_tree_of_parts htold, eq_of_shown htold⟩) value

/-- Of the outlines of one shape there is only one with a given tree. -/
theorem eq_of_tree (hitem : item.isItem = true) (h : value.HasShape item)
    (h' : value'.HasShape item) (htree : value.tree = value'.tree) : value = value' :=
  (isTold value).byTree hitem h h' htree

/-! ## Labels in order -/

/-- The tags of all labels of a tree are in order. -/
def LabelsInOrder (tree : Tree) : Prop := ∀ label ∈ tree.labels, InOrder label.toList

theorem labelsInOrder_node {label : String} {branches : List Tree} (hlabel : InOrder label.toList)
    (hbranches : ∀ tree ∈ branches, LabelsInOrder tree) : LabelsInOrder (.node label branches) := by
  rw [LabelsInOrder, Tree.labels]
  refine List.forall_mem_cons.2 ⟨hlabel, ?_⟩
  induction branches with
  | nil => exact List.forall_mem_nil _
  | cons tree trees ih =>
      obtain ⟨htree, htrees⟩ := List.forall_mem_cons.1 hbranches
      rw [Tree.branchLabels]
      exact List.forall_mem_append.2 ⟨htree, ih htrees⟩

/-- All labels for an outline of a shape are in order: those of an item, and those of a field. -/
structure IsShownInOrder (value : Outline) : Prop where
  tree : ∀ {item : Shape}, item.isItem = true → value.HasShape item → LabelsInOrder value.tree
  branches : ∀ {shape : Shape} {trees : List Tree}, shape.holdsItems = true →
    value.HasShape shape → value.branches? = some trees → ∀ tree ∈ trees, LabelsInOrder tree

theorem labelsInOrder_itemTrees (hshown : ∀ value ∈ items, value.IsShownInOrder)
    (hitem : item.isItem = true) (h : ItemsHaveShape items item) :
    ∀ tree ∈ itemTrees items, LabelsInOrder tree := by
  induction items with
  | nil => exact List.forall_mem_nil _
  | cons value items ih =>
      obtain ⟨hvalue, hitems⟩ := List.forall_mem_cons.1 hshown
      rw [itemTrees]
      exact List.forall_mem_cons.2 ⟨hvalue.tree hitem h.1, ih hitems h.2⟩

theorem labelsInOrder_fieldTrees (hshown : ∀ field ∈ fields, field.2.IsShownInOrder)
    (hlegible : Legible shapes) (h : FieldsHaveShapes fields shapes) :
    ∀ tree ∈ fieldTrees fields, LabelsInOrder tree := by
  rw [fieldTrees_eq]
  induction shapes generalizing fields with
  | nil =>
      rw [fieldsHaveShapes_nil h]
      exact List.forall_mem_nil _
  | cons field shapes ih =>
      obtain ⟨name, shape⟩ := field
      obtain ⟨value, rest, rfl, hvalue, hrest⟩ := fieldsHaveShapes_cons h
      obtain ⟨hshownValue, hshownRest⟩ := List.forall_mem_cons.1 hshown
      cases htrees : value.branches? with
      | none =>
          rw [keyed_cons_none htrees]
          exact ih hshownRest hlegible.tail hrest
      | some trees =>
          have hname : IsInert name := hlegible.names _ List.mem_cons_self
          have hitems : shape.holdsItems = true := hlegible.items _ List.mem_cons_self
          rw [keyed_cons_some htrees, List.map_cons]
          exact List.forall_mem_cons.2 ⟨labelsInOrder_node (inOrder_branchLabel hname)
            (hshownValue.branches hitems hvalue htrees), ih hshownRest hlegible.tail hrest⟩

theorem labelsInOrder_of_parts (hshown : ∀ part ∈ value.parts, part.IsShownInOrder)
    (hitem : item.isItem = true) (h : value.HasShape item) : LabelsInOrder value.tree := by
  rcases h.item_cases hitem with hinline | ⟨kind, fields, shapes, rfl, hnode, -, hkind, hfields⟩
  · rw [tree_of_isInline hinline]
    exact labelsInOrder_node (.escaped _) (List.forall_mem_nil _)
  · rw [tree_of_isIdentifier_eq_false hnode]
    exact labelsInOrder_node (inOrder_label hkind hfields)
      (labelsInOrder_fieldTrees (fun field hfield => hshown _ (List.mem_map_of_mem hfield))
        (legible_nodeShapes hkind).2 hfields)

theorem isShownInOrder (value : Outline) : value.IsShownInOrder := by
  refine parts_induction (fun value hshown => ⟨labelsInOrder_of_parts hshown, ?_⟩) value
  intro shape trees hitems h htrees
  cases branchesTo htrees with
  | tuple | list =>
      obtain ⟨item, rfl, hall⟩ := h
      exact labelsInOrder_itemTrees hshown hitems hall
  | node hnode =>
      exact List.forall_mem_singleton.2
        (labelsInOrder_of_parts hshown rfl (part_of_node hnode h).2)

/-- The tags of all labels for an item are in order. -/
theorem labelsInOrder_tree (hitem : item.isItem = true) (h : value.HasShape item) :
    LabelsInOrder value.tree := (isShownInOrder value).tree hitem h

end ThriftSchema.Outline
