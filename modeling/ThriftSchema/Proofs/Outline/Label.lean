import ThriftSchema.Command.Console
import ThriftSchema.Proofs.Outline.Shape

set_option autoImplicit false

/-! # Labels

The label of a node shows its kind, and behind it the fields that are plain values or names, each
behind a blank. The name of a field ends at an equals sign, and its text, unless it is the last
one, at the next blank. So the kind and the fields that are shown can be told from a label. What
is escaped in a label comes last, so that it makes no tag with anything else.

* `keyed`: what there is for fields, by their names.
* `toList_label`: the characters of a label.
* `label_inj`: telling kinds and fields by labels.
* `inOrder_label`: the tags of a label are in order.
-/

namespace ThriftSchema.Outline

open Command (InOrder styled)
open Text

variable {β : Type} {f : Outline → Option β} {name kind kind' : String} {value value' : Outline}
  {fields fields' : List (String × Outline)} {shape : Shape} {shapes : List (String × Shape)}

/-! ## Fields of shapes -/

theorem fieldsHaveShapes_nil (h : FieldsHaveShapes fields []) : fields = [] := by
  cases fields with
  | nil => rfl
  | cons field fields => exact h.elim

theorem fieldsHaveShapes_cons (h : FieldsHaveShapes fields ((name, shape) :: shapes)) :
    ∃ value rest, fields = (name, value) :: rest ∧ value.HasShape shape ∧
      FieldsHaveShapes rest shapes := by
  cases fields with
  | nil => exact h.elim
  | cons field rest =>
      obtain ⟨other, value⟩ := field
      obtain ⟨rfl, hvalue, hrest⟩ := h
      exact ⟨value, rest, rfl, hvalue, hrest⟩

theorem names_of_shapes (h : FieldsHaveShapes fields shapes) :
    fields.map Prod.fst = shapes.map Prod.fst := by
  induction shapes generalizing fields with
  | nil =>
      rw [fieldsHaveShapes_nil h]
      rfl
  | cons field shapes ih =>
      obtain ⟨value, rest, rfl, -, hrest⟩ := fieldsHaveShapes_cons h
      rw [List.map_cons, List.map_cons, ih hrest]

/-- In legible fields no later one has the name of the first. -/
theorem Legible.name_ne (h : Legible ((name, shape) :: shapes))
    (hfields : FieldsHaveShapes fields shapes) : ∀ field ∈ fields, field.1 ≠ name := by
  intro field hfield heq
  have hmem : field.1 ∈ shapes.map Prod.fst := by
    rw [← names_of_shapes hfields]
    exact List.mem_map_of_mem hfield
  obtain ⟨later, hlater, hsame⟩ := List.mem_map.1 hmem
  exact ((List.pairwise_cons.1 h.apart).1 later hlater).1 (heq.symm.trans hsame.symm)

/-- Nothing comes behind what has to be escaped. -/
theorem Legible.nil_of_isFree (h : Legible ((name, shape) :: shapes))
    (hfree : shape.isFree = true) : shapes = [] := by
  cases shapes with
  | nil => rfl
  | cons later shapes =>
      have hlater := ((List.pairwise_cons.1 h.apart).1 later List.mem_cons_self).2
      rw [hfree] at hlater
      cases hlater

/-! ## Fields by their names -/

/-- What there is for fields, by their names. -/
def keyed (f : Outline → Option β) (fields : List (String × Outline)) : List (String × β) :=
  fields.filterMap fun field => (f field.2).map (field.1, ·)

theorem keyed_cons_none (h : f value = none) : keyed f ((name, value) :: fields) = keyed f fields :=
  by simp [keyed, h]

theorem keyed_cons_some {b : β} (h : f value = some b) :
    keyed f ((name, value) :: fields) = (name, b) :: keyed f fields := by simp [keyed, h]

theorem exists_mem_of_mem_keyed {entry : String × β} (h : entry ∈ keyed f fields) :
    ∃ field ∈ fields, field.1 = entry.1 := by
  obtain ⟨field, hfield, hentry⟩ := List.mem_filterMap.1 h
  obtain ⟨b, -, rfl⟩ := Option.map_eq_some_iff.1 hentry
  exact ⟨field, hfield, rfl⟩

/-- Where no later field has the name of the first, there is the same for it and for the others. -/
theorem keyed_cons_inj (hnames : ∀ field ∈ fields, field.1 ≠ name)
    (hnames' : ∀ field ∈ fields', field.1 ≠ name)
    (h : keyed f ((name, value) :: fields) = keyed f ((name, value') :: fields')) :
    f value = f value' ∧ keyed f fields = keyed f fields' := by
  have hnone : ∀ {fields : List (String × Outline)} {b : β} {rest : List (String × β)},
      (∀ field ∈ fields, field.1 ≠ name) → keyed f fields ≠ (name, b) :: rest := by
    intro fields b rest hnames heq
    obtain ⟨field, hfield, hname⟩ :=
      exists_mem_of_mem_keyed (show (name, b) ∈ keyed f fields from heq ▸ List.mem_cons_self)
    exact hnames field hfield hname
  cases hvalue : f value with
  | none =>
      rw [keyed_cons_none hvalue] at h
      cases hvalue' : f value' with
      | none => exact ⟨rfl, h.trans (keyed_cons_none hvalue')⟩
      | some b => exact absurd (h.trans (keyed_cons_some hvalue')) (hnone hnames)
  | some b =>
      rw [keyed_cons_some hvalue] at h
      cases hvalue' : f value' with
      | none => exact absurd (h.trans (keyed_cons_none hvalue')).symm (hnone hnames')
      | some b' =>
          obtain ⟨heq, hrest⟩ := List.cons.inj (h.trans (keyed_cons_some hvalue'))
          obtain ⟨-, rfl⟩ := Prod.mk.inj heq
          exact ⟨rfl, hrest⟩

/-! ## The characters of a label -/

/-- The text that a label shows of a value. -/
def shownText? (value : Outline) : Option String :=
  if value.isInline then some (escape value.inlineText) else none

/-- The part of a label behind the kind: texts behind names. -/
def labelTail (shown : List (String × String)) : List Char :=
  shown.flatMap fun entry => ' ' :: (entry.1.toList ++ '=' :: entry.2.toList)

theorem labelTail_cons (name text : String) (shown : List (String × String)) :
    labelTail ((name, text) :: shown) =
      ' ' :: (name.toList ++ '=' :: (text.toList ++ labelTail shown)) := by
  simp [labelTail]

theorem flatMap_labelPart? (fields : List (String × Outline)) :
    (fields.filterMap labelPart?).flatMap (fun part => ' ' :: part.toList) =
      labelTail (keyed shownText? fields) := by
  induction fields with
  | nil => rfl
  | cons field fields ih =>
      obtain ⟨name, value⟩ := field
      cases hinline : value.isInline with
      | false =>
          have hnone : shownText? value = none := by simp [shownText?, hinline]
          rw [keyed_cons_none hnone, ← ih, List.filterMap_cons_none (by simp [labelPart?, hinline])]
      | true =>
          have hsome : shownText? value = some (escape value.inlineText) := by
            simp [shownText?, hinline]
          rw [keyed_cons_some hsome, labelTail_cons, ← ih,
            List.filterMap_cons_some (by rw [labelPart?, if_pos hinline]), List.flatMap_cons]
          simp

/-- A label is its kind in bold, and what it shows of the fields. -/
theorem toList_label (kind : String) (fields : List (String × Outline)) :
    (label kind fields).toList = ("[bold]" ++ kind ++ "[/bold]").toList ++
      labelTail (keyed shownText? fields) := by
  have hjoin : ∀ (first : String) (parts : List String),
      (" ".intercalate (first :: parts)).toList =
        first.toList ++ parts.flatMap fun part => ' ' :: part.toList := by
    intro first parts
    rw [String.toList_intercalate]
    induction parts generalizing first with
    | nil => simp
    | cons part parts ih =>
        rw [List.map_cons, List.map_cons, List.intercalate_cons_cons, ← List.map_cons, ih]
        simp
  rw [label, hjoin, flatMap_labelPart?]

/-! ## Telling labels apart -/

theorem notMem_of_isInert {text : String} {c : Char} (h : IsInert text)
    (hc : isInertChar c = false) : c ∉ text.toList := fun hmem => by
  rw [h c hmem] at hc
  cases hc

/-- A text that is shown in front of another field holds no blanks, brackets or backslashes. -/
theorem isSolid_shownText {text : String} (hfree : shape.isFree = false)
    (h : value.HasShape shape) (htext : shownText? value = some text) : IsSolid text := by
  unfold shownText? at htext
  split at htext
  · next hinline =>
    obtain rfl := Option.some.inj htext
    have hshape : shape.present ≠ .text ∧ shape.present ≠ .name := by
      simpa [Shape.isFree] using hfree
    have hsolid := (h.shownAs hinline).isSolid hshape
    have hbracket : '[' ∉ value.inlineText.toList := fun hmem => (hsolid _ hmem).2.1 rfl
    rwa [IsSolid, toList_escape, (h.shownAs hinline).guardEnd_inlineText,
      escapeChars_of_notMem hbracket]
  · cases htext

theorem notAhead_labelTail (shown : List (String × String)) :
    NotAhead (· != ' ') (labelTail shown) := by
  cases shown with
  | nil => exact notAhead_nil _
  | cons entry shown =>
      rw [labelTail_cons]
      exact notAhead_cons.2 rfl

/-- Behind one label a name is shown, and behind the other one it is not. -/
theorem labelTail_ne {text : String} {shown others : List (String × String)}
    (hname : IsInert name) (hothers : ∀ entry ∈ others, IsInert entry.1 ∧ entry.1 ≠ name) :
    labelTail ((name, text) :: shown) ≠ labelTail others := by
  cases others with
  | nil => exact List.cons_ne_nil _ _
  | cons entry others =>
      obtain ⟨hentry, hne⟩ := hothers entry List.mem_cons_self
      have hclass : ∀ {name : String}, IsInert name → ∀ c ∈ name.toList, (c != '=') = true := by
        intro name h c hc
        rw [bne_iff_ne]
        rintro rfl
        exact notMem_of_isInert h (by decide) hc
      intro heq
      rw [labelTail_cons, labelTail_cons] at heq
      obtain ⟨hnames, -⟩ := append_inj_of_notAhead (hclass hname) (hclass hentry)
        (notAhead_cons.2 rfl) (notAhead_cons.2 rfl) (List.cons.inj heq).2
      exact hne (String.toList_inj.1 hnames).symm

theorem entries_of_shapes (hlegible : Legible ((name, shape) :: shapes))
    (h : FieldsHaveShapes fields shapes) :
    ∀ entry ∈ keyed f fields, IsInert entry.1 ∧ entry.1 ≠ name := by
  intro entry hentry
  obtain ⟨field, hfield, hname⟩ := exists_mem_of_mem_keyed hentry
  have hmem : field.1 ∈ shapes.map Prod.fst := by
    rw [← names_of_shapes h]
    exact List.mem_map_of_mem hfield
  obtain ⟨later, hlater, hsame⟩ := List.mem_map.1 hmem
  rw [← hname]
  exact ⟨hsame ▸ hlegible.tail.names later hlater, hlegible.name_ne h field hfield⟩

/-- What is shown of legible fields can be told from the end of a label. -/
theorem keyed_eq_of_labelTail (hlegible : Legible shapes) (h : FieldsHaveShapes fields shapes)
    (h' : FieldsHaveShapes fields' shapes)
    (htail : labelTail (keyed shownText? fields) = labelTail (keyed shownText? fields')) :
    keyed shownText? fields = keyed shownText? fields' := by
  induction shapes generalizing fields fields' with
  | nil => rw [fieldsHaveShapes_nil h, fieldsHaveShapes_nil h']
  | cons field shapes ih =>
      obtain ⟨name, shape⟩ := field
      obtain ⟨value, rest, rfl, hvalue, hrest⟩ := fieldsHaveShapes_cons h
      obtain ⟨value', rest', rfl, hvalue', hrest'⟩ := fieldsHaveShapes_cons h'
      have hname : IsInert name := hlegible.names _ List.mem_cons_self
      cases hshown : shownText? value with
      | none =>
          rw [keyed_cons_none hshown] at htail ⊢
          cases hshown' : shownText? value' with
          | none =>
              rw [keyed_cons_none hshown'] at htail ⊢
              exact ih hlegible.tail hrest hrest' htail
          | some text' =>
              rw [keyed_cons_some hshown'] at htail
              exact absurd htail.symm (labelTail_ne hname (entries_of_shapes hlegible hrest))
      | some text =>
          rw [keyed_cons_some hshown] at htail ⊢
          cases hshown' : shownText? value' with
          | none =>
              rw [keyed_cons_none hshown'] at htail
              exact absurd htail (labelTail_ne hname (entries_of_shapes hlegible hrest'))
          | some text' =>
              rw [keyed_cons_some hshown'] at htail ⊢
              rw [labelTail_cons, labelTail_cons] at htail
              have hbehind := List.append_cancel_left (List.cons.inj htail).2
              obtain ⟨htext, hmore⟩ : text = text' ∧
                  keyed shownText? rest = keyed shownText? rest' := by
                cases hfree : shape.isFree with
                | true =>
                    -- nothing comes behind the two texts
                    obtain rfl := hlegible.nil_of_isFree hfree
                    rw [fieldsHaveShapes_nil hrest, fieldsHaveShapes_nil hrest'] at hbehind ⊢
                    have hsame := List.append_cancel_right (List.cons.inj hbehind).2
                    exact ⟨String.toList_inj.1 hsame, rfl⟩
                | false =>
                    -- both texts end at the next blank
                    have hclass : ∀ {text : String}, IsSolid text →
                        ∀ c ∈ text.toList, (c != ' ') = true := fun h c hc => by
                      simpa using (h c hc).1
                    obtain ⟨htext, hmore⟩ := append_inj_of_notAhead
                      (hclass (isSolid_shownText hfree hvalue hshown))
                      (hclass (isSolid_shownText hfree hvalue' hshown'))
                      (notAhead_labelTail _) (notAhead_labelTail _) (List.cons.inj hbehind).2
                    exact ⟨String.toList_inj.1 htext, ih hlegible.tail hrest hrest' hmore⟩
              rw [htext, hmore]

/-- The kind of a node and what is shown of its fields can be told from its label. -/
theorem label_inj {shapes' : List (String × Shape)} (hkind : nodeShapes.lookup kind = some shapes)
    (hkind' : nodeShapes.lookup kind' = some shapes') (h : FieldsHaveShapes fields shapes)
    (h' : FieldsHaveShapes fields' shapes') (hlabel : label kind fields = label kind' fields') :
    kind = kind' ∧ keyed shownText? fields = keyed shownText? fields' := by
  obtain ⟨hinert, hlegible⟩ := legible_nodeShapes hkind
  obtain ⟨hinert', -⟩ := legible_nodeShapes hkind'
  have hclass : ∀ {kind : String}, IsInert kind → ∀ c ∈ kind.toList, (c != '[') = true :=
    fun h c hc => by
      rw [bne_iff_ne]
      rintro rfl
      exact notMem_of_isInert h (by decide) hc
  have hsplit : ∀ (kind : String) (fields : List (String × Outline)), (label kind fields).toList =
      "[bold]".toList ++ (kind.toList ++
        '[' :: ("/bold]".toList ++ labelTail (keyed shownText? fields))) := by
    intro kind fields
    rw [toList_label, String.toList_append, String.toList_append, List.append_assoc,
      List.append_assoc]
    rfl
  have hchars : (label kind fields).toList = (label kind' fields').toList := by rw [hlabel]
  rw [hsplit, hsplit] at hchars
  obtain ⟨hkinds, htail⟩ := append_inj_of_notAhead (hclass hinert) (hclass hinert')
    (notAhead_cons.2 rfl) (notAhead_cons.2 rfl) (List.append_cancel_left hchars)
  obtain rfl := String.toList_inj.1 hkinds
  obtain rfl := Option.some.inj (hkind.symm.trans hkind')
  exact ⟨rfl, keyed_eq_of_labelTail hlegible h h'
    (List.append_cancel_left (List.cons.inj htail).2)⟩

/-! ## The tags of labels -/

theorem untagged_of_isInert {text : String} (h : IsInert text) : Untagged text.toList :=
  ⟨notMem_of_isInert h (by decide), fun hlast =>
    notMem_of_isInert h (by decide) (List.mem_of_getLast? hlast)⟩

theorem inOrder_labelTail (hlegible : Legible shapes) (h : FieldsHaveShapes fields shapes) :
    InOrder (labelTail (keyed shownText? fields)) := by
  induction shapes generalizing fields with
  | nil =>
      rw [fieldsHaveShapes_nil h]
      exact .plain List.not_mem_nil
  | cons field shapes ih =>
      obtain ⟨name, shape⟩ := field
      obtain ⟨value, rest, rfl, hvalue, hrest⟩ := fieldsHaveShapes_cons h
      cases hshown : shownText? value with
      | none =>
          rw [keyed_cons_none hshown]
          exact ih hlegible.tail hrest
      | some text =>
          have hname : IsInert name := hlegible.names _ List.mem_cons_self
          have hsplit : labelTail ((name, text) :: keyed shownText? rest) =
              [' '] ++ (name.toList ++ (['='] ++
                (text.toList ++ labelTail (keyed shownText? rest)))) := by
            rw [labelTail_cons]
            simp
          rw [keyed_cons_some hshown, hsplit]
          refine .append (.of_forall (by decide)) (.append (untagged_of_isInert hname) ?_)
          refine .append (.of_forall (by decide)) ?_
          cases hfree : shape.isFree with
          | true =>
              -- nothing comes behind what is escaped
              obtain rfl := hlegible.nil_of_isFree hfree
              rw [fieldsHaveShapes_nil hrest]
              unfold shownText? at hshown
              split at hshown
              · obtain rfl := Option.some.inj hshown
                rw [show labelTail (keyed shownText? []) = [] from rfl, List.append_nil]
                exact .escaped _
              · cases hshown
          | false =>
              have hsolid := isSolid_shownText hfree hvalue hshown
              exact .append (.of_forall fun c hc => ⟨(hsolid c hc).2.2, (hsolid c hc).2.1⟩)
                (ih hlegible.tail hrest)

/-- The tags of the label of a node are in order. -/
theorem inOrder_label (hkind : nodeShapes.lookup kind = some shapes)
    (h : FieldsHaveShapes fields shapes) : InOrder (label kind fields).toList := by
  obtain ⟨hinert, hlegible⟩ := legible_nodeShapes hkind
  have hbold : "[bold]" ++ kind ++ "[/bold]" = styled "bold" kind :=
    String.toList_inj.1 (by simp [styled])
  rw [toList_label, hbold]
  exact .styled (by decide) (untagged_of_isInert hinert) (inOrder_labelTail hlegible h)

/-- So are those of the label of the branch for a field. -/
theorem inOrder_branchLabel (hname : IsInert name) : InOrder (branchLabel name).toList := by
  have hdim : (branchLabel name).toList = (styled "dim" name).toList ++ [] := by
    simp [branchLabel, styled]
  rw [hdim]
  exact .styled (by decide) (untagged_of_isInert hname) (.plain List.not_mem_nil)

end ThriftSchema.Outline
