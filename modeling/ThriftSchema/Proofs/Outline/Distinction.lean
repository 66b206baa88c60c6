import ThriftSchema.Outline.Export
import ThriftSchema.Proofs.Canonical.Roundtrip
import ThriftSchema.Proofs.Outline.Reading
import ThriftSchema.Proofs.Outline.Tree

set_option autoImplicit false

/-! # Printed trees tell documents apart

Documents that are read can be told by their trees, but for the names of the namespaces that are
read off literals: a label doubles a single backslash at the end of such a name, so that it looks
like a name that ends in two. All else that is left out of a tree, put into a label or escaped
there makes no two documents look the same.

* `tree_distinguishes`: documents with equal trees.
-/

namespace ThriftSchema

open Outline Text

variable {limit : Nat}

theorem Document.guarded_eq {d : Document} (h : ∀ header ∈ d.headers, header.guarded = header) :
    d.guarded = d := by
  rw [guarded, List.map_congr_left h, List.map_id'']
  exact fun _ => rfl

/-- **Documents that are read can be told by their trees**, once a single backslash at the end of
the name of a PHP or XSD namespace is doubled; so they can be told where no such name ends in a
single backslash. -/
theorem tree_distinguishes (options : BuildOptions) (text text' : String)
    (source source' : Option String) (d d' : Document)
    (h : Document.ofText limit options text source = .ok d)
    (h' : Document.ofText limit options text' source' = .ok d') (htree : d.tree = d'.tree) :
    d.guarded.toJson = d'.guarded.toJson ∧
      ((∀ header ∈ d.headers ++ d'.headers, header.guarded = header) → d.toJson = d'.toJson) := by
  rw [← d.tree_guarded, ← d'.tree_guarded] at htree
  have houtline : d.guarded.outline = d'.guarded.outline :=
    eq_of_tree rfl (isShaped_of_ofText h).hasShape (isShaped_of_ofText h').hasShape htree
  have hexport : d.guarded.toJson = d'.guarded.toJson := congrArg Outline.toJson houtline
  refine ⟨hexport, fun hguarded => ?_⟩
  obtain ⟨hheaders, hheaders'⟩ := List.forall_mem_append.1 hguarded
  rwa [Document.guarded_eq hheaders, Document.guarded_eq hheaders'] at hexport

/-- A document with the name of a namespace alone. -/
def namespaceSample (name : String) : Document := ⟨[.phpNamespace name], []⟩

theorem ofText_namespaceSample (name : String) (hliteral : Spelling.usual.LiteralFits name)
    (htrim : Text.trim name = name) :
    Document.ofText 60 ⟨true, false⟩ (Spelling.usual.text (namespaceSample name)) none =
      .ok (namespaceSample name) := by
  refine Canonical.ofText_of_fits rfl rfl (by decide)
    ⟨fun header h => ?_, List.forall_mem_nil _⟩ none
  obtain rfl := List.mem_singleton.1 h
  exact .phpNamespace hliteral htrim

/-- The name that ends in one backslash, and the name that ends in two. -/
theorem tree_distinguishes_sample :
    Document.ofText 60 ⟨true, false⟩ (Spelling.usual.text (namespaceSample "a\\")) none =
        .ok (namespaceSample "a\\") ∧
      Document.ofText 60 ⟨true, false⟩ (Spelling.usual.text (namespaceSample "a\\\\")) none =
        .ok (namespaceSample "a\\\\") ∧
      (namespaceSample "a\\").tree = (namespaceSample "a\\\\").tree ∧
      (namespaceSample "a\\").guarded.toJson = (namespaceSample "a\\\\").guarded.toJson := by
  have h := ofText_namespaceSample "a\\" (by decide) (by decide)
  have h' := ofText_namespaceSample "a\\\\" (by decide) (by decide)
  have htree : (namespaceSample "a\\").tree = (namespaceSample "a\\\\").tree :=
    (namespaceSample "a\\").tree_guarded.symm
  exact ⟨h, h', htree, (tree_distinguishes _ _ _ none none _ _ h h' htree).1⟩

/-- The name of a namespace that ends in one backslash looks like the one that ends in two. -/
theorem not_tree_distinguishes :
    ¬ ∀ (options : BuildOptions) (text text' : String) (d d' : Document),
      Document.ofText 60 options text none = .ok d →
      Document.ofText 60 options text' none = .ok d' →
      d.tree = d'.tree → d.toJson = d'.toJson := by
  intro hall
  have h := ofText_namespaceSample "a\\" (by decide) (by decide)
  have h' := ofText_namespaceSample "a\\\\" (by decide) (by decide)
  have hexport := hall _ _ _ _ _ h h' (namespaceSample "a\\").tree_guarded.symm
  simp [Document.toJson, Document.outline, namespaceSample, Header.outline, Header.outlineFields,
    Outline.identifier, Outline.toJson, fieldsToJson, itemsToJson] at hexport

end ThriftSchema
