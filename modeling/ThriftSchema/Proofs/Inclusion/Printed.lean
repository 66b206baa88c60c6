import ThriftSchema.Proofs.Canonical.Roundtrip
import ThriftSchema.Proofs.Inclusion.Stored

set_option autoImplicit false

/-! # Printed documents in memory

Documents that have canonical texts can be kept in memory as these texts, under any keys. So
every graph of includes between keys is one of sources in memory.

* `Memory.ofDocuments`: the texts of documents, under their keys.
* `Document.stub`: a document that is not much more than its includes.
* `Options.faithful`: options under which canonical texts are read as their documents.
-/

namespace ThriftSchema

variable {limit : Nat} {s : Spelling} {documents : Bindings Document} {options : BuildOptions}
  {k : String}

namespace Memory

/-- Sources that hold the canonical texts of documents. -/
def ofDocuments (s : Spelling) (documents : Bindings Document) : Memory :=
  ⟨documents.map fun entry => (entry.1, s.text entry.2)⟩

theorem get?_ofDocuments :
    (ofDocuments s documents).sources.get? k = (documents.get? k).map s.text := by
  rw [ofDocuments]
  induction documents with
  | nil => rfl
  | cons entry documents ih =>
      obtain ⟨bound, d⟩ := entry
      rw [List.map_cons, Bindings.get?_cons, Bindings.get?_cons, ih]
      split_ifs <;> rfl

theorem legible_ofDocuments (hkeep : options.retainRequiredness = true)
    (hcount : options.numberEnums = false) (hroom : 2 ≤ limit)
    (hfits : ∀ entry ∈ documents, s.DocumentFits limit entry.2) :
    (ofDocuments s documents).Legible limit options := by
  intro entry hentry
  obtain ⟨source, hsource, rfl⟩ := List.mem_map.1 hentry
  exact .inl ⟨_, Canonical.ofText_of_fits hkeep hcount hroom (hfits source hsource) none⟩

theorem documentAt?_ofDocuments (hkeep : options.retainRequiredness = true)
    (hcount : options.numberEnums = false) (hroom : 2 ≤ limit)
    (hfits : ∀ entry ∈ documents, s.DocumentFits limit entry.2) :
    (ofDocuments s documents).documentAt? limit options k = documents.get? k := by
  rw [documentAt?, get?_ofDocuments]
  cases hget : documents.get? k with
  | none => rfl
  | some d =>
      have htext : Document.ofText limit options (s.text d) none = .ok d :=
        Canonical.ofText_of_fits hkeep hcount hroom (hfits _ (Bindings.mem_of_get? hget)) none
      rw [Option.map_some, Option.bind_some, htext]
      rfl

end Memory

/-- A document with includes and an empty struct. -/
def Document.stub (includes : List String) (name : String) : Document :=
  ⟨includes.map .include, [.struct name [] false]⟩

theorem Document.includePaths_stub (includes : List String) (name : String) :
    (Document.stub includes name).includePaths = includes := by
  simp [includePaths, stub, List.filterMap_map, Function.comp_def, includePath?]

theorem Document.fits_stub {includes : List String} {name : String}
    (hincludes : ∀ path ∈ includes, s.LiteralFits path) (hname : IsName name.toList) :
    s.DocumentFits limit (Document.stub includes name) where
  headers header h := by
    obtain ⟨path, hpath, rfl⟩ := List.mem_map.1 h
    exact .include (hincludes path hpath)
  definitions definition h := by
    obtain rfl := List.mem_singleton.1 h
    exact .struct hname (by simp)

/-- Options under which canonical texts are read as their documents. -/
def Options.faithful : Options := { retainRequiredness := true }

end ThriftSchema
