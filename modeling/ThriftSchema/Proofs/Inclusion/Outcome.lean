import ThriftSchema.Proofs.Canonical.Overlong
import ThriftSchema.Proofs.Inclusion.Cycle
import ThriftSchema.Proofs.Inclusion.Flatten

set_option autoImplicit false

/-! # How a resolution that skips ends

A resolution in memory that skips what fails gives the document laid flat, or finds a cycle. The
one thing that an included text can do to it besides is to break the reading off, which is not a
failure that can be skipped.
-/

namespace ThriftSchema

variable {limit : Nat} {options : Options} {memory : Memory} {path : String}

/-- A resolution that opens its source fails neither as that source does nor at its bound. -/
theorem resolve_error (hskip : options.includePolicy = .skip)
    (hpath : (memory.documentAt? limit options.toBuildOptions (Memory.key path)).isSome)
    {failure : Failure} (h : (resolve limit options memory.loader path).result = .error failure) :
    (∃ paths, failure = .circular paths) ∨ memory.Breaks limit options.toBuildOptions failure := by
  rcases Memory.resolveWithin_error hskip h with ⟨cause, rfl⟩ | hcircular | rfl | hbreaks
  · obtain ⟨own, hown⟩ := Option.isSome_iff_exists.1 hpath
    rw [resolve, Memory.result_of_documentAt? (by simp) hown] at h
    have haborts : (Failure.source cause).Aborts := aborts_of_followIncludes h
    exact haborts.elim
  · exact .inl hcircular
  · exact absurd h (resolve_ne_bottomless limit options memory path)
  · exact .inr hbreaks

/-- A resolution in memory that skips what fails, from a path that has a document, gives that
document laid flat with every include that can be read, or ends in a cycle, or breaks off where
one of the texts does. -/
theorem resolve_skips (limit : Nat) (options : Options) (memory : Memory) (path : String)
    (hskip : options.includePolicy = .skip)
    (hpath : (memory.documentAt? limit options.toBuildOptions (Memory.key path)).isSome) :
    (∃ own d, memory.documentAt? limit options.toBuildOptions (Memory.key path) = some own ∧
      Flattens (resolve limit options memory.loader) path own
        (resolve limit options memory.loader path) d) ∨
    (∃ paths, (resolve limit options memory.loader path).result = .error (.circular paths)) ∨
    ∃ failure, (resolve limit options memory.loader path).result = .error failure ∧
      memory.Breaks limit options.toBuildOptions failure := by
  cases hresult : (resolve limit options memory.loader path).result with
  | ok d =>
      obtain ⟨own, hread, hflat⟩ := exists_flattens hskip hresult
      exact .inl ⟨own, d, Memory.readSource_eq_ok.1 hread, hflat⟩
  | error failure =>
      rcases resolve_error hskip hpath hresult with ⟨paths, rfl⟩ | hbreaks
      · exact .inr (.inl ⟨paths, rfl⟩)
      · exact .inr (.inr ⟨failure, rfl, hbreaks⟩)

theorem resolve_skips_sample :
    let memory := Memory.ofDocuments .usual sampleDocuments
    (memory.documentAt? 60 Options.faithful.toBuildOptions (Memory.key "main")).isSome ∧
      ∃ own d,
        memory.documentAt? 60 Options.faithful.toBuildOptions (Memory.key "main") = some own ∧
        Flattens (resolve 60 .faithful memory.loader) "main" own
          (resolve 60 .faithful memory.loader "main") d := by
  have hmain : Memory.key "main" = "/main" := by decide +kernel
  obtain ⟨hresult, -⟩ := resolve_sample rfl
  have hpath : ((Memory.ofDocuments .usual sampleDocuments).documentAt? 60
      Options.faithful.toBuildOptions (Memory.key "main")).isSome := by
    rw [documentAt?_sample rfl, hmain, get?_sampleDocuments]
    rfl
  refine ⟨hpath, ?_⟩
  rcases resolve_skips 60 .faithful _ "main" rfl hpath with hflat | ⟨paths, h⟩ | ⟨failure, h, -⟩
  · exact hflat
  · rw [hresult] at h
    cases h
  · rw [hresult] at h
    cases h

/-! ## An include that breaks off -/

/-- A document that includes one with an integer. -/
def integerDocuments (n : Int) : Bindings Document :=
  [("/main", .stub ["part"] "Main"), ("/part", Canonical.constantDocument (.base "i64") "X" n)]

theorem get?_integerDocuments (n : Int) (key : String) :
    (integerDocuments n).get? key =
      if key = "/main" then some (.stub ["part"] "Main")
      else if key = "/part" then some (Canonical.constantDocument (.base "i64") "X" n)
      else none := by
  rw [integerDocuments, Bindings.get?_cons, Bindings.get?_cons]
  rfl

theorem documentAt?_main (n : Int) :
    (Memory.ofDocuments .usual (integerDocuments n)).documentAt? 60 Options.faithful.toBuildOptions
      (Memory.key "main") = some (.stub ["part"] "Main") := by
  have hkey : Memory.key "main" = "/main" := by decide +kernel
  have hread : Document.ofText 60 Options.faithful.toBuildOptions
      (Spelling.usual.text (.stub ["part"] "Main")) none = .ok (.stub ["part"] "Main") :=
    Canonical.ofText_of_fits rfl rfl (by decide) (Document.fits_stub (by decide) (by decide)) none
  exact Memory.documentAt?_eq_some.2
    ⟨_, by rw [Memory.get?_ofDocuments, hkey, get?_integerDocuments]; rfl, hread⟩

/-- An included integer that is too long ends a resolution that skips what fails. -/
theorem resolve_integerDocuments {n : Int} (h : Number.isWritable n = false) :
    (resolve 60 .faithful (Memory.ofDocuments .usual (integerDocuments n)).loader "main").result =
      .error (.stopped (Canonical.overlong n)) := by
  obtain ⟨hmain, hpart⟩ : Memory.key "main" = "/main" ∧ Memory.key "part" = "/part" := by
    decide +kernel
  have hload : (Memory.ofDocuments .usual (integerDocuments n)).loader.load "part" =
      .ok (Spelling.usual.text (Canonical.constantDocument (.base "i64") "X" n)) := by
    rw [Memory.load_eq_ok, Memory.get?_ofDocuments, hpart, get?_integerDocuments]
    rfl
  have hread : (readSource 60 .faithful (Memory.ofDocuments .usual (integerDocuments n)).loader
      "part").1 = .error (.stopped (Canonical.overlong n)) := by
    rw [readSource, hload]
    exact Canonical.ofText_overlong (.base (by decide)) (by decide) h _
  have hincluded : (resolveWithin 60 .faithful
      (Memory.ofDocuments .usual (integerDocuments n)).loader
      (Memory.ofDocuments .usual (integerDocuments n)).loader.size "part"
        [(Memory.key "main", "main")]).result = .error (.stopped (Canonical.overlong n)) :=
    Memory.result_of_unread (by simp [hmain, hpart]) hread
  rw [resolve, Memory.result_of_documentAt? (by simp) (documentAt?_main n),
    Document.includePaths_stub, List.nil_append, followIncludes_of_aborts hincluded (by trivial)]

/-- So a text that is included can end a resolution other than in a cycle. -/
theorem not_resolve_skips :
    ¬∀ (options : Options) (memory : Memory) (path : String), options.includePolicy = .skip →
      (memory.documentAt? 60 options.toBuildOptions (Memory.key path)).isSome →
      (∃ d, (resolve 60 options memory.loader path).result = .ok d) ∨
        ∃ paths, (resolve 60 options memory.loader path).result = .error (.circular paths) := by
  intro h
  have hlong : Number.isWritable Number.writeBound = false := by
    rw [Number.isWritable, Int.natAbs_natCast]
    exact decide_eq_false (Nat.lt_irrefl _)
  have hends := resolve_integerDocuments hlong
  rcases h .faithful (Memory.ofDocuments .usual (integerDocuments Number.writeBound)) "main" rfl
    (by rw [documentAt?_main]; rfl) with ⟨d, hd⟩ | ⟨paths, hpaths⟩
  · rw [hends] at hd
    cases hd
  · rw [hends] at hpaths
    cases hpaths

end ThriftSchema
