import ThriftSchema.Proofs.Inclusion.Printed

set_option autoImplicit false

/-! # Flattening is compositional

What an include adds to its includer does not depend on the sources that are being resolved:
unless it leads back to one of them, an include is resolved there as it is on its own. So a
resolution that skips what fails gives the document of the path itself with those of its
includes behind it, each resolved on its own.

* `resolveWithin_of_le`: a resolution that does not end in a cycle is the same in every shorter
  chain.
* `Flattens`: a document and its includes, laid flat.
* `resolve_flattens`: what `resolve` gives.
-/

namespace ThriftSchema

variable {limit : Nat} {options : Options} {loader : Loader} {policy : IncludePolicy}
  {path : String} {chain : List Link}

/-! ## The chain does not matter -/

/-- The results that do not come from the sources that are being resolved. -/
def Settled : Except Failure Document → Prop
  | .error (.circular _) | .error .bottomless => False
  | _ => True

/-- Following includes depends on how the includes that are settled are resolved, if it is
settled itself. -/
theorem followIncludes_congr {resolve resolve' : String → Resolution}
    (hagree : ∀ target, Settled (resolve target).result → resolve' target = resolve target)
    {targets : List String} {document : Document}
    (hsettled : Settled (followIncludes policy resolve path targets document).result) :
    followIncludes policy resolve' path targets document =
      followIncludes policy resolve path targets document := by
  induction targets generalizing document with
  | nil => rfl
  | cons target targets ih =>
      cases hresult : (resolve target).result with
      | ok included =>
          have hsame : resolve' target = resolve target :=
            hagree target (by rw [hresult]; trivial)
          rw [followIncludes_of_ok hresult] at hsettled ⊢
          rw [followIncludes_of_ok (hsame ▸ hresult), hsame, ih hsettled]
      | error failure =>
          rcases failure.source_or_aborts with ⟨cause, rfl⟩ | haborts
          · have hsame : resolve' target = resolve target :=
              hagree target (by rw [hresult]; trivial)
            cases policy with
            | skip =>
                rw [followIncludes_of_skipped hresult] at hsettled ⊢
                rw [followIncludes_of_skipped (hsame ▸ hresult), hsame, ih hsettled]
            | fail =>
                rw [followIncludes_of_failed hresult,
                  followIncludes_of_failed (hsame ▸ hresult), hsame]
          -- following ends with what aborts it, so that is settled too
          · rw [followIncludes_of_aborts hresult haborts] at hsettled ⊢
            have hsame : resolve' target = resolve target :=
              hagree target (by rw [hresult]; exact hsettled)
            rw [followIncludes_of_aborts (hsame ▸ hresult) haborts, hsame]

/-- A resolution that is settled is the same where fewer sources are being resolved and more
may follow. -/
theorem resolveWithin_of_le {bound bound' : Nat} {chain' : List Link} (hbound : bound ≤ bound')
    (hsubset : chain'.map Prod.fst ⊆ chain.map Prod.fst)
    (hsettled : Settled (resolveWithin limit options loader bound path chain).result) :
    resolveWithin limit options loader bound' path chain' =
      resolveWithin limit options loader bound path chain := by
  induction bound generalizing bound' path chain chain' with
  | zero => exact hsettled.elim
  | succ bound ih =>
      obtain ⟨more, rfl⟩ := Nat.exists_eq_add_of_le' hbound
      rw [← Nat.add_assoc] at hbound ⊢
      cases hopen : (openSource limit options loader path chain).1 with
      | error failure =>
          rw [resolveWithin_of_unopened hopen] at hsettled ⊢
          -- only a cycle depends on the chain, and a cycle is not settled
          have hsame : openSource limit options loader path chain' =
              openSource limit options loader path chain := by
            refine openSource_of_subset hsubset fun paths hpaths => ?_
            obtain rfl : failure = .circular paths := Except.error.inj (hopen.symm.trans hpaths)
            exact hsettled
          rw [resolveWithin_of_unopened (hsame ▸ hopen), hsame]
      | ok source =>
          have hsame : openSource limit options loader path chain' =
              openSource limit options loader path chain :=
            openSource_of_subset hsubset fun paths hpaths => by
              rw [hopen] at hpaths
              cases hpaths
          rw [resolveWithin_of_opened hopen] at hsettled ⊢
          rw [resolveWithin_of_opened (hsame ▸ hopen), hsame]
          rw [followIncludes_congr (fun target htarget => ?_) hsettled]
          -- the source itself joins both chains
          refine ih (by omega) ?_ htarget
          rw [List.map_append, List.map_append]
          exact List.append_subset.2 ⟨fun key hkey => List.mem_append_left _ (hsubset hkey),
            List.subset_append_right _ _⟩

/-! ## Laying flat -/

/-- The results after which a resolution that skips goes on: a document, or the failure of one
source. -/
def ReadOrSkipped (result : Except Failure Document) : Prop :=
  (∃ document, result = .ok document) ∨ ∃ cause, result = .error (.source cause)

/-- What a resolution adds to the document that includes it. -/
def Resolution.contribution (r : Resolution) : Document :=
  match r.result with
  | .ok document => document
  | .error _ => .empty

/-- What a resolution of an include adds to what is known to be skipped: what it skipped itself,
or that it is skipped. -/
def Resolution.omissions (r : Resolution) (target includedFrom : String) : List SkippedInclude :=
  match r.result with
  | .ok _ => r.skipped
  | .error failure => [⟨target, includedFrom, failure.message⟩]

/-- A resolution gives the document at a path with those of its includes behind it, in their
order, where `resolve` resolves an include on its own. -/
structure Flattens (resolve : String → Resolution) (path : String) (own : Document)
    (r : Resolution) (d : Document) : Prop where
  result : r.result = .ok d
  includes : ∀ target ∈ own.includePaths, ReadOrSkipped (resolve target).result
  headers : d.headers =
    own.headers ++ own.includePaths.flatMap fun target => (resolve target).contribution.headers
  definitions : d.definitions = own.definitions ++
    own.includePaths.flatMap fun target => (resolve target).contribution.definitions
  skipped : r.skipped =
    own.includePaths.flatMap fun target => (resolve target).omissions target path

/-- Following includes that are skipped where they fail. -/
theorem followIncludes_skip {resolve : String → Resolution} {targets : List String}
    {document d : Document}
    (hsource : ∀ target cause, (resolve target).result = .error (.source cause) →
      (resolve target).skipped = [])
    (h : (followIncludes .skip resolve path targets document).result = .ok d) :
    (∀ target ∈ targets, ReadOrSkipped (resolve target).result) ∧
      d.headers = document.headers ++
        targets.flatMap (fun target => (resolve target).contribution.headers) ∧
      d.definitions = document.definitions ++
        targets.flatMap (fun target => (resolve target).contribution.definitions) ∧
      (followIncludes .skip resolve path targets document).skipped =
        targets.flatMap fun target => (resolve target).omissions target path := by
  induction targets generalizing document with
  | nil =>
      obtain rfl : document = d := Except.ok.inj h
      simp [followIncludes, Resolution.ended]
  | cons target targets ih =>
      cases hresult : (resolve target).result with
      | ok included =>
          rw [followIncludes_of_ok hresult] at h ⊢
          obtain ⟨hall, hheaders, hdefinitions, hskipped⟩ := ih h
          refine ⟨List.forall_mem_cons.2 ⟨.inl ⟨included, hresult⟩, hall⟩, ?_, ?_, ?_⟩
          · rw [hheaders, List.flatMap_cons, Resolution.contribution, hresult,
              Document.headers_merge, List.append_assoc]
          · rw [hdefinitions, List.flatMap_cons, Resolution.contribution, hresult,
              Document.definitions_merge, List.append_assoc]
          · rw [Resolution.after, hskipped, List.flatMap_cons]
            simp only [Resolution.omissions, hresult]
      | error failure =>
          rcases failure.source_or_aborts with ⟨cause, rfl⟩ | haborts
          · rw [followIncludes_of_skipped hresult] at h ⊢
            obtain ⟨hall, hheaders, hdefinitions, hskipped⟩ := ih h
            refine ⟨List.forall_mem_cons.2 ⟨.inr ⟨cause, hresult⟩, hall⟩, ?_, ?_, ?_⟩
            · rw [hheaders, List.flatMap_cons, Resolution.contribution, hresult]
              rfl
            · rw [hdefinitions, List.flatMap_cons, Resolution.contribution, hresult]
              rfl
            · rw [Resolution.after, hskipped, List.flatMap_cons, hsource target cause hresult]
              simp only [Resolution.omissions, hresult]
              rfl
          · rw [followIncludes_of_aborts hresult haborts] at h
            cases h

/-- What a document defines itself is found first: the first of its own definitions of a name. -/
theorem Flattens.find? {resolve : String → Resolution} {own d : Document} {r : Resolution}
    (h : Flattens resolve path own r d) {name : String} {definition : Definition}
    (hfind : own.definitions.find? (fun other => other.name == name) = some definition) :
    d.find? name = some definition := by
  rw [Document.find?, h.definitions, List.find?_append, hfind]
  rfl

/-- A document at a path is laid flat by a resolution that skips what fails and gives a
document. -/
theorem exists_flattens (hskip : options.includePolicy = .skip) {d : Document}
    (h : (resolve limit options loader path).result = .ok d) :
    ∃ own, (readSource limit options loader path).1 = .ok own ∧
      Flattens (resolve limit options loader) path own (resolve limit options loader path) d := by
  cases hopen : (openSource limit options loader path []).1 with
  | error failure =>
      rw [resolve, resolveWithin_of_unopened hopen] at h
      cases h
  | ok source =>
      obtain ⟨key, own⟩ := source
      have hlevel : resolve limit options loader path =
          (followIncludes .skip
            (fun target => resolveWithin limit options loader loader.size target [(key, path)])
            path own.includePaths own).after [] (openSource limit options loader path []).2 := by
        rw [resolve, resolveWithin_of_opened hopen, hskip]
        rfl
      rw [hlevel] at h
      -- each include is resolved in the chain as it is on its own
      have hsame : followIncludes .skip (resolve limit options loader) path own.includePaths own =
          followIncludes .skip
            (fun target => resolveWithin limit options loader loader.size target [(key, path)])
            path own.includePaths own :=
        followIncludes_congr
          (fun target htarget => resolveWithin_of_le (Nat.le_succ _) (List.nil_subset _) htarget)
          (by rw [show (followIncludes _ _ _ _ _).result = _ from h]; trivial)
      refine ⟨own, (openSource_eq_ok.1 hopen).2.2, ?_⟩
      rw [Resolution.after, ← hsame] at h
      obtain ⟨hincludes, hheaders, hdefinitions, hskipped⟩ :=
        followIncludes_skip (fun _ _ => skipped_of_source) h
      rw [hlevel, ← hsame]
      exact ⟨h, hincludes, hheaders, hdefinitions, hskipped⟩

/-- A resolution that skips what fails and gives a document gives the one at the path itself with
those of its includes behind it, each as it is resolved on its own, and skips what these skip. Of
every name that the document itself defines, its own first definition is found. -/
theorem resolve_flattens (limit : Nat) (options : Options) (loader : Loader) (path : String)
    (d : Document) (hskip : options.includePolicy = .skip)
    (h : (resolve limit options loader path).result = .ok d) :
    ∃ text own, loader.load path = .ok text ∧
      Document.ofText limit options.toBuildOptions text (some path) = .ok own ∧
      Flattens (resolve limit options loader) path own (resolve limit options loader path) d ∧
      ∀ name definition,
        own.definitions.find? (fun other => other.name == name) = some definition →
          d.find? name = some definition := by
  obtain ⟨own, hread, hflat⟩ := exists_flattens hskip h
  obtain ⟨text, hload, htext⟩ := readSource_eq_ok.1 hread
  exact ⟨text, own, hload, htext, hflat, fun _ _ => hflat.find?⟩

/-! ## A sample -/

/-- A document that includes another one twice, and between them one that is missing. -/
def sampleDocuments : Bindings Document :=
  [("/main", .stub ["base", "gone", "./base"] "Main"), ("/base", .stub [] "Base")]

theorem fits_sampleDocuments :
    ∀ entry ∈ sampleDocuments, Spelling.usual.DocumentFits limit entry.2 := by
  simp only [sampleDocuments, List.forall_mem_cons, List.not_mem_nil, false_implies, implies_true,
    and_true]
  exact ⟨Document.fits_stub (by decide) (by decide), Document.fits_stub (by decide) (by decide)⟩

theorem get?_sampleDocuments (key : String) :
    sampleDocuments.get? key =
      if key = "/main" then some (.stub ["base", "gone", "./base"] "Main")
      else if key = "/base" then some (.stub [] "Base") else none := by
  rw [sampleDocuments, Bindings.get?_cons, Bindings.get?_cons]
  rfl

/-- The sample laid flat: what is included twice is there twice, and what is missing is not. -/
def sampleFlat : Document where
  headers := [.include "base", .include "gone", .include "./base"]
  definitions := [.struct "Main" [] false, .struct "Base" [] false, .struct "Base" [] false]

/-- The include of the sample that is missing. -/
def sampleGone : SkippedInclude := ⟨"gone", "main", (SourceError.notFound "gone" none).message⟩

theorem followIncludes_sample {resolve : String → Resolution}
    (hbase : ∀ path ∈ ["base", "./base"],
      (resolve path).result = .ok (.stub [] "Base") ∧ (resolve path).skipped = [])
    (hgone : (resolve "gone").result = .error (.source (.notFound "gone" none)) ∧
      (resolve "gone").skipped = []) :
    (followIncludes .skip resolve "main" ["base", "gone", "./base"]
        (.stub ["base", "gone", "./base"] "Main")).result = .ok sampleFlat ∧
      (followIncludes .skip resolve "main" ["base", "gone", "./base"]
        (.stub ["base", "gone", "./base"] "Main")).skipped = [sampleGone] := by
  obtain ⟨hfirst, hfirstSkips⟩ := hbase "base" (by simp)
  obtain ⟨hlast, hlastSkips⟩ := hbase "./base" (by simp)
  rw [followIncludes_of_ok hfirst, followIncludes_of_skipped hgone.1, followIncludes_of_ok hlast]
  simp only [Resolution.after, hfirstSkips, hgone.2, hlastSkips]
  exact ⟨rfl, rfl⟩

section Sample

variable {memory : Memory} (hmemory : memory = .ofDocuments .usual sampleDocuments)

include hmemory

theorem documentAt?_sample (key : String) :
    memory.documentAt? 60 Options.faithful.toBuildOptions key = sampleDocuments.get? key :=
  hmemory ▸ Memory.documentAt?_ofDocuments rfl rfl (by decide) fits_sampleDocuments

/-- The sample is resolved to what it is laid flat, without what is missing. -/
theorem resolve_sample :
    (resolve 60 .faithful memory.loader "main").result = .ok sampleFlat ∧
      (resolve 60 .faithful memory.loader "main").skipped = [sampleGone] := by
  obtain ⟨hmain, hbase, hdotted, hgone⟩ : Memory.key "main" = "/main" ∧
      Memory.key "base" = "/base" ∧ Memory.key "./base" = "/base" ∧
      Memory.key "gone" = "/gone" := by decide +kernel
  have hown : memory.documentAt? 60 Options.faithful.toBuildOptions (Memory.key "main") =
      some (.stub ["base", "gone", "./base"] "Main") := by
    rw [documentAt?_sample hmemory, hmain, get?_sampleDocuments]
    rfl
  have hleaf : ∀ path ∈ ["base", "./base"], Memory.key path ∉ [Memory.key "main"] ∧
      memory.documentAt? 60 Options.faithful.toBuildOptions (Memory.key path) =
        some (.stub [] "Base") := by
    simp only [List.forall_mem_cons, List.not_mem_nil, false_implies, implies_true, and_true,
      documentAt?_sample hmemory, hmain, hbase, hdotted, get?_sampleDocuments]
    simp
  have hmissing : memory.sources.get? (Memory.key "gone") = none := by
    rw [hmemory, Memory.get?_ofDocuments, hgone, get?_sampleDocuments]
    rfl
  have hunread : (resolveWithin 60 .faithful memory.loader memory.loader.size "gone"
      [(Memory.key "main", "main")]).result = .error (.source (.notFound "gone" none)) := by
    rw [hmemory] at hmissing ⊢
    exact Memory.result_of_unread (by simp [hmain, hgone]) (Memory.readSource_of_missing hmissing)
  rw [resolve, Memory.result_of_documentAt? (by simp) hown,
    Memory.skipped_of_documentAt? (by simp) hown, Document.includePaths_stub]
  refine followIncludes_sample (fun path hpath => ?_) ⟨hunread, skipped_of_source hunread⟩
  obtain ⟨hnew, hdocument⟩ := hleaf path hpath
  subst hmemory
  exact ⟨(Memory.result_of_documentAt? hnew hdocument).trans rfl,
    (Memory.skipped_of_documentAt? hnew hdocument).trans rfl⟩

end Sample

theorem resolve_flattens_sample :
    let resolve := resolve 60 .faithful (Memory.ofDocuments .usual sampleDocuments).loader
    (resolve "main").result = .ok sampleFlat ∧
      Flattens resolve "main" (.stub ["base", "gone", "./base"] "Main") (resolve "main")
        sampleFlat ∧
      (resolve "main").skipped = [sampleGone] ∧
      sampleFlat.find? "Main" = some (.struct "Main" [] false) := by
  have hmain : Memory.key "main" = "/main" := by decide +kernel
  obtain ⟨hresult, hskipped⟩ := resolve_sample rfl
  obtain ⟨text, own, hload, hown, hflat, hfinds⟩ :=
    resolve_flattens 60 .faithful _ "main" sampleFlat rfl hresult
  obtain rfl : own = .stub ["base", "gone", "./base"] "Main" := by
    have hstored := Memory.readSource_eq_ok.1 (readSource_eq_ok.2 ⟨text, hload, hown⟩)
    rw [documentAt?_sample rfl, hmain, get?_sampleDocuments] at hstored
    exact (Option.some.inj hstored).symm
  exact ⟨hresult, hflat, hskipped, hfinds "Main" _ rfl⟩

end ThriftSchema
