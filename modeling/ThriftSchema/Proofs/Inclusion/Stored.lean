import Mathlib.Data.List.Dedup
import ThriftSchema.Proofs.Inclusion.Visit
import ThriftSchema.Proofs.Reading
import ThriftSchema.Source.Memory

set_option autoImplicit false

/-! # Documents of sources in memory

In memory a document is a matter of the key of its path alone: every path has a key, what is
stored under the key is read in the same way whatever the path, and no path gives a failure but
that there is no such source, that its text is rejected or that it holds an integer too long to
be read.

* `Memory.documentAt?`: the document under a key.
* `Memory.IncludesPath`, `Memory.Includes`: what a document includes, by path and by key.
* `Memory.Breaks`, `Memory.Legible`: a text breaks the reading off, or none does.
* `Memory.resolveWithin_error`: how a resolution in memory fails.
-/

namespace ThriftSchema

variable {limit : Nat} {options : BuildOptions}

theorem Bindings.get?_cons {V : Type} (bound : String) (value : V) (bindings : Bindings V)
    (name : String) :
    Bindings.get? ((bound, value) :: bindings) name =
      if name = bound then some value else bindings.get? name := by
  rw [get?, List.lookup_cons]
  by_cases h : name = bound
  · simp [h]
  · simp [h, beq_false_of_ne h, get?]

theorem Bindings.mem_of_get? {V : Type} {bindings : Bindings V} {name : String} {value : V}
    (h : bindings.get? name = some value) : (name, value) ∈ bindings := by
  induction bindings with
  | nil => simp [get?] at h
  | cons pair bindings ih =>
      obtain ⟨bound, held⟩ := pair
      rw [get?_cons] at h
      split_ifs at h with hname
      · obtain rfl : held = value := Option.some.inj h
        exact hname ▸ List.mem_cons_self
      · exact List.mem_cons_of_mem _ (ih h)

/-! ## The name of a text does not matter -/

theorem ofText_eq_ok_iff_of_name {text : String} (source source' : Option String) {d : Document} :
    Document.ofText limit options text source = .ok d ↔
      Document.ofText limit options text source' = .ok d :=
  ofText_eq_ok_iff.trans ofText_eq_ok_iff.symm

namespace Memory

/-- The document stored under a key, if there is a text and it is read as one. -/
def documentAt? (limit : Nat) (options : BuildOptions) (memory : Memory) (key : String) :
    Option Document :=
  (memory.sources.get? key).bind fun text => (Document.ofText limit options text none).toOption

/-- The document at the first path has an include header with the second path. -/
def IncludesPath (limit : Nat) (options : BuildOptions) (memory : Memory)
    (path target : String) : Prop :=
  ∃ d, memory.documentAt? limit options (key path) = some d ∧ target ∈ d.includePaths

/-- There is a document under the first key that includes the document under the second one. -/
def Includes (limit : Nat) (options : BuildOptions) (memory : Memory) (k k' : String) : Prop :=
  ∃ d target, memory.documentAt? limit options k = some d ∧ target ∈ d.includePaths ∧
    key target = k' ∧ (memory.documentAt? limit options k').isSome

/-- Every text is read as a document or fails as one source does. -/
def Legible (limit : Nat) (options : BuildOptions) (memory : Memory) : Prop :=
  ∀ entry ∈ memory.sources, (∃ d, Document.ofText limit options entry.2 none = .ok d) ∨
    ∃ cause, Document.ofText limit options entry.2 none = .error (.source cause)

/-- A text breaks the reading off, at an integer that is too long; and so does the failure. -/
def Breaks (limit : Nat) (options : BuildOptions) (memory : Memory) (failure : Failure) : Prop :=
  ∃ k text digits, memory.sources.get? k = some text ∧
    Document.ofText limit options text none = .error (.stopped (.raised (.integerTooLong digits))) ∧
    failure = .stopped (.raised (.integerTooLong digits))

variable {memory : Memory} {path : String}

theorem documentAt?_eq_some {k : String} {d : Document} :
    memory.documentAt? limit options k = some d ↔
      ∃ text, memory.sources.get? k = some text ∧
        Document.ofText limit options text none = .ok d := by
  rw [documentAt?, Option.bind_eq_some_iff]
  refine exists_congr fun text => and_congr_right fun _ => ?_
  cases Document.ofText limit options text none <;> simp [Except.toOption]

/-- A key with a document is one of the keys. -/
theorem mem_names_of_documentAt? {k : String} (h : (memory.documentAt? limit options k).isSome) :
    k ∈ memory.sources.names := by
  obtain ⟨d, hd⟩ := Option.isSome_iff_exists.1 h
  obtain ⟨text, hget, -⟩ := documentAt?_eq_some.1 hd
  exact List.mem_map.2 ⟨(k, text), Bindings.mem_of_get? hget, rfl⟩

/-! ## Loading -/

theorem load_eq_ok {text : String} :
    memory.loader.load path = .ok text ↔ memory.sources.get? (key path) = some text := by
  show memory.load path = .ok text ↔ _
  rw [load]
  cases memory.sources.get? (key path) <;> simp

theorem readSource_eq_ok {options : Options} {d : Document} :
    (readSource limit options memory.loader path).1 = .ok d ↔
      memory.documentAt? limit options.toBuildOptions (key path) = some d := by
  rw [ThriftSchema.readSource_eq_ok, documentAt?_eq_some]
  refine exists_congr fun text => and_congr load_eq_ok ?_
  exact ofText_eq_ok_iff_of_name (some path) none

/-- A source is opened exactly if its key is not being resolved and has a document. -/
theorem openSource_eq_ok {options : Options} {chain : List Link} {k : String} {d : Document} :
    (openSource limit options memory.loader path chain).1 = .ok (k, d) ↔
      k = key path ∧ key path ∉ chain.map Prod.fst ∧
        memory.documentAt? limit options.toBuildOptions (key path) = some d := by
  have hkey : memory.loader.key path = .ok (key path) := rfl
  rw [ThriftSchema.openSource_eq_ok, hkey, readSource_eq_ok]
  constructor
  · rintro ⟨hk, hnew, hd⟩
    obtain rfl : key path = k := Except.ok.inj hk
    exact ⟨rfl, hnew, hd⟩
  · rintro ⟨rfl, hnew, hd⟩
    exact ⟨rfl, hnew, hd⟩

section Levels

variable {options : Options} {chain : List Link} {bound : Nat}

/-- A document in memory is opened, and its includes are followed. -/
theorem result_of_documentAt? {d : Document} (hnew : key path ∉ chain.map Prod.fst)
    (hd : memory.documentAt? limit options.toBuildOptions (key path) = some d) :
    (resolveWithin limit options memory.loader (bound + 1) path chain).result =
      (followIncludes options.includePolicy
        (fun target => resolveWithin limit options memory.loader bound target
          (chain ++ [(key path, path)])) path d.includePaths d).result := by
  rw [resolveWithin_of_opened (openSource_eq_ok.2 ⟨rfl, hnew, hd⟩)]
  rfl

/-- Only its includes have something to skip. -/
theorem skipped_of_documentAt? {d : Document} (hnew : key path ∉ chain.map Prod.fst)
    (hd : memory.documentAt? limit options.toBuildOptions (key path) = some d) :
    (resolveWithin limit options memory.loader (bound + 1) path chain).skipped =
      (followIncludes options.includePolicy
        (fun target => resolveWithin limit options memory.loader bound target
          (chain ++ [(key path, path)])) path d.includePaths d).skipped := by
  rw [resolveWithin_of_opened (openSource_eq_ok.2 ⟨rfl, hnew, hd⟩)]
  rfl

/-- A path that nothing can be read at fails. -/
theorem result_of_unread {failure : Failure} (hnew : key path ∉ chain.map Prod.fst)
    (h : (readSource limit options memory.loader path).1 = .error failure) :
    (resolveWithin limit options memory.loader (bound + 1) path chain).result = .error failure := by
  rw [resolveWithin_of_unopened (openSource_of_unread rfl hnew h)]
  rfl

theorem readSource_of_missing (hget : memory.sources.get? (key path) = none) :
    (readSource limit options memory.loader path).1 = .error (.source (.notFound path none)) := by
  have hload : memory.loader.load path = .error (.source (.notFound path none)) := by
    show memory.load path = _
    rw [load, hget]
    rfl
  rw [readSource, hload]

end Levels

/-! ## Failures -/

/-- Reading a text fails as one source does, or at an integer that is too long. -/
theorem readSource_error {options : Options} {failure : Failure}
    (h : (readSource limit options memory.loader path).1 = .error failure) :
    (∃ cause, failure = .source cause) ∨ memory.Breaks limit options.toBuildOptions failure := by
  rw [readSource] at h
  cases hload : memory.loader.load path with
  | error why =>
      rw [hload] at h
      obtain rfl : why = failure := Except.error.inj h
      have hmissing : memory.load path = .error why := hload
      rw [load] at hmissing
      split at hmissing
      · cases hmissing
      · cases hmissing
        exact .inl ⟨_, rfl⟩
  | ok text =>
      simp only [hload] at h
      -- the text ends reading in the same way with its path for a name and without one
      have hends := readingEnds_ofText limit options.toBuildOptions text (some path)
      have hends' := readingEnds_ofText limit options.toBuildOptions text none
      rw [h] at hends
      generalize Reader.document options.toBuildOptions limit
        (stripComments text).toList = p at hends hends'
      generalize hplain : Document.ofText limit options.toBuildOptions text none = plain at hends'
      cases hends with
      | rejected rejection => exact .inl ⟨_, rfl⟩
      | tooDeep place => exact .inl ⟨_, rfl⟩
      | tooLong digits =>
          cases hends'
          exact .inr ⟨key path, text, digits, load_eq_ok.1 hload, hplain, rfl⟩

/-- A source that is being resolved is not opened again. -/
theorem openSource_of_mem {options : Options} {chain : List Link}
    (h : key path ∈ chain.map Prod.fst) :
    ∃ paths, (openSource limit options memory.loader path chain).1 = .error (.circular paths) := by
  have hkey : memory.loader.key path = .ok (key path) := rfl
  rw [openSource, hkey]
  dsimp only
  cases hcycle : cycleFrom? (key path) chain with
  | some paths => exact ⟨paths ++ [path], rfl⟩
  | none => exact absurd h (cycleFrom?_eq_none.1 hcycle)

/-- Opening fails at a source that is being resolved, as one source does, or at an integer that is
too long. -/
theorem openSource_error {options : Options} {chain : List Link} {failure : Failure}
    (h : (openSource limit options memory.loader path chain).1 = .error failure) :
    (∃ paths, cycleFrom? (key path) chain = some paths ∧ failure = .circular (paths ++ [path])) ∨
      (∃ cause, failure = .source cause) ∨ memory.Breaks limit options.toBuildOptions failure := by
  have hkey : memory.loader.key path = .ok (key path) := rfl
  rw [openSource, hkey] at h
  dsimp only at h
  cases hcycle : cycleFrom? (key path) chain with
  | some paths =>
      simp only [hcycle] at h
      exact .inl ⟨paths, rfl, (Except.error.inj h).symm⟩
  | none =>
      simp only [hcycle] at h
      have hread : (readSource limit options memory.loader path).1 = .error failure := by
        generalize readSource limit options memory.loader path = r at h ⊢
        obtain ⟨why | d, events⟩ := r
        · cases h
          rfl
        · cases h
      exact .inr (readSource_error hread)

/-- A resolution that skips what fails gives a document, or fails as one source does, or ends in
a cycle, at its bound, or at an integer that is too long. -/
theorem resolveWithin_error {options : Options} {bound : Nat} {chain : List Link}
    {failure : Failure} (hskip : options.includePolicy = .skip)
    (h : (resolveWithin limit options memory.loader bound path chain).result = .error failure) :
    (∃ cause, failure = .source cause) ∨ (∃ paths, failure = .circular paths) ∨
      failure = .bottomless ∨ memory.Breaks limit options.toBuildOptions failure := by
  induction bound generalizing path chain with
  | zero =>
      cases h
      exact .inr (.inr (.inl rfl))
  | succ bound ih =>
      cases hopen : (openSource limit options memory.loader path chain).1 with
      | error why =>
          rw [resolveWithin_of_unopened hopen] at h
          obtain rfl : why = failure := Except.error.inj h
          rcases openSource_error hopen with ⟨paths, -, hpaths⟩ | hsource | hbreaks
          · exact .inr (.inl ⟨_, hpaths⟩)
          · exact .inl hsource
          · exact .inr (.inr (.inr hbreaks))
      | ok source =>
          rw [resolveWithin_of_opened hopen] at h
          obtain ⟨before, target, after, -, -, hblame | ⟨hfail, -⟩⟩ := failsAt_of_followIncludes h
          · exact ih hblame
          · rw [hskip] at hfail
            cases hfail

/-- No text breaks the reading off where every text is legible. -/
theorem Legible.not_breaks {failure : Failure} (hlegible : memory.Legible limit options) :
    ¬memory.Breaks limit options failure := by
  rintro ⟨k, text, digits, hget, hlong, -⟩
  rcases hlegible _ (Bindings.mem_of_get? hget) with ⟨d, hd⟩ | ⟨cause, hcause⟩
  · rw [hlong] at hd
    cases hd
  · rw [hlong] at hcause
    cases hcause

end Memory

end ThriftSchema
