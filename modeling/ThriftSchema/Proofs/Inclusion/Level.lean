import ThriftSchema.Inclusion

set_option autoImplicit false

/-! # One level of a resolution

A level of a resolution opens the source at its path and then follows the includes of the
document that is there. Opening depends on the sources that are being resolved in one way only:
the source must not be one of them.

* `openSource`: the key of a path and the document there, if the path does not lead back.
* `resolveWithin_of_opened`, `resolveWithin_of_unopened`: a level, as opening and following.
* `followIncludes_of_ok` and the others: what the first include does to the rest.
* `Failure.Aborts`: the failures that pass through every level.
-/

namespace ThriftSchema

variable {limit : Nat} {options : Options} {loader : Loader} {policy : IncludePolicy}
  {path : String} {chain : List Link}

/-! ## Cycles -/

/-- No link has the key. -/
theorem cycleFrom?_eq_none {key : String} :
    cycleFrom? key chain = none ↔ key ∉ chain.map Prod.fst := by
  induction chain with
  | nil => simp [cycleFrom?]
  | cons link chain ih =>
      by_cases h : link.1 = key
      · simp [cycleFrom?, List.dropWhile, h]
      · have hlink : (link.1 != key) = true := by simpa using h
        rw [cycleFrom?, List.dropWhile_cons_of_pos (by exact hlink), ← cycleFrom?, ih]
        simp [Ne.symm h]

/-- The paths from the first link of the key on. -/
theorem exists_of_cycleFrom? {key : String} {paths : List String}
    (h : cycleFrom? key chain = some paths) :
    ∃ before first after, chain = before ++ (key, first) :: after ∧
      paths = first :: after.map Prod.snd := by
  induction chain with
  | nil => simp [cycleFrom?] at h
  | cons link chain ih =>
      by_cases hkey : link.1 = key
      · have hlink : (link.1 != key) = false := by simpa using hkey
        simp only [cycleFrom?, List.dropWhile, hlink, Option.some.injEq] at h
        exact ⟨[], link.2, chain, by rw [← hkey]; rfl, h.symm⟩
      · have hlink : (link.1 != key) = true := by simpa using hkey
        rw [cycleFrom?, List.dropWhile_cons_of_pos (by exact hlink), ← cycleFrom?] at h
        obtain ⟨before, first, after, rfl, hpaths⟩ := ih h
        exact ⟨link :: before, first, after, rfl, hpaths⟩

/-! ## Opening -/

/-- The key of a path and the document there, if the path does not lead back to a source that is
being resolved; and what is told on the way. -/
def openSource (limit : Nat) (options : Options) (loader : Loader) (path : String)
    (chain : List Link) : Except Failure (String × Document) × List Event :=
  match loader.key path with
  | .error failure => (.error failure, [])
  | .ok key =>
    match cycleFrom? key chain with
    | some paths => (.error (.circular (paths ++ [path])), [])
    | none =>
      match readSource limit options loader path with
      | (.error failure, events) => (.error failure, events)
      | (.ok document, events) => (.ok (key, document), events)

theorem readSource_eq_ok {document : Document} :
    (readSource limit options loader path).1 = .ok document ↔
      ∃ text, loader.load path = .ok text ∧
        Document.ofText limit options.toBuildOptions text (some path) = .ok document := by
  rw [readSource]
  cases loader.load path <;> simp

/-- A level opens a source and follows its includes. -/
theorem resolveWithin_succ (limit : Nat) (options : Options) (loader : Loader) (bound : Nat)
    (path : String) (chain : List Link) :
    resolveWithin limit options loader (bound + 1) path chain =
      match openSource limit options loader path chain with
      | (.error failure, events) => .ended events (.error failure)
      | (.ok (key, document), events) =>
        (followIncludes options.includePolicy
          (fun target => resolveWithin limit options loader bound target (chain ++ [(key, path)]))
          path document.includePaths document).after [] events := by
  rw [resolveWithin, openSource]
  cases loader.key path with
  | error failure => rfl
  | ok key =>
      dsimp only
      cases cycleFrom? key chain with
      | some paths => rfl
      | none =>
          dsimp only
          obtain ⟨failure | document, events⟩ := readSource limit options loader path <;> rfl

theorem resolveWithin_of_unopened {bound : Nat} {failure : Failure}
    (h : (openSource limit options loader path chain).1 = .error failure) :
    resolveWithin limit options loader (bound + 1) path chain =
      .ended (openSource limit options loader path chain).2 (.error failure) := by
  rw [resolveWithin_succ]
  generalize openSource limit options loader path chain = opened at h ⊢
  obtain ⟨result, events⟩ := opened
  obtain rfl : result = _ := h
  rfl

theorem resolveWithin_of_opened {bound : Nat} {key : String} {document : Document}
    (h : (openSource limit options loader path chain).1 = .ok (key, document)) :
    resolveWithin limit options loader (bound + 1) path chain =
      (followIncludes options.includePolicy
        (fun target => resolveWithin limit options loader bound target (chain ++ [(key, path)]))
        path document.includePaths document).after []
          (openSource limit options loader path chain).2 := by
  rw [resolveWithin_succ]
  generalize openSource limit options loader path chain = opened at h ⊢
  obtain ⟨result, events⟩ := opened
  obtain rfl : result = _ := h
  rfl

/-- A source is opened exactly if its path has a key that no source being resolved has, and its
text is read as a document. -/
theorem openSource_eq_ok {key : String} {document : Document} :
    (openSource limit options loader path chain).1 = .ok (key, document) ↔
      loader.key path = .ok key ∧ key ∉ chain.map Prod.fst ∧
        (readSource limit options loader path).1 = .ok document := by
  rw [openSource, ← cycleFrom?_eq_none]
  cases loader.key path with
  | error failure => simp
  | ok key' =>
      dsimp only
      cases hcycle : cycleFrom? key' chain with
      | some paths =>
          simp only [reduceCtorEq, false_iff, not_and, Except.ok.injEq]
          rintro rfl hnone
          rw [hcycle] at hnone
          cases hnone
      | none =>
          obtain ⟨failure | document', events⟩ := readSource limit options loader path
          · simp
          · simp only [Except.ok.injEq, Prod.mk.injEq]
            constructor
            · rintro ⟨rfl, rfl⟩
              exact ⟨rfl, hcycle, rfl⟩
            · rintro ⟨rfl, -, rfl⟩
              exact ⟨rfl, rfl⟩

/-- A source that cannot be read cannot be opened. -/
theorem openSource_of_unread {key : String} {failure : Failure} (hkey : loader.key path = .ok key)
    (hnew : key ∉ chain.map Prod.fst)
    (h : (readSource limit options loader path).1 = .error failure) :
    (openSource limit options loader path chain).1 = .error failure := by
  rw [openSource]
  simp only [hkey, cycleFrom?_eq_none.2 hnew]
  generalize readSource limit options loader path = r at h ⊢
  obtain ⟨result, events⟩ := r
  obtain rfl : result = _ := h
  rfl

/-- A path that leads back to no source of a chain is opened in the same way where fewer sources
are being resolved. -/
theorem openSource_of_subset {chain' : List Link}
    (hsubset : chain'.map Prod.fst ⊆ chain.map Prod.fst)
    (hopen : ∀ paths, (openSource limit options loader path chain).1 ≠ .error (.circular paths)) :
    openSource limit options loader path chain' = openSource limit options loader path chain := by
  unfold openSource at hopen ⊢
  cases hkey : loader.key path with
  | error failure => rfl
  | ok key =>
      simp only [hkey] at hopen
      cases hcycle : cycleFrom? key chain with
      | some paths =>
          simp only [hcycle] at hopen
          exact absurd rfl (hopen (paths ++ [path]))
      | none =>
          have hfewer : cycleFrom? key chain' = none :=
            cycleFrom?_eq_none.2 fun h => cycleFrom?_eq_none.1 hcycle (hsubset h)
          simp only [hcycle, hfewer]

/-! ## Following -/

/-- The failures that are not those of one source: they end every resolution that comes to them. -/
def Failure.Aborts : Failure → Prop
  | source _ => False
  | _ => True

theorem Failure.source_or_aborts (failure : Failure) :
    (∃ cause, failure = .source cause) ∨ failure.Aborts := by
  cases failure with
  | source cause => exact .inl ⟨cause, rfl⟩
  | _ => exact .inr trivial

section Following

variable {resolve : String → Resolution} {target : String} {targets : List String}
  {document : Document}

theorem followIncludes_of_ok {included : Document}
    (h : (resolve target).result = .ok included) :
    followIncludes policy resolve path (target :: targets) document =
      (followIncludes policy resolve path targets (document.merge included)).after
        (resolve target).skipped (.resolving target path :: (resolve target).events) := by
  simp only [followIncludes, h]

theorem followIncludes_of_skipped {cause : SourceError}
    (h : (resolve target).result = .error (.source cause)) :
    followIncludes .skip resolve path (target :: targets) document =
      (followIncludes .skip resolve path targets document).after
        ((resolve target).skipped ++ [⟨target, path, cause.message⟩])
        (.resolving target path :: (resolve target).events
          ++ [.skipping target path cause.message]) := by
  simp only [followIncludes, h]

theorem followIncludes_of_failed {cause : SourceError}
    (h : (resolve target).result = .error (.source cause)) :
    followIncludes .fail resolve path (target :: targets) document =
      ⟨(resolve target).skipped, .resolving target path :: (resolve target).events,
        .error (.includeFailed target path cause)⟩ := by
  simp only [followIncludes, h]

theorem followIncludes_of_aborts {failure : Failure} (h : (resolve target).result = .error failure)
    (haborts : failure.Aborts) :
    followIncludes policy resolve path (target :: targets) document =
      ⟨(resolve target).skipped, .resolving target path :: (resolve target).events,
        .error failure⟩ := by
  cases failure with
  | source cause => exact haborts.elim
  | _ => simp only [followIncludes, h]

/-- The failure of one source is never what following includes ends with. -/
theorem aborts_of_followIncludes {failure : Failure}
    (h : (followIncludes policy resolve path targets document).result = .error failure) :
    failure.Aborts := by
  induction targets generalizing document with
  | nil => cases h
  | cons target targets ih =>
      cases hresult : (resolve target).result with
      | ok included =>
          rw [followIncludes_of_ok hresult] at h
          exact ih h
      | error first =>
          rcases first.source_or_aborts with ⟨cause, rfl⟩ | haborts
          · cases policy with
            | skip =>
                rw [followIncludes_of_skipped hresult] at h
                exact ih h
            | fail =>
                rw [followIncludes_of_failed hresult] at h
                cases h
                trivial
          · rw [followIncludes_of_aborts hresult haborts] at h
            cases h
            exact haborts

end Following

/-- A source that gives no document is given up before any of its includes is skipped. -/
theorem skipped_of_source {bound : Nat} {cause : SourceError}
    (h : (resolveWithin limit options loader bound path chain).result = .error (.source cause)) :
    (resolveWithin limit options loader bound path chain).skipped = [] := by
  cases bound with
  | zero => rfl
  | succ bound =>
      cases hopen : (openSource limit options loader path chain).1 with
      | error failure =>
          rw [resolveWithin_of_unopened hopen]
          rfl
      | ok source =>
          rw [resolveWithin_of_opened hopen] at h
          have haborts : (Failure.source cause).Aborts := aborts_of_followIncludes h
          exact haborts.elim

/-! ## What holds of all documents -/

section Documents

variable {P : Document → Prop} {document merged : Document}

/-- What holds of a document and of all it includes holds of them put together, if it holds of
every two documents that are merged. -/
theorem of_followIncludes {resolve : String → Resolution} {targets : List String}
    (hmerge : ∀ d e, P d → P e → P (d.merge e))
    (hresolve : ∀ target included, (resolve target).result = .ok included → P included)
    (hdocument : P document)
    (h : (followIncludes policy resolve path targets document).result = .ok merged) :
    P merged := by
  induction targets generalizing document with
  | nil =>
      obtain rfl := Except.ok.inj h
      exact hdocument
  | cons target targets ih =>
      cases hresult : (resolve target).result with
      | ok included =>
          rw [followIncludes_of_ok hresult] at h
          exact ih (hmerge _ _ hdocument (hresolve target included hresult)) h
      | error failure =>
          rcases failure.source_or_aborts with ⟨cause, rfl⟩ | haborts
          · cases policy with
            | skip =>
                rw [followIncludes_of_skipped hresult] at h
                exact ih hdocument h
            | fail =>
                rw [followIncludes_of_failed hresult] at h
                cases h
          · rw [followIncludes_of_aborts hresult haborts] at h
            cases h

/-- What holds of all documents that are read, and of two documents merged, holds of all that a
resolution gives. -/
theorem of_resolveWithin {bound : Nat} (hmerge : ∀ d e, P d → P e → P (d.merge e))
    (hread : ∀ path document, (readSource limit options loader path).1 = .ok document → P document)
    (h : (resolveWithin limit options loader bound path chain).result = .ok document) :
    P document := by
  induction bound generalizing path chain document with
  | zero => cases h
  | succ bound ih =>
      cases hopen : (openSource limit options loader path chain).1 with
      | error failure =>
          rw [resolveWithin_of_unopened hopen] at h
          cases h
      | ok source =>
          obtain ⟨key, opened⟩ := source
          rw [resolveWithin_of_opened hopen] at h
          obtain ⟨-, -, hopened⟩ := openSource_eq_ok.1 hopen
          exact of_followIncludes hmerge (fun _ _ => ih) (hread path opened hopened) h

end Documents

end ThriftSchema
