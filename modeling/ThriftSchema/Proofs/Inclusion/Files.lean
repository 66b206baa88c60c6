import Mathlib.Data.List.Nodup
import Mathlib.Data.List.Perm.Subperm
import ThriftSchema.Proofs.Inclusion.Policy
import ThriftSchema.Proofs.Reading
import ThriftSchema.Proofs.Source.Walk

set_option autoImplicit false

/-! # Includes between files

The key of a path is found by names alone and its text by a walk. So two paths of one key have the
same text, or both have none, but for a path that misleads: that one has no text, whatever the
others of its key have. In a resolution all sources that are being resolved have been loaded; a
path that leads back to one of them is itself missing only if it misleads.

* `Files.Misleads`, `Files.Misses`: a path that the system does not take as its names say.
* `SameLoad`: two ends of loading that are the same but for the paths in them.
* `Files.sameLoad_of_key_eq`: a key is one source.
* `Visit.Loaded`: what holds of every visit of a resolution.
* `key_identifies`: keys, cycles and missing includes of files.
-/

namespace ThriftSchema

/-! ## Loading files -/

/-- Two ends of loading: the same text, no source at either path, or the same error of the
encoding. -/
inductive SameLoad : Except Failure String → Except Failure String → Prop
  | text (text : String) : SameLoad (.ok text) (.ok text)
  | missing (path path' : String) (reason reason' : Option String) :
      SameLoad (.error (.notFound path reason)) (.error (.notFound path' reason'))
  | encoding (location location' : Path) (error : EncodingError) :
      SameLoad (.error (.file location (.encoding error)))
        (.error (.file location' (.encoding error)))

namespace Files

variable {files : Files} {path path' key : String} {location location' : Path}

/-- The paths that files are found from are made of names. -/
structure IsPlain (files : Files) : Prop where
  root : files.root.IsPlain
  current : files.disk.current.IsPlain

theorem isPlain_ofString (tree : FileTree) (current root encoding : String) :
    IsPlain ⟨⟨tree, .ofString current⟩, .ofString root, encoding⟩ where
  root := Path.isPlain_ofString root
  current := Path.isPlain_ofString current

/-- The system does not take the location of a path as its names say. -/
def Misleads (files : Files) (path : String) : Prop :=
  ∃ location, files.locate path = .ok location ∧ files.disk.Misleads location

theorem misleads_iff (h : files.locate path = .ok location) :
    files.Misleads path ↔ files.disk.Misleads location := by
  rw [Misleads, h]
  exact ⟨fun ⟨found, hfound, hmisleads⟩ => Except.ok.inj hfound ▸ hmisleads,
    fun hmisleads => ⟨location, rfl, hmisleads⟩⟩

theorem isPlain_locate (hplain : files.IsPlain) (h : files.locate path = .ok location) :
    location.IsPlain := by
  have hgiven : (Path.ofString path).IsPlain := Path.isPlain_ofString path
  have hbeside : (files.root.join (Path.ofString (dropSlashes path))).IsPlain :=
    hplain.root.join (Path.isPlain_ofString _)
  rw [locate] at h
  split_ifs at h
  · split at h
    · obtain rfl := Except.ok.inj h
      split_ifs
      · exact hgiven
      · exact hbeside
    · cases h
  · obtain rfl := Except.ok.inj h
    exact hbeside

/-- A path has a key if it has a location that can be one. -/
theorem key_eq_ok :
    files.key path = .ok key ↔ ∃ location, files.locate path = .ok location ∧
      location.hasNull = false ∧ (location.resolve files.disk.current).text = key := by
  rw [Files.key]
  cases files.locate path with
  | error failure => simp [bind, Except.bind]
  | ok location =>
      simp only [bind, Except.bind, keyOf, Except.ok.injEq, exists_eq_left']
      cases location.hasNull with
      | true => simp
      | false => simp [pure, Except.pure]

theorem load_of_locate (h : files.locate path = .ok location) :
    files.load path =
      (files.disk.readText location files.encoding).mapError (failureOf path location) := by
  rw [load, h]
  rfl

theorem load_eq_ok {text : String} (h : files.locate path = .ok location) :
    files.load path = .ok text ↔ files.disk.readText location files.encoding = .ok text := by
  rw [load_of_locate h]
  cases files.disk.readText location files.encoding <;> simp [Except.mapError]

theorem failureOf_of_isOfPlace {error : FileError} (h : error.IsOfPlace) (path : String)
    (location : Path) : ∃ reason, failureOf path location error = .notFound path reason := by
  cases error with
  | nullInPath => exact h.elim
  | encoding => exact h.elim
  | _ => exact ⟨_, rfl⟩

/-- Nothing is found at a path that misleads. -/
theorem missing_of_misleads (hencoding : files.encoding.toList.contains '\x00' = false)
    (hlocate : files.locate path = .ok location) (hnull : location.hasNull = false)
    (h : files.disk.Misleads location) :
    ∃ reason, files.load path = .error (.notFound path reason) := by
  rw [load_of_locate hlocate, Disk.readText_eq, hencoding, if_neg Bool.false_ne_true]
  cases hfind : files.disk.find? location with
  | ok found => exact absurd hfind (h.find?_ne_ok found)
  | error error =>
      obtain ⟨reason, hreason⟩ :=
        failureOf_of_isOfPlace (Disk.isOfPlace_of_find? hnull hfind) path location
      exact ⟨reason, congrArg Except.error hreason⟩

/-- Nothing is found at the first path, which misleads, while the second one means what its names
say. -/
structure Misses (files : Files) (path path' : String) : Prop where
  misleads : files.Misleads path
  missing : ∃ reason, files.load path = .error (.notFound path reason)
  leads : ¬files.Misleads path'

theorem Misses.load_ne_ok (h : files.Misses path path') (text : String) :
    files.load path ≠ .ok text := by
  obtain ⟨reason, hmissing⟩ := h.missing
  rw [hmissing]
  exact fun h => nomatch h

/-- Two locations that mean what their names say, which are those of one place. -/
theorem sameLoad_of_resolve_eq (hlocate : files.locate path = .ok location)
    (hlocate' : files.locate path' = .ok location') (hnull : location.hasNull = false)
    (hnull' : location'.hasNull = false) (hleads : ¬files.disk.Misleads location)
    (hleads' : ¬files.disk.Misleads location')
    (h : location.resolve files.disk.current = location'.resolve files.disk.current) :
    SameLoad (files.load path) (files.load path') := by
  rw [load_of_locate hlocate, load_of_locate hlocate',
    ← Disk.readText_eq_of_resolve_eq hnull hnull' hleads hleads' h]
  cases hread : files.disk.readText location files.encoding with
  | ok text => exact .text text
  | error error =>
      rcases Disk.readText_error hnull hread with hplace | ⟨error, rfl⟩
      · obtain ⟨reason, hreason⟩ := failureOf_of_isOfPlace hplace path location
        obtain ⟨reason', hreason'⟩ := failureOf_of_isOfPlace hplace path' location'
        rw [Except.mapError, Except.mapError, hreason, hreason']
        exact .missing path path' reason reason'
      · cases error with
        | undecodable error => exact .missing path path' _ _
        | _ => exact .encoding location location' _

/-- A key is one source: two paths that have it are loaded alike, unless one of them misleads and
the other does not. -/
theorem sameLoad_of_key_eq (hplain : files.IsPlain) (h : files.key path = .ok key)
    (h' : files.key path' = .ok key) :
    SameLoad (files.load path) (files.load path') ∨ files.Misses path path' ∨
      files.Misses path' path := by
  obtain ⟨location, hlocate, hnull, hkey⟩ := key_eq_ok.1 h
  obtain ⟨location', hlocate', hnull', hkey'⟩ := key_eq_ok.1 h'
  have hsame : location.resolve files.disk.current = location'.resolve files.disk.current :=
    Path.text_injective rfl rfl
      (Path.isPlain_resolve (isPlain_locate hplain hlocate) hplain.current)
      (Path.isPlain_resolve (isPlain_locate hplain hlocate') hplain.current) (hkey.trans hkey'.symm)
  cases hencoding : files.encoding.toList.contains '\x00' with
  | true =>
      -- no text can be read with such a name of an encoding, wherever it is
      rw [load_of_locate hlocate, load_of_locate hlocate', Disk.readText_eq, Disk.readText_eq,
        hencoding, if_pos rfl, if_pos rfl]
      exact .inl (.encoding location location' .nullInName)
  | false =>
      by_cases hmisleads : files.Misleads path
      · obtain ⟨reason, hmissing⟩ :=
          missing_of_misleads hencoding hlocate hnull (misleads_iff hlocate |>.1 hmisleads)
        by_cases hmisleads' : files.Misleads path'
        · obtain ⟨reason', hmissing'⟩ :=
            missing_of_misleads hencoding hlocate' hnull' (misleads_iff hlocate' |>.1 hmisleads')
          rw [hmissing, hmissing']
          exact .inl (.missing path path' reason reason')
        · exact .inr (.inl ⟨hmisleads, ⟨reason, hmissing⟩, hmisleads'⟩)
      · by_cases hmisleads' : files.Misleads path'
        · exact .inr (.inr ⟨hmisleads',
            missing_of_misleads hencoding hlocate' hnull' (misleads_iff hlocate' |>.1 hmisleads'),
            hmisleads⟩)
        · exact .inl (sameLoad_of_resolve_eq hlocate hlocate' hnull hnull'
            (mt (misleads_iff hlocate).2 hmisleads) (mt (misleads_iff hlocate').2 hmisleads') hsame)

/-- A path that cannot be located is not just missing. -/
theorem aborts_of_locate {failure : Failure} (h : files.locate path = .error failure) :
    failure.Aborts := by
  rw [locate] at h
  split_ifs at h
  · split at h
    · cases h
    · obtain rfl := Except.error.inj h
      trivial
  · cases h

/-- A path that is missing has a key. -/
theorem exists_key_of_missing {cause : SourceError} (h : files.load path = .error (.source cause)) :
    ∃ key, files.key path = .ok key := by
  cases hlocate : files.locate path with
  | error failure =>
      rw [load, hlocate] at h
      obtain rfl : failure = .source cause := Except.error.inj h
      exact (aborts_of_locate hlocate).elim
  | ok location =>
      cases hnull : location.hasNull with
      | false => exact ⟨_, key_eq_ok.2 ⟨location, hlocate, hnull, rfl⟩⟩
      | true =>
          have hfind : files.disk.find? location = .error .nullInPath := by
            rw [Disk.find?, hnull, if_pos rfl]
          rw [load_of_locate hlocate, Disk.readText_eq, hfind] at h
          split_ifs at h <;> cases h

/-- The key of a path that is loaded is the place of a file of the disk. -/
theorem exists_filePath {text : String} (h : files.key path = .ok key)
    (hload : files.load path = .ok text) :
    ∃ names ∈ files.disk.tree.filePaths, Path.text ⟨.root, names⟩ = key := by
  obtain ⟨location, hlocate, hnull, hkey⟩ := key_eq_ok.1 h
  exact ⟨_, Disk.mem_filePaths_of_readText hnull ((load_eq_ok hlocate).1 hload), hkey⟩

end Files

/-! ## Visits -/

variable {limit : Nat} {options : Options} {files : Files} {path : String}

/-- The sources that are being resolved have been loaded, their keys are different, and the bound
has room for the others. -/
structure Visit.Loaded (files : Files) (v : Visit) : Prop where
  bound : v.bound + v.chain.length = files.loader.size + 1
  keys : ∀ link ∈ v.chain, files.key link.2 = .ok link.1
  loads : ∀ link ∈ v.chain, ∃ text, files.load link.2 = .ok text
  distinct : (v.chain.map Prod.fst).Nodup

theorem Enters.loaded {v w : Visit} (h : Enters limit options files.loader v w)
    (hv : v.Loaded files) : w.Loaded files := by
  cases h with
  | @intro bound path key chain own before after target hopen hincludes hbefore =>
      obtain ⟨hkey, hnew, hread⟩ := openSource_eq_ok.1 hopen
      obtain ⟨text, hload, -⟩ := readSource_eq_ok.1 hread
      refine ⟨?_, ?_, ?_, ?_⟩
      · have := hv.bound
        simp only [List.length_append, List.length_singleton] at this ⊢
        omega
      · exact List.forall_mem_append.2 ⟨hv.keys, List.forall_mem_singleton.2 hkey⟩
      · exact List.forall_mem_append.2 ⟨hv.loads, List.forall_mem_singleton.2 ⟨text, hload⟩⟩
      · rw [List.map_append, List.nodup_append_comm]
        exact List.nodup_cons.2 ⟨hnew, hv.distinct⟩

theorem Reaches.loaded {w : Visit}
    (h : Reaches limit options files.loader (.start files.loader path) w) : w.Loaded files := by
  induction h with
  | refl => exact ⟨rfl, by simp [Visit.start], by simp [Visit.start], List.nodup_nil⟩
  | tail _ hstep ih => exact hstep.loaded ih

/-- There are no more sources being resolved than files. -/
theorem Visit.Loaded.length_chain_le {v : Visit} (h : v.Loaded files) :
    v.chain.length ≤ files.loader.size := by
  have hsize : files.loader.size =
      (files.disk.tree.filePaths.map fun names => Path.text ⟨.root, names⟩).length := by
    rw [List.length_map, FileTree.length_filePaths]
    rfl
  rw [hsize, ← List.length_map Prod.fst]
  refine (List.subperm_of_subset h.distinct fun key hkey => ?_).length_le
  obtain ⟨link, hlink, rfl⟩ := List.mem_map.1 hkey
  obtain ⟨text, hload⟩ := h.loads link hlink
  obtain ⟨names, hnames, htext⟩ := Files.exists_filePath (h.keys link hlink) hload
  exact List.mem_map.2 ⟨names, hnames, htext⟩

theorem Visit.Loaded.bound_pos {v : Visit} (h : v.Loaded files) : 0 < v.bound := by
  have hlength := h.length_chain_le
  have hbound := h.bound
  omega

/-- A missing path, unless it misleads, leads back to no source that is being resolved. -/
theorem Visit.Loaded.key_notMem {v : Visit} (h : v.Loaded files) (hplain : files.IsPlain)
    {cause : SourceError} {key : String} (hkey : files.key v.path = .ok key)
    (hmissing : files.load v.path = .error (.source cause)) (hleads : ¬files.Misleads v.path) :
    key ∉ v.chain.map Prod.fst := by
  intro hmem
  obtain ⟨link, hlink, rfl⟩ := List.mem_map.1 hmem
  obtain ⟨text, hload⟩ := h.loads link hlink
  rcases Files.sameLoad_of_key_eq hplain (h.keys link hlink) hkey with hsame | hstray | hstray
  · rw [hload, hmissing] at hsame
    cases hsame
  · exact hstray.load_ne_ok text hload
  · exact hleads hstray.misleads

/-- So a missing path that does not mislead is no cycle: it fails as one source does. -/
theorem Visit.Loaded.result_of_missing {v : Visit} (h : v.Loaded files) (hplain : files.IsPlain)
    (limit : Nat) (options : Options) {cause : SourceError}
    (hmissing : files.load v.path = .error (.source cause))
    (hleads : ¬files.Misleads v.path) :
    (v.resolution limit options files.loader).result = .error (.source cause) := by
  obtain ⟨key, hkey⟩ := Files.exists_key_of_missing hmissing
  have hread : (readSource limit options files.loader v.path).1 = .error (.source cause) := by
    have hload : files.loader.load v.path = .error (.source cause) := hmissing
    rw [readSource, hload]
  have hopen := openSource_of_unread hkey (h.key_notMem hplain hkey hmissing hleads) hread
  obtain ⟨bound, hbound⟩ := Nat.exists_eq_succ_of_ne_zero (Nat.ne_of_gt h.bound_pos)
  obtain ⟨_, path, chain⟩ := v
  obtain rfl : _ = bound + 1 := hbound
  rw [Visit.resolution, resolveWithin_of_unopened hopen]
  rfl

/-! ## What is skipped -/

section Following

variable {loader : Loader} {policy : IncludePolicy} {resolve : String → Resolution}
  {before after : List String} {target : String} {document : Document} {entry : SkippedInclude}

/-- What an include skips is skipped, once the include is come to. -/
theorem mem_skipped_followIncludes (hbefore : ∀ t ∈ before, GoesOn policy (resolve t).result)
    (h : ∀ document, entry ∈
      (followIncludes policy resolve path (target :: after) document).skipped) :
    entry ∈ (followIncludes policy resolve path (before ++ target :: after) document).skipped := by
  induction before generalizing document with
  | nil => exact h document
  | cons first before ih =>
      rw [List.forall_mem_cons] at hbefore
      obtain ⟨hfirst, hrest⟩ := hbefore
      rw [List.cons_append]
      cases hresult : (resolve first).result with
      | ok included =>
          rw [followIncludes_of_ok hresult]
          exact List.mem_append_right _ (ih hrest)
      | error why =>
          rw [hresult] at hfirst
          rcases why.source_or_aborts with ⟨cause, rfl⟩ | hwhy
          · obtain rfl : policy = .skip := hfirst
            rw [followIncludes_of_skipped hresult]
            exact List.mem_append_right _ (ih hrest)
          · exact absurd hfirst (not_goesOn_of_aborts hwhy)

theorem mem_skipped_of_mem (h : entry ∈ (resolve target).skipped) (document : Document) :
    entry ∈ (followIncludes policy resolve path (target :: after) document).skipped := by
  cases hresult : (resolve target).result with
  | ok included =>
      rw [followIncludes_of_ok hresult]
      exact List.mem_append_left _ h
  | error why =>
      rcases why.source_or_aborts with ⟨cause, rfl⟩ | hwhy
      · cases policy with
        | skip =>
            rw [followIncludes_of_skipped hresult]
            exact List.mem_append_left _ (List.mem_append_left _ h)
        | fail => rwa [followIncludes_of_failed hresult]
      · rwa [followIncludes_of_aborts hresult hwhy]

theorem mem_skipped_of_source {cause : SourceError}
    (h : (resolve target).result = .error (.source cause)) (document : Document) :
    ⟨target, path, cause.message⟩ ∈
      (followIncludes .skip resolve path (target :: after) document).skipped := by
  rw [followIncludes_of_skipped h]
  exact List.mem_append_left _ (List.mem_append_right _ List.mem_cons_self)

theorem Enters.mem_skipped {v w : Visit} (h : Enters limit options loader v w)
    (hentry : entry ∈ (w.resolution limit options loader).skipped) :
    entry ∈ (v.resolution limit options loader).skipped := by
  cases h with
  | intro hopen hincludes hbefore =>
      rw [Visit.resolution, resolveWithin_of_opened hopen, hincludes]
      exact mem_skipped_followIncludes hbefore (mem_skipped_of_mem hentry)

theorem Reaches.mem_skipped {v w : Visit} (h : Reaches limit options loader v w)
    (hentry : entry ∈ (w.resolution limit options loader).skipped) :
    entry ∈ (v.resolution limit options loader).skipped := by
  induction h with
  | refl => exact hentry
  | tail _ hstep ih => exact ih (hstep.mem_skipped hentry)

/-- An include that fails as one source does is recorded where it may be skipped. -/
theorem Enters.mem_skipped_of_source {v w : Visit} (h : Enters limit options loader v w)
    (hskip : options.includePolicy = .skip) {cause : SourceError}
    (hfails : (w.resolution limit options loader).result = .error (.source cause)) :
    ⟨w.path, v.path, cause.message⟩ ∈ (v.resolution limit options loader).skipped := by
  cases h with
  | intro hopen hincludes hbefore =>
      rw [Visit.resolution, resolveWithin_of_opened hopen, hincludes, hskip]
      rw [hskip] at hbefore
      exact mem_skipped_followIncludes hbefore (ThriftSchema.mem_skipped_of_source hfails)

end Following

/-! ## How files fail -/

/-- The failures of one path: its text cannot be had or is not read. -/
def Failure.IsOfPath : Failure → Prop
  | source _ | stopped _ | file _ _ => True
  | includeFailed .. | circular _ | bottomless => False

theorem Files.isOfPath_of_locate {failure : Failure} (h : files.locate path = .error failure) :
    failure.IsOfPath := by
  rw [locate] at h
  split_ifs at h
  · split at h
    · cases h
    · obtain rfl := Except.error.inj h
      trivial
  · cases h

theorem Files.isOfPath_of_key {failure : Failure} (h : files.key path = .error failure) :
    failure.IsOfPath := by
  cases hlocate : files.locate path with
  | error why =>
      rw [key, hlocate] at h
      obtain rfl : why = failure := Except.error.inj h
      exact isOfPath_of_locate hlocate
  | ok location =>
      rw [key, hlocate] at h
      simp only [bind, Except.bind, keyOf] at h
      split_ifs at h
      · obtain rfl := Except.error.inj h
        trivial
      · cases h

theorem Files.isOfPath_of_load {failure : Failure} (h : files.load path = .error failure) :
    failure.IsOfPath := by
  cases hlocate : files.locate path with
  | error why =>
      rw [load, hlocate] at h
      obtain rfl : why = failure := Except.error.inj h
      exact isOfPath_of_locate hlocate
  | ok location =>
      rw [load_of_locate hlocate] at h
      cases hread : files.disk.readText location files.encoding with
      | ok text => rw [hread] at h; cases h
      | error error =>
          rw [hread] at h
          obtain rfl := Except.error.inj h
          cases error with
          | encoding error => cases error <;> trivial
          | _ => trivial

theorem isOfPath_of_ofText {options : BuildOptions} {text : String} {source : Option String}
    {failure : Failure} (h : Document.ofText limit options text source = .error failure) :
    failure.IsOfPath := by
  have hends := readingEnds_ofText limit options text source
  rw [h] at hends
  generalize Reader.document options limit (stripComments text).toList = p at hends
  cases hends <;> trivial

/-- Opening a path fails because it leads back to a source that is being resolved, or as the path
does. -/
theorem openSource_files_error {chain : List Link} {failure : Failure}
    (h : (openSource limit options files.loader path chain).1 = .error failure) :
    (∃ key paths, files.key path = .ok key ∧ cycleFrom? key chain = some paths ∧
      failure = .circular (paths ++ [path])) ∨ failure.IsOfPath := by
  rw [openSource] at h
  cases hkey : files.loader.key path with
  | error why =>
      simp only [hkey] at h
      obtain rfl := Except.error.inj h
      exact .inr (Files.isOfPath_of_key hkey)
  | ok key =>
      simp only [hkey] at h
      cases hcycle : cycleFrom? key chain with
      | some paths =>
          simp only [hcycle] at h
          exact .inl ⟨key, paths, hkey, hcycle, (Except.error.inj h).symm⟩
      | none =>
          simp only [hcycle] at h
          rw [readSource] at h
          cases hload : files.loader.load path with
          | error why =>
              simp only [hload] at h
              obtain rfl := Except.error.inj h
              exact .inr (Files.isOfPath_of_load hload)
          | ok text =>
              simp only [hload] at h
              cases hread : Document.ofText limit options.toBuildOptions text (some path) with
              | error why =>
                  simp only [hread] at h
                  obtain rfl := Except.error.inj h
                  exact .inr (isOfPath_of_ofText hread)
              | ok document => simp only [hread] at h; cases h

/-! ## Keys, cycles and missing includes -/

/-- All paths of a cycle but the last one have been loaded, and the last one is the first one once
more, unless it misleads. -/
theorem loads_of_circular (hplain : files.IsPlain) {chain : List String}
    (h : (resolve limit options files.loader path).result = .error (.circular chain)) :
    ∃ first between last, chain = first :: between ++ [last] ∧
      (∀ p ∈ first :: between, ∃ text, files.load p = .ok text) ∧
      (files.load last = files.load first ∨ files.Misses last first) := by
  obtain ⟨w, hreaches, ⟨-, hbottomless⟩ | hopen⟩ := exists_unopened (by simp) h
  · cases hbottomless
  · rcases openSource_files_error hopen with ⟨key, paths, hkey, hcycle, hcircular⟩ | hpath
    · obtain ⟨before, first, after, hchain, rfl⟩ := exists_of_cycleFrom? hcycle
      have hloaded := hreaches.loaded
      have hlater : ∀ link ∈ (key, first) :: after, link ∈ w.chain := fun link hlink =>
        hchain ▸ List.mem_append_right _ hlink
      have hloads : ∀ p ∈ first :: after.map Prod.snd, ∃ text, files.load p = .ok text := by
        intro p hp
        obtain ⟨link, hlink, rfl⟩ : ∃ link ∈ (key, first) :: after, link.2 = p :=
          List.mem_map.1 hp
        exact hloaded.loads link (hlater link hlink)
      refine ⟨first, after.map Prod.snd, w.path, by simpa using hcircular, hloads, ?_⟩
      obtain ⟨text, hload⟩ := hloads first List.mem_cons_self
      have hfirst : files.key first = .ok key :=
        hloaded.keys (key, first) (hlater _ List.mem_cons_self)
      rcases Files.sameLoad_of_key_eq hplain hfirst hkey with hsame | hstray | hstray
      · rw [hload] at hsame ⊢
        generalize files.load w.path = load at hsame ⊢
        cases hsame
        exact .inl rfl
      · exact absurd hload (hstray.load_ne_ok text)
      · exact .inr hstray
    · exact hpath.elim

/-- Two paths of one key are the same source, or one of them misleads and is missing. So a cycle of
files that is found is one of paths that can all be loaded, and a missing include is skipped,
unless the path that leads back, or that is missing, misleads. -/
theorem key_identifies (limit : Nat) (files : Files) (hplain : files.IsPlain) :
    (∀ p q key, files.key p = .ok key → files.key q = .ok key →
      SameLoad (files.load p) (files.load q) ∨ files.Misses p q ∨ files.Misses q p) ∧
    ∀ options path,
      (∀ chain, (resolve limit options files.loader path).result = .error (.circular chain) →
        ∃ first between last, chain = first :: between ++ [last] ∧
          (∀ p ∈ first :: between, ∃ text, files.load p = .ok text) ∧
          (files.load last = files.load first ∨ files.Misses last first)) ∧
      (options.includePolicy = .skip → ∀ v w cause,
        Reaches limit options files.loader (.start files.loader path) v →
        Enters limit options files.loader v w → files.load w.path = .error (.source cause) →
        files.Misleads w.path ∨
          (w.resolution limit options files.loader).result = .error (.source cause) ∧
          ⟨w.path, v.path, cause.message⟩ ∈ (resolve limit options files.loader path).skipped) := by
  refine ⟨fun p q key => Files.sameLoad_of_key_eq hplain,
    fun options path => ⟨fun chain => loads_of_circular hplain, ?_⟩⟩
  intro hskip v w cause hreaches henters hmissing
  by_cases hmisleads : files.Misleads w.path
  · exact .inl hmisleads
  · have hfails :=
      (henters.loaded hreaches.loaded).result_of_missing hplain limit options hmissing hmisleads
    exact .inr ⟨hfails, hreaches.mem_skipped (henters.mem_skipped_of_source hskip hfails)⟩

/-! ## A path that misleads -/

/-- The cycle that a resolution ends with, if it does. -/
def Resolution.cycle? (r : Resolution) : Option (List String) :=
  match r.result with
  | .error (.circular chain) => some chain
  | _ => none

theorem Resolution.result_of_cycle? {r : Resolution} {chain : List String}
    (h : r.cycle? = some chain) : r.result = .error (.circular chain) := by
  rw [cycle?] at h
  split at h
  · next found hresult => rw [hresult, Option.some.inj h]
  · cases h

/-- A file that includes itself by way of a folder that is not there, and an empty folder. -/
def strayFiles : Files where
  disk :=
    ⟨.folder [("a", .file "include \"b/../a\"".toUTF8.toList), ("x", .folder [])], .ofString "/"⟩
  root := .ofString "."
  encoding := "utf-8"

theorem isPlain_strayFiles : strayFiles.IsPlain := Files.isPlain_ofString ..

theorem ok_of_toOption {α : Type} {r : Except Failure α} {a : α} (h : r.toOption = some a) :
    r = .ok a := by
  cases r with
  | error failure => cases h
  | ok b => exact congrArg Except.ok (Option.some.inj h)

theorem key_strayFiles :
    ∀ path ∈ ["a", "x/../a", "b/../a"], strayFiles.key path = .ok "/a" := by
  have h : ∀ path ∈ ["a", "x/../a", "b/../a"], (strayFiles.key path).toOption = some "/a" := by
    decide +kernel
  exact fun path hpath => ok_of_toOption (h path hpath)

theorem load_strayFiles :
    ∀ path ∈ ["a", "x/../a"], strayFiles.load path = .ok "include \"b/../a\"" := by
  have h : ∀ path ∈ ["a", "x/../a"],
      (strayFiles.load path).toOption = some "include \"b/../a\"" := by
    decide +kernel
  exact fun path hpath => ok_of_toOption (h path hpath)

theorem load_strayFiles_ne_ok (text : String) : strayFiles.load "b/../a" ≠ .ok text := by
  have hnone : (strayFiles.load "b/../a").toOption = none := by decide +kernel
  intro h
  rw [h] at hnone
  cases hnone

theorem resolve_strayFiles :
    (resolve 60 {} strayFiles.loader "a").result = .error (.circular ["a", "b/../a"]) :=
  Resolution.result_of_cycle? (by decide +kernel)

/-- Going up from a folder that is there changes nothing. From one that is not, the path misleads,
and is taken for the source that its names say. -/
theorem key_identifies_sample :
    SameLoad (strayFiles.load "a") (strayFiles.load "x/../a") ∧
      strayFiles.Misses "b/../a" "a" := by
  obtain ⟨hsame, hresolves⟩ := key_identifies 60 strayFiles isPlain_strayFiles
  have hload := load_strayFiles "a" (by simp)
  refine ⟨?_, ?_⟩
  · rcases hsame "a" "x/../a" "/a" (key_strayFiles _ (by simp)) (key_strayFiles _ (by simp)) with
      h | hmisses | hmisses
    · exact h
    · exact absurd hload (hmisses.load_ne_ok _)
    · exact absurd (load_strayFiles "x/../a" (by simp)) (hmisses.load_ne_ok _)
  · obtain ⟨first, between, last, hchain, -, hlast⟩ :=
      (hresolves {} "a").1 _ resolve_strayFiles
    obtain ⟨hfirst, hlater⟩ := List.cons.inj hchain
    obtain ⟨rfl, rfl⟩ : between = [] ∧ last = "b/../a" := by
      cases between with
      | nil => exact ⟨rfl, (List.cons.inj hlater).1.symm⟩
      | cons p between => simp at hlater
    rcases hlast with h | hmisses
    · rw [← hfirst, hload] at h
      exact absurd h (load_strayFiles_ne_ok _)
    · exact hfirst ▸ hmisses

/-- So a key can be that of a source and of a path that is missing, and a cycle can be one of paths
that cannot all be loaded. -/
theorem not_key_identifies :
    (¬∀ (files : Files) (p q key : String), files.IsPlain → files.key p = .ok key →
      files.key q = .ok key →
      (∃ text, files.load p = .ok text ∧ files.load q = .ok text) ∨
        ∃ reason reason', files.load p = .error (.notFound p reason) ∧
          files.load q = .error (.notFound q reason')) ∧
    ¬∀ (options : Options) (files : Files) (path : String) (chain : List String), files.IsPlain →
      (resolve 60 options files.loader path).result = .error (.circular chain) →
      ∀ p ∈ chain, ∃ text, files.load p = .ok text := by
  refine ⟨fun h => ?_, fun h => ?_⟩
  · rcases h strayFiles "a" "b/../a" "/a" isPlain_strayFiles (key_strayFiles _ (by simp))
      (key_strayFiles _ (by simp)) with ⟨text, -, hload⟩ | ⟨reason, -, hmissing, -⟩
    · exact load_strayFiles_ne_ok text hload
    · rw [load_strayFiles "a" (by simp)] at hmissing
      cases hmissing
  · obtain ⟨text, hload⟩ := h {} strayFiles "a" _ isPlain_strayFiles resolve_strayFiles "b/../a"
      (by simp)
    exact load_strayFiles_ne_ok text hload

end ThriftSchema
