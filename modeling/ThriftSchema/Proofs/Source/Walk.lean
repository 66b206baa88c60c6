import Mathlib.Data.List.Basic
import ThriftSchema.Source.FileTree

set_option autoImplicit false

/-! # Walks and names

Two ways to follow a path: folder by folder through a tree, or by names alone, where a segment that
goes up takes back the name before it. They come to the same place unless the walk has to go up from
where there is no folder. What the names lead to then is of no concern to the walk, which fails.

* `Path.IsPlain`, `Path.text_injective`: absolute paths are told apart by their texts.
* `FileTree.Strays`: a walk has to go up from where there is no folder.
* `FileTree.walk_collapse`: any other walk is one of names alone.
* `FileTree.filePaths`: the places of the files of a tree, of which there are finitely many.
* `Disk.Misleads`, `Disk.readText_eq_of_resolve_eq`: files are where their names say.
-/

namespace ThriftSchema

/-! ## Paths and their texts -/

namespace Path

/-- Every segment is a name: it is not empty and has no slash in it. -/
def IsPlain (path : Path) : Prop := ∀ segment ∈ path.segments, segment ≠ "" ∧ '/' ∉ segment.toList

theorem isPlain_ofString (text : String) : (ofString text).IsPlain := by
  intro segment hsegment
  obtain ⟨hpart, hnamed⟩ := List.mem_filter.1 hsegment
  obtain ⟨part, hsplit, rfl⟩ := List.mem_map.1 hpart
  rw [Bool.and_eq_true, bne_iff_ne] at hnamed
  rw [String.toList_ofList]
  exact ⟨hnamed.1, Text.mark_notMem_of_mem_splitChars hsplit⟩

theorem IsPlain.join {base path : Path} (hbase : base.IsPlain) (hpath : path.IsPlain) :
    (base.join path).IsPlain := by
  rw [Path.join]
  split_ifs
  · exact hpath
  · exact List.forall_mem_append.2 ⟨hbase, hpath⟩

theorem mem_of_mem_collapseFrom {here segments : List String} {segment : String}
    (h : segment ∈ collapseFrom here segments) : segment ∈ here ∨ segment ∈ segments := by
  induction segments generalizing here with
  | nil => exact .inl (List.mem_reverse.1 h)
  | cons first segments ih =>
      rw [collapseFrom] at h
      split_ifs at h
      · exact (ih h).imp List.mem_of_mem_tail (List.mem_cons_of_mem _)
      · rcases ih h with hhere | hlater
        · rcases List.mem_cons.1 hhere with rfl | hhere
          · exact .inr List.mem_cons_self
          · exact .inl hhere
        · exact .inr (List.mem_cons_of_mem _ hlater)

theorem isPlain_resolve {path current : Path} (hpath : path.IsPlain) (hcurrent : current.IsPlain) :
    (path.resolve current).IsPlain := by
  intro segment hsegment
  rcases mem_of_mem_collapseFrom hsegment with hnone | hsegment
  · cases hnone
  · exact hcurrent.join hpath segment hsegment

/-- The segments of a plain path, as what stands between the slashes of its text. -/
theorem splitOn_segments {segments : List String} (hplain : IsPlain ⟨.root, segments⟩) :
    (List.splitOn '/' ("/".intercalate segments).toList).filter (· ≠ []) =
      segments.map String.toList := by
  rw [String.toList_intercalate]
  cases segments with
  | nil => rfl
  | cons segment segments =>
      have hparts : ∀ part ∈ (segment :: segments).map String.toList, '/' ∉ part ∧ part ≠ [] := by
        intro part hpart
        obtain ⟨name, hname, rfl⟩ := List.mem_map.1 hpart
        exact ⟨(hplain name hname).2, by simpa using (hplain name hname).1⟩
      have hsplit := List.splitOn_intercalate '/' (fun part hpart => (hparts part hpart).1)
        (by simp : (segment :: segments).map String.toList ≠ [])
      rw [show "/".toList = ['/'] from rfl, hsplit]
      exact List.filter_eq_self.2 fun part hpart => decide_eq_true (hparts part hpart).2

/-- A plain path from the root is known by its text. -/
theorem text_injective {path path' : Path} (hroot : path.anchor = .root)
    (hroot' : path'.anchor = .root) (hplain : path.IsPlain) (hplain' : path'.IsPlain)
    (h : path.text = path'.text) : path = path' := by
  obtain ⟨anchor, segments⟩ := path
  obtain ⟨anchor', segments'⟩ := path'
  obtain rfl : anchor = .root := hroot
  obtain rfl : anchor' = .root := hroot'
  have hjoined : "/".intercalate segments = "/".intercalate segments' := by
    simpa [text, Anchor.text] using h
  have hsegments : segments.map String.toList = segments'.map String.toList := by
    rw [← splitOn_segments hplain, ← splitOn_segments hplain', hjoined]
  rw [List.map_injective_iff.2 (fun _ _ => String.toList_inj.1) hsegments]

end Path

/-! ## Walks -/

/-- An error of a place in a tree: there is nothing, or no file. -/
def FileError.IsOfPlace : FileError → Prop
  | absent | notFolder | isFolder | nameTooLong => True
  | nullInPath | encoding _ => False

namespace FileTree

variable {root here : FileTree} {above : List FileTree} {segments names : List String}

theorem walk_up_root (entries : List (String × FileTree)) (segments : List String) :
    (folder entries).walk (".." :: segments) [] = (folder entries).walk segments [] := by
  simp only [walk, if_true]

theorem walk_up (entries : List (String × FileTree)) (parent : FileTree) (above : List FileTree)
    (segments : List String) :
    (folder entries).walk (".." :: segments) (parent :: above) = parent.walk segments above := by
  simp only [walk, if_true]

/-- A name leads down, or fails, whatever comes behind it. -/
theorem walk_name (here : FileTree) (above : List FileTree) {name : String} (hname : name ≠ "..") :
    (∃ (entries : List (String × FileTree)) (child : FileTree), here = folder entries ∧
      entries.lookup name = some child ∧ ∀ segments : List String,
        here.walk (name :: segments) above = child.walk segments (here :: above)) ∨
    ∃ error : FileError, error.IsOfPlace ∧ ∀ segments : List String,
      here.walk (name :: segments) above = .error error := by
  cases here with
  | file bytes => exact .inr ⟨.notFolder, trivial, fun _ => rfl⟩
  | folder entries =>
      by_cases hlong : segmentLimit < name.utf8ByteSize
      · exact .inr ⟨.nameTooLong, trivial, fun _ => by
          simp only [walk, if_neg hname, if_pos hlong]⟩
      · cases hchild : entries.lookup name with
        | none =>
            exact .inr ⟨.absent, trivial, fun _ => by
              simp only [walk, if_neg hname, if_neg hlong, hchild]⟩
        | some child =>
            exact .inl ⟨entries, child, rfl, hchild, fun _ => by
              simp only [walk, if_neg hname, if_neg hlong, hchild]⟩

/-- A segment leads somewhere, or fails, whatever comes behind it. -/
theorem walk_cons (here : FileTree) (above : List FileTree) (segment : String) :
    (∃ (next : FileTree) (above' : List FileTree), ∀ segments : List String,
      here.walk (segment :: segments) above = next.walk segments above') ∨
    ∃ error : FileError, error.IsOfPlace ∧ ∀ segments : List String,
      here.walk (segment :: segments) above = .error error := by
  by_cases hup : segment = ".."
  · subst hup
    cases here with
    | file bytes => exact .inr ⟨.notFolder, trivial, fun _ => rfl⟩
    | folder entries =>
        cases above with
        | nil => exact .inl ⟨_, _, walk_up_root entries⟩
        | cons parent above => exact .inl ⟨_, _, walk_up entries parent above⟩
  · rcases walk_name here above hup with ⟨entries, child, -, -, hnext⟩ | hfails
    · exact .inl ⟨child, _, hnext⟩
    · exact .inr hfails

theorem isOfPlace_of_walk {error : FileError} (h : here.walk segments above = .error error) :
    error.IsOfPlace := by
  induction segments generalizing here above with
  | nil => cases h
  | cons segment segments ih =>
      rcases walk_cons here above segment with ⟨next, above', hnext⟩ | ⟨why, hplace, hfails⟩
      · exact ih (hnext segments ▸ h)
      · rw [hfails] at h
        cases h
        exact hplace

/-! ## Walks that go astray -/

/-- A walk from a file or folder has to go up from where there is no folder. -/
def Strays (here : FileTree) (above : List FileTree) (segments : List String) : Prop :=
  ∃ before after, segments = before ++ ".." :: after ∧
    ∀ entries, here.walk before above ≠ .ok (folder entries)

/-- Such a walk fails. -/
theorem Strays.exists_error (h : here.Strays above segments) :
    ∃ error, here.walk segments above = .error error := by
  obtain ⟨before, after, rfl, hno⟩ := h
  induction before generalizing here above with
  | nil =>
      cases here with
      | file bytes => exact ⟨_, rfl⟩
      | folder entries => exact absurd rfl (hno entries)
  | cons segment before ih =>
      rcases walk_cons here above segment with ⟨next, above', hnext⟩ | ⟨error, -, hfails⟩
      · simp only [hnext] at hno
        rw [List.cons_append, hnext]
        exact ih hno
      · exact ⟨error, hfails _⟩

theorem Strays.cons {segment : String} {next : FileTree} {above' : List FileTree}
    (hnext : ∀ segments, here.walk (segment :: segments) above = next.walk segments above')
    (h : next.Strays above' segments) : here.Strays above (segment :: segments) := by
  obtain ⟨before, after, rfl, hno⟩ := h
  refine ⟨segment :: before, after, rfl, ?_⟩
  simpa only [hnext] using hno

/-- Where a segment fails, a later one that goes up finds no folder. -/
theorem strays_of_error {segment : String} {error : FileError}
    (hfails : ∀ segments, here.walk (segment :: segments) above = .error error)
    (h : ".." ∈ segments) : here.Strays above (segment :: segments) := by
  obtain ⟨before, after, rfl⟩ := List.append_of_mem h
  exact ⟨segment :: before, after, rfl, fun entries => by simp [hfails]⟩

/-- Going down from the root by names, the last one first, leads to a file or folder and to the
folders above it. -/
inductive Descends (root : FileTree) : List String → FileTree → List FileTree → Prop
  | root : Descends root [] root []
  | child {names : List String} {here child : FileTree} {above : List FileTree} {name : String}
      (hdown : Descends root names here above)
      (hstep : ∀ segments, here.walk (name :: segments) above =
        child.walk segments (here :: above)) :
      Descends root (name :: names) child (here :: above)

/-- What is walked from there is walked from the root behind the names. -/
theorem Descends.walk_append (h : Descends root names here above) (segments : List String) :
    root.walk (names.reverse ++ segments) [] = here.walk segments above := by
  induction h generalizing segments with
  | root => rfl
  | child _ hstep ih =>
      rw [List.reverse_cons, List.append_assoc, ih]
      exact hstep segments

theorem collapseFrom_of_notMem (h : ".." ∉ segments) :
    collapseFrom names segments = names.reverse ++ segments := by
  induction segments generalizing names with
  | nil => exact (List.append_nil _).symm
  | cons segment segments ih =>
      rw [List.mem_cons, not_or] at h
      rw [collapseFrom, if_neg (Ne.symm h.1), ih h.2, List.reverse_cons, List.append_assoc]
      rfl

/-- A walk that does not go astray ends as one of names alone: the names that are left are a way
down from the root, and going up takes its last step back. -/
theorem Descends.walk_collapseFrom (h : Descends root names here above)
    (hkeeps : ¬here.Strays above segments) :
    root.walk (collapseFrom names segments) [] = here.walk segments above := by
  induction segments generalizing names here above with
  | nil => rw [collapseFrom, ← h.walk_append [], List.append_nil]
  | cons segment segments ih =>
      by_cases hup : segment = ".."
      · subst hup
        rw [collapseFrom, if_pos rfl]
        cases here with
        | file bytes => exact absurd ⟨[], segments, rfl, fun _ h => nomatch h⟩ hkeeps
        | folder entries =>
            cases h with
            | root =>
                rw [walk_up_root]
                exact ih .root fun hstrays => hkeeps (.cons (walk_up_root entries) hstrays)
            | child hdown =>
                rw [walk_up]
                exact ih hdown fun hstrays => hkeeps (.cons (walk_up entries _ _) hstrays)
      · rcases walk_name here above hup with ⟨entries, child, rfl, -, hnext⟩ | ⟨error, -, hfails⟩
        · rw [collapseFrom, if_neg hup, hnext]
          exact ih (h.child hnext) fun hstrays => hkeeps (.cons hnext hstrays)
        · have hlast : ".." ∉ segments := fun hmem => hkeeps (strays_of_error hfails hmem)
          rw [collapseFrom_of_notMem (by simp [Ne.symm hup, hlast]), h.walk_append]

/-- A walk that does not go astray ends as one of names alone. -/
theorem walk_collapse (hkeeps : ¬root.Strays [] segments) :
    root.walk (collapse segments) [] = root.walk segments [] :=
  Descends.root.walk_collapseFrom hkeeps

/-! ## The files of a tree -/

mutual

/-- The names that lead down to the files of a tree, file by file. -/
def filePaths : FileTree → List (List String)
  | file _ => [[]]
  | folder entries => entryPaths entries

/-- The names that lead down to the files of the entries of a folder. -/
def entryPaths : List (String × FileTree) → List (List String)
  | [] => []
  | (name, child) :: entries => (filePaths child).map (name :: ·) ++ entryPaths entries

end

mutual

theorem length_filePaths : (here : FileTree) → here.filePaths.length = here.fileCount
  | file _ => rfl
  | folder entries => by rw [filePaths, fileCount, length_entryPaths entries]

theorem length_entryPaths : (entries : List (String × FileTree)) →
    (entryPaths entries).length = fileCounts entries
  | [] => rfl
  | (name, child) :: entries => by
      rw [entryPaths, fileCounts, List.length_append, List.length_map, length_filePaths child,
        length_entryPaths entries]

end

theorem mem_entryPaths {entries : List (String × FileTree)} {name : String} {child : FileTree}
    (h : entries.lookup name = some child) (hnames : names ∈ child.filePaths) :
    name :: names ∈ entryPaths entries := by
  obtain ⟨before, after, rfl, -⟩ := List.lookup_eq_some_iff.1 h
  clear h
  induction before with
  | nil => exact List.mem_append_left _ (List.mem_map_of_mem hnames)
  | cons entry before ih => exact List.mem_append_right _ ih

/-- Names that a walk finds a file by are those of a file. -/
theorem mem_filePaths {bytes : Bytes} (hup : ".." ∉ segments)
    (h : here.walk segments above = .ok (file bytes)) : segments ∈ here.filePaths := by
  induction segments generalizing here above with
  | nil =>
      obtain rfl : here = file bytes := Except.ok.inj h
      exact List.mem_singleton_self _
  | cons name segments ih =>
      rw [List.mem_cons, not_or] at hup
      rcases walk_name here above (Ne.symm hup.1) with
        ⟨entries, child, rfl, hchild, hnext⟩ | ⟨error, -, hfails⟩
      · exact mem_entryPaths hchild (ih hup.2 (hnext segments ▸ h))
      · rw [hfails] at h
        cases h

end FileTree

theorem notMem_collapseFrom {names segments : List String} (h : ".." ∉ names) :
    ".." ∉ collapseFrom names segments := by
  induction segments generalizing names with
  | nil => exact fun hmem => h (List.mem_reverse.1 hmem)
  | cons segment segments ih =>
      rw [collapseFrom]
      split_ifs with hup
      · exact ih fun hmem => h (List.mem_of_mem_tail hmem)
      · exact ih (by simp [Ne.symm hup, h])

/-! ## Disks -/

namespace Disk

variable {disk : Disk} {location location' : Path} {encoding : String}

/-- A path does not mean to the system what its names say: it is too long, or has to go up from
where there is no folder. -/
def Misleads (disk : Disk) (location : Path) : Prop :=
  pathLimit ≤ location.text.utf8ByteSize ∨
    disk.tree.Strays [] (disk.current.join location).segments

theorem find?_of_resolve (hnull : location.hasNull = false) (hleads : ¬disk.Misleads location) :
    disk.find? location = disk.tree.walk (location.resolve disk.current).segments [] := by
  rw [Misleads, not_or] at hleads
  rw [find?, hnull, if_neg Bool.false_ne_true, if_neg hleads.1]
  exact (FileTree.walk_collapse hleads.2).symm

/-- Paths that name the same place have the same text. -/
theorem readText_eq_of_resolve_eq (hnull : location.hasNull = false)
    (hnull' : location'.hasNull = false) (hleads : ¬disk.Misleads location)
    (hleads' : ¬disk.Misleads location')
    (h : location.resolve disk.current = location'.resolve disk.current) :
    disk.readText location encoding = disk.readText location' encoding := by
  have hfind : disk.find? location = disk.find? location' := by
    rw [find?_of_resolve hnull hleads, find?_of_resolve hnull' hleads', h]
  simp only [readText, readBytes, hfind]

theorem isOfPlace_of_find? (hnull : location.hasNull = false) {error : FileError}
    (h : disk.find? location = .error error) : error.IsOfPlace := by
  rw [find?, hnull, if_neg Bool.false_ne_true] at h
  split_ifs at h
  · cases h
    trivial
  · exact FileTree.isOfPlace_of_walk h

/-- The text at a path, as a matter of what is there. -/
theorem readText_eq (disk : Disk) (location : Path) (encoding : String) :
    disk.readText location encoding =
      if encoding.toList.contains '\x00' then .error (.encoding .nullInName)
      else
        match disk.find? location with
        | .error error => .error error
        | .ok (.folder _) => .error .isFolder
        | .ok (.file bytes) => (readAs bytes encoding).mapError .encoding := by
  rw [readText, readBytes]
  split_ifs
  · rfl
  · rcases disk.find? location with error | (bytes | entries) <;> rfl

theorem readText_error (hnull : location.hasNull = false) {error : FileError}
    (h : disk.readText location encoding = .error error) :
    error.IsOfPlace ∨ ∃ e, error = .encoding e := by
  rw [readText_eq] at h
  split_ifs at h
  · exact .inr ⟨_, (Except.error.inj h).symm⟩
  · split at h
    · next why hfind => exact .inl (Except.error.inj h ▸ isOfPlace_of_find? hnull hfind)
    · exact .inl (Except.error.inj h ▸ trivial)
    · next bytes hfind =>
      cases hread : readAs bytes encoding with
      | error e => exact .inr ⟨e, (Except.error.inj (hread ▸ h)).symm⟩
      | ok text => rw [hread] at h; cases h

theorem exists_file_of_readText {text : String} (h : disk.readText location encoding = .ok text) :
    ∃ bytes, disk.find? location = .ok (.file bytes) := by
  rw [readText_eq] at h
  split_ifs at h
  split at h
  · cases h
  · cases h
  · next bytes hfind => exact ⟨bytes, hfind⟩

/-- There is no file at a path that misleads. -/
theorem Misleads.find?_ne_ok (h : disk.Misleads location) (t : FileTree) :
    disk.find? location ≠ .ok t := by
  intro hfind
  rw [find?] at hfind
  split_ifs at hfind with hnull hlong
  rcases h with hlong' | hstrays
  · exact hlong hlong'
  · obtain ⟨error, herror⟩ := hstrays.exists_error
    rw [herror] at hfind
    cases hfind

/-- A path that a text is read at leads to a file by its names alone. -/
theorem mem_filePaths_of_readText {text : String} (hnull : location.hasNull = false)
    (h : disk.readText location encoding = .ok text) :
    (location.resolve disk.current).segments ∈ disk.tree.filePaths := by
  obtain ⟨bytes, hfind⟩ := exists_file_of_readText h
  have hleads : ¬disk.Misleads location := fun hmisleads => hmisleads.find?_ne_ok _ hfind
  rw [find?_of_resolve hnull hleads] at hfind
  exact FileTree.mem_filePaths (notMem_collapseFrom List.not_mem_nil) hfind

end Disk

end ThriftSchema
