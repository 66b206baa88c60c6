import ThriftSchema.Proofs.Source.Walk
import ThriftSchema.Proofs.Text.Split
import ThriftSchema.Source.Memory

set_option autoImplicit false

/-! # Keys of paths in memory

The key of a path is its names from the root, and a key is its own key. What is put between two
parts of a path and leads nowhere does not change the key, and it does not matter which slashes a
path is written with. A path finds what was last stored under a path of the same key.

* `IsSegment`: what the segments of a key are.
* `SlashAlike`: paths that differ in the kind of their slashes.
* `Memory.segments_key`: the segments of a key.
* `Memory.load_addAll`: what is found after texts have been stored one after the other.
* `Memory.key_canonical`: the laws of keys and of loading by them.
-/

namespace ThriftSchema

open Text (splitChars)

/-! ## Segments -/

/-- A segment that names something, however slashes are written. -/
structure IsSegment (segment : String) : Prop where
  ne_empty : segment ≠ ""
  ne_here : segment ≠ "."
  ne_up : segment ≠ ".."
  slash : '/' ∉ segment.toList
  backslash : '\\' ∉ segment.toList

/-- A slash of either kind. -/
def IsSlash (c : Char) : Prop := c = '/' ∨ c = '\\'

/-- Two texts that are the same up to the kind of their slashes. -/
def SlashAlike (path path' : String) : Prop :=
  List.Forall₂ (fun c d => c = d ∨ IsSlash c ∧ IsSlash d) path.toList path'.toList

/-- The segments of two texts with a slash between them. -/
theorem segmentsOf_append (path rest : String) :
    segmentsOf (path ++ "/" ++ rest) = segmentsOf path ++ segmentsOf rest := by
  have hchars : (path ++ "/" ++ rest).toList = path.toList ++ '/' :: rest.toList := by simp
  rw [segmentsOf, Text.split, hchars, Text.splitChars_append_mark, List.map_append,
    List.filter_append]
  rfl

/-- A text without a slash is one segment, if it leads somewhere. -/
theorem segmentsOf_of_notMem {segment : String} (h : '/' ∉ segment.toList) :
    segmentsOf segment = [segment].filter fun segment => segment != "" && segment != "." := by
  rw [segmentsOf, Text.split, Text.splitChars_of_notMem h, List.map_singleton, String.ofList_toList]

theorem segmentsOf_name {segment : String} (h : IsSegment segment) :
    segmentsOf segment = [segment] := by
  rw [segmentsOf_of_notMem h.slash]
  refine List.filter_eq_self.2 fun other hother => ?_
  obtain rfl := List.mem_singleton.1 hother
  simp [h.ne_empty, h.ne_here]

/-- The slash in front of a text that starts at the root is no segment. -/
theorem segmentsOf_root (rest : String) : segmentsOf ("/" ++ rest) = segmentsOf rest := by
  have hchars : ("/" ++ rest).toList = [] ++ '/' :: rest.toList := by simp
  rw [segmentsOf, Text.split, hchars, Text.splitChars_append_mark, List.map_append,
    List.filter_append]
  rfl

/-- Names that are joined are taken apart again. -/
theorem segmentsOf_intercalate {segments : List String}
    (h : ∀ segment ∈ segments, IsSegment segment) :
    segmentsOf ("/".intercalate segments) = segments := by
  induction segments with
  | nil => rfl
  | cons segment segments ih =>
      obtain ⟨hsegment, hsegments⟩ := List.forall_mem_cons.1 h
      cases segments with
      | nil => exact segmentsOf_name hsegment
      | cons next segments =>
          have hjoin : "/".intercalate (segment :: next :: segments) =
              segment ++ "/" ++ "/".intercalate (next :: segments) := by
            rw [String.intercalate_cons_cons]
          rw [hjoin, segmentsOf_append, segmentsOf_name hsegment, ih hsegments,
            List.singleton_append]

theorem notMem_intercalate {c : Char} (hc : c ≠ '/') {segments : List String}
    (h : ∀ segment ∈ segments, c ∉ segment.toList) : c ∉ ("/".intercalate segments).toList := by
  induction segments with
  | nil => exact List.not_mem_nil
  | cons segment segments ih =>
      obtain ⟨hsegment, hsegments⟩ := List.forall_mem_cons.1 h
      cases segments with
      | nil => exact hsegment
      | cons next segments =>
          rw [String.intercalate_cons_cons]
          simp only [String.toList_append, List.mem_append, not_or]
          exact ⟨⟨hsegment, by simpa using hc⟩, ih hsegments⟩

/-! ## Collapsing -/

theorem collapseFrom_append (here segments rest : List String) :
    collapseFrom here (segments ++ rest) =
      collapseFrom (collapseFrom here segments).reverse rest := by
  induction segments generalizing here with
  | nil => rw [List.nil_append, collapseFrom, List.reverse_reverse]
  | cons segment segments ih =>
      rw [List.cons_append, collapseFrom, collapseFrom]
      split_ifs
      · exact ih _
      · exact ih _

/-- A name and the way up from it lead nowhere. -/
theorem collapse_name_up {name : String} (hname : name ≠ "..") (before after : List String) :
    collapse (before ++ (name :: ".." :: after)) = collapse (before ++ after) := by
  rw [collapse, collapse, collapseFrom_append, collapseFrom_append, collapseFrom, if_neg hname,
    collapseFrom, if_pos rfl, List.tail_cons]

/-- What is collapsed has no way up left in it. -/
theorem collapse_collapse (segments : List String) :
    collapse (collapse segments) = collapse segments := by
  have hup : ".." ∉ collapse segments := notMem_collapseFrom List.not_mem_nil
  rw [collapse, FileTree.collapseFrom_of_notMem hup, List.reverse_nil, List.nil_append]

/-! ## Keys -/

namespace Memory

/-- The segments of a path, with slashes of either kind. -/
def segments (path : String) : List String := segmentsOf (path.map forwardSlash)

theorem key_eq (path : String) :
    key path = "/" ++ "/".intercalate (collapse (segments path)) := rfl

theorem forwardSlash_ne (c : Char) : forwardSlash c ≠ '\\' := by
  unfold forwardSlash
  split_ifs with h
  · decide
  · exact h

theorem forwardSlash_of_ne {c : Char} (h : c ≠ '\\') : forwardSlash c = c := if_neg h

theorem map_forwardSlash_of_notMem {path : String} (h : '\\' ∉ path.toList) :
    path.map forwardSlash = path := by
  rw [← String.toList_inj, String.toList_map]
  conv => rhs; rw [← List.map_id path.toList]
  exact List.map_congr_left fun c hc => forwardSlash_of_ne fun heq => h (heq ▸ hc)

theorem map_forwardSlash_append (path rest : String) :
    (path ++ rest).map forwardSlash = path.map forwardSlash ++ rest.map forwardSlash := by
  rw [← String.toList_inj]
  simp

theorem map_forwardSlash_congr {path path' : String} (h : SlashAlike path path') :
    path.map forwardSlash = path'.map forwardSlash := by
  have hslash : ∀ c, IsSlash c → forwardSlash c = '/' := by
    rintro c (rfl | rfl) <;> rfl
  rw [← String.toList_inj, String.toList_map, String.toList_map]
  unfold SlashAlike at h
  generalize path.toList = cs, path'.toList = ds at h
  induction h with
  | nil => rfl
  | cons hhead _ ih =>
      rw [List.map_cons, List.map_cons, ih]
      congr 1
      rcases hhead with rfl | ⟨hc, hd⟩
      · rfl
      · rw [hslash _ hc, hslash _ hd]

/-- The segments of a path are names, or lead up. -/
theorem isSegment_of_mem_segments {path segment : String} (h : segment ∈ segments path)
    (hup : segment ≠ "..") : IsSegment segment := by
  obtain ⟨hpart, hkept⟩ := List.mem_filter.1 h
  obtain ⟨part, hsplit, rfl⟩ := List.mem_map.1 hpart
  rw [Bool.and_eq_true, bne_iff_ne, bne_iff_ne] at hkept
  refine ⟨hkept.1, hkept.2, hup, ?_, fun hmem => ?_⟩
  · rw [String.toList_ofList]
    exact Text.mark_notMem_of_mem_splitChars hsplit
  · rw [String.toList_ofList] at hmem
    rw [String.toList_map] at hsplit
    obtain ⟨c, -, hc⟩ := List.mem_map.1 (Text.mem_of_mem_splitChars hsplit hmem)
    exact forwardSlash_ne c hc

theorem isSegment_of_mem_collapse {path segment : String} (h : segment ∈ collapse (segments path)) :
    IsSegment segment := by
  have hup : ".." ∉ collapse (segments path) := notMem_collapseFrom List.not_mem_nil
  rcases Path.mem_of_mem_collapseFrom h with hnone | hmem
  · cases hnone
  · exact isSegment_of_mem_segments hmem fun heq => hup (heq ▸ h)

/-- A key has the segments of its path, collapsed. -/
theorem segments_key (path : String) : segments (key path) = collapse (segments path) := by
  have hnames : ∀ segment ∈ collapse (segments path), IsSegment segment :=
    fun segment hsegment => isSegment_of_mem_collapse hsegment
  have hbackslash : '\\' ∉ (key path).toList := by
    rw [key_eq, String.toList_append, List.mem_append, not_or]
    exact ⟨by decide, notMem_intercalate (by decide) fun segment hsegment =>
      (hnames segment hsegment).backslash⟩
  rw [segments, map_forwardSlash_of_notMem hbackslash, key_eq, segmentsOf_root,
    segmentsOf_intercalate hnames]

theorem key_key (path : String) : key (key path) = key path := by
  rw [key_eq (key path), segments_key, collapse_collapse, key_eq path]

theorem segments_append (path rest : String) :
    segments (path ++ "/" ++ rest) = segments path ++ segments rest := by
  have hslash : "/".map forwardSlash = "/" := map_forwardSlash_of_notMem (by decide)
  rw [segments, map_forwardSlash_append, map_forwardSlash_append, hslash, segmentsOf_append]
  rfl

/-- What lies between two parts of a path does not matter if it leads nowhere. -/
theorem key_between {path between rest : String}
    (h : ∀ before after,
      collapse (before ++ segments between ++ after) = collapse (before ++ after)) :
    key (path ++ "/" ++ between ++ "/" ++ rest) = key (path ++ "/" ++ rest) := by
  rw [key_eq, key_eq (path ++ "/" ++ rest), segments_append, segments_append, segments_append, h]

/-- The segments of a text are all that its key depends on. -/
theorem key_congr {path path' : String} (h : segments path = segments path') :
    key path = key path' := by
  rw [key_eq, key_eq path', h]

theorem segments_name {name : String} (h : IsSegment name) : segments name = [name] := by
  rw [segments, map_forwardSlash_of_notMem h.backslash, segmentsOf_name h]

theorem segments_up : segments ".." = [".."] := by
  rw [segments, map_forwardSlash_of_notMem (by decide), segmentsOf_of_notMem (by decide)]
  decide

theorem segments_here : segments "." = [] := by
  rw [segments, map_forwardSlash_of_notMem (by decide), segmentsOf_of_notMem (by decide)]
  decide

theorem segments_empty : segments "" = [] := by
  rw [segments, map_forwardSlash_of_notMem (by decide), segmentsOf_of_notMem (by decide)]
  decide

/-! ## Loading -/

/-- What a key was bound to last, among texts stored one after the other. -/
theorem get?_addAll (memory : Memory) (sources : List (String × String)) (k : String) :
    (memory.addAll sources).sources.get? k =
      ((sources.reverse.find? fun source => key source.1 = k).map Prod.snd).or
        (memory.sources.get? k) := by
  induction sources generalizing memory with
  | nil => rfl
  | cons source sources ih =>
      have hadd : memory.addAll (source :: sources) =
          (memory.add source.1 source.2).addAll sources := rfl
      rw [hadd, ih, add, Bindings.get?_set, List.reverse_cons, List.find?_append]
      cases sources.reverse.find? fun source => key source.1 = k with
      | some found => rfl
      | none =>
          by_cases hk : key source.1 = k
          · simp [hk]
          · simp [hk, Ne.symm hk]

/-- A path loads the text that was last stored under a path with its key. -/
theorem load_addAll {sources : List (String × String)} {path text : String} :
    (empty.addAll sources).load path = .ok text ↔
      ∃ before stored after, sources = before ++ (stored, text) :: after ∧ key stored = key path ∧
        ∀ later ∈ after, key later.1 ≠ key path := by
  have hload : (empty.addAll sources).load path = .ok text ↔
      ((sources.reverse.find? fun source => key source.1 = key path).map Prod.snd) = some text := by
    rw [load, get?_addAll]
    cases sources.reverse.find? fun source => key source.1 = key path with
    | some found => simp
    | none => simp [empty, Bindings.get?]
  rw [hload, Option.map_eq_some_iff]
  constructor
  · rintro ⟨⟨stored, _⟩, hfound, rfl⟩
    obtain ⟨hkey, later, earlier, hsources, hlater⟩ := List.find?_eq_some_iff_append.1 hfound
    refine ⟨earlier.reverse, stored, later.reverse, ?_, by simpa using hkey,
      fun source hsource => ?_⟩
    · rw [← List.reverse_inj, hsources]
      simp
    · simpa using hlater source (List.mem_reverse.1 hsource)
  · rintro ⟨before, stored, after, rfl, hkey, hafter⟩
    refine ⟨(stored, text), List.find?_eq_some_iff_append.2 ⟨by simpa using hkey, after.reverse,
      before.reverse, by simp, fun source hsource => ?_⟩, rfl⟩
    simpa using hafter source (List.mem_reverse.1 hsource)

/-- Loading fails if nothing was stored under a path with the key, and in no other way. -/
theorem load_addAll_eq_error {sources : List (String × String)} {path : String}
    {failure : Failure} :
    (empty.addAll sources).load path = .error failure ↔
      failure = .notFound path none ∧ ∀ source ∈ sources, key source.1 ≠ key path := by
  have hload : (empty.addAll sources).load path = .error failure ↔
      failure = .notFound path none ∧
        (sources.reverse.find? fun source => key source.1 = key path) = none := by
    rw [load, get?_addAll]
    cases sources.reverse.find? fun source => key source.1 = key path with
    | some found => simp
    | none => simp [empty, Bindings.get?, eq_comm]
  rw [hload, List.find?_eq_none]
  simp

/-- A key is a slash and names with slashes between them, and it is its own key. It is the same
for slashes of either kind, with a name and the way up from it put in, or a segment that leads
nowhere. Under every key lies the text that was stored there last. -/
theorem key_canonical :
    (∀ path, ∃ names : List String, key path = "/" ++ "/".intercalate names ∧
      ∀ name ∈ names, IsSegment name) ∧
    (∀ path, key (key path) = key path) ∧
    (∀ path path', SlashAlike path path' → key path = key path') ∧
    (∀ path name rest, IsSegment name →
      key (path ++ "/" ++ name ++ "/../" ++ rest) = key (path ++ "/" ++ rest) ∧
      key (path ++ "/./" ++ rest) = key (path ++ "/" ++ rest) ∧
      key (path ++ "//" ++ rest) = key (path ++ "/" ++ rest)) ∧
    ∀ sources path,
      (∀ text, (empty.addAll sources).load path = .ok text ↔
        ∃ before stored after, sources = before ++ (stored, text) :: after ∧
          key stored = key path ∧ ∀ later ∈ after, key later.1 ≠ key path) ∧
      ∀ failure, (empty.addAll sources).load path = .error failure ↔
        failure = .notFound path none ∧ ∀ source ∈ sources, key source.1 ≠ key path := by
  refine ⟨fun path => ⟨collapse (segments path), key_eq path, fun name hname =>
    isSegment_of_mem_collapse hname⟩, key_key, fun path path' halike => ?_,
    fun path name rest hname => ⟨?_, ?_, ?_⟩,
    fun sources path => ⟨fun text => load_addAll, fun failure => load_addAll_eq_error⟩⟩
  · exact key_congr (congrArg segmentsOf (map_forwardSlash_congr halike))
  · have hbetween : segments (name ++ "/" ++ "..") = [name, ".."] := by
      rw [segments_append, segments_name hname, segments_up, List.singleton_append]
    have hpath : path ++ "/" ++ name ++ "/../" ++ rest =
        path ++ "/" ++ (name ++ "/" ++ "..") ++ "/" ++ rest := by
      rw [← String.toList_inj]
      simp
    rw [hpath]
    refine key_between fun before after => ?_
    rw [hbetween, List.append_assoc]
    exact collapse_name_up hname.ne_up before after
  · have hpath : path ++ "/./" ++ rest = path ++ "/" ++ "." ++ "/" ++ rest := by
      rw [← String.toList_inj]
      simp
    rw [hpath]
    exact key_between fun before after => by
      rw [segments_here, List.append_nil]
  · have hpath : path ++ "//" ++ rest = path ++ "/" ++ "" ++ "/" ++ rest := by
      rw [← String.toList_inj]
      simp
    rw [hpath]
    exact key_between fun before after => by
      rw [segments_empty, List.append_nil]

/-- A path with a backslash and a way up in it, and the text last stored under its key. -/
theorem key_canonical_sample :
    (SlashAlike "a\\b" "a/b" ∧ key "a\\b" = key "a/b") ∧
    (IsSegment "x" ∧ key ("a" ++ "/" ++ "x" ++ "/../" ++ "b") = key ("a" ++ "/" ++ "b")) ∧
    (empty.addAll [("b", "one"), ("/a/../b", "two"), ("c", "three")]).load "x/..\\b" =
      .ok "two" := by
  obtain ⟨-, -, hslash, hpath, hload⟩ := key_canonical
  have halike : SlashAlike "a\\b" "a/b" :=
    .cons (.inl rfl) (.cons (.inr ⟨.inr rfl, .inl rfl⟩) (.cons (.inl rfl) .nil))
  have hname : IsSegment "x" := ⟨by decide, by decide, by decide, by decide, by decide⟩
  refine ⟨⟨halike, hslash _ _ halike⟩, ⟨hname, (hpath "a" "x" "b" hname).1⟩, ?_⟩
  refine ((hload _ _).1 _).2 ⟨[("b", "one")], "/a/../b", [("c", "three")], rfl, ?_, ?_⟩
  · decide +kernel
  · rintro later hlater
    obtain rfl := List.mem_singleton.1 hlater
    decide +kernel

end Memory

end ThriftSchema
