import Mathlib.Data.List.Chain
import Mathlib.Data.List.Perm.Subperm
import ThriftSchema.Proofs.Inclusion.Printed

set_option autoImplicit false

/-! # Cycles of includes

In memory the chain of a resolution is a path through the graph of includes that comes to no key
twice. So it is no longer than there are keys, and a resolution that finds a cycle has found one
of the graph. Conversely a resolution that finds none comes to every key that the graph leads to;
on a cycle of the graph it would come to a key that is in its own chain.

* `Visit.Leads`: what holds of every visit that a resolution comes to.
* `Memory.IsCycle`: what the paths of a cycle are.
* `resolve_finds_cycles`: cycles are found, and only cycles are.
-/

namespace ThriftSchema

open Relation

variable {limit : Nat} {options : Options} {memory : Memory} {root : String}

/-! ## What every visit keeps to -/

/-- The paths from the one that a resolution starts with to the one to resolve. -/
def Visit.paths (v : Visit) : List String := v.chain.map Prod.snd ++ [v.path]

/-- A visit that a resolution of `root` comes to: its paths follow the includes from `root`, the
sources that are being resolved have different keys, and the bound has room for the others. -/
structure Visit.Leads (limit : Nat) (options : Options) (memory : Memory) (root : String)
    (v : Visit) : Prop where
  bound : v.bound + v.chain.length = memory.loader.size + 1
  keys : ∀ link ∈ v.chain, link.1 = Memory.key link.2
  stored : ∀ link ∈ v.chain, (memory.documentAt? limit options.toBuildOptions link.1).isSome
  distinct : (v.chain.map Prod.fst).Nodup
  follows : v.paths.IsChain (memory.IncludesPath limit options.toBuildOptions)
  starts : v.paths.head? = some root

theorem Visit.leads_start (limit : Nat) (options : Options) (memory : Memory) (root : String) :
    (Visit.start memory.loader root).Leads limit options memory root where
  bound := rfl
  keys := by simp [Visit.start]
  stored := by simp [Visit.start]
  distinct := List.nodup_nil
  follows := List.isChain_singleton _
  starts := rfl

theorem Enters.leads {v w : Visit} (h : Enters limit options memory.loader v w)
    (hv : v.Leads limit options memory root) : w.Leads limit options memory root := by
  cases h with
  | @intro bound path key chain own before after target hopen hincludes hbefore =>
      obtain ⟨rfl, hnew, hown⟩ := Memory.openSource_eq_ok.1 hopen
      have htarget : target ∈ own.includePaths := by
        rw [hincludes]
        exact List.mem_append_right _ List.mem_cons_self
      have hpaths : Visit.paths ⟨bound, target, chain ++ [(Memory.key path, path)]⟩ =
          Visit.paths ⟨bound + 1, path, chain⟩ ++ [target] := by
        simp [Visit.paths]
      refine ⟨?_, ?_, ?_, ?_, ?_, ?_⟩
      · have := hv.bound
        simp only [List.length_append, List.length_singleton] at this ⊢
        omega
      · exact List.forall_mem_append.2 ⟨hv.keys, by simp⟩
      -- a source that was opened is stored and not in the chain yet
      · refine List.forall_mem_append.2 ⟨hv.stored, ?_⟩
        simp [hown]
      · rw [List.map_append, List.nodup_append_comm]
        exact List.nodup_cons.2 ⟨hnew, hv.distinct⟩
      · rw [hpaths, List.isChain_append]
        refine ⟨hv.follows, List.isChain_singleton _, fun p hp q hq => ?_⟩
        obtain rfl : path = p := by simpa [Visit.paths] using hp
        obtain rfl : target = q := by simpa using hq
        exact ⟨own, hown, htarget⟩
      · rw [hpaths, List.head?_append, hv.starts]
        rfl

theorem Reaches.leads {w : Visit}
    (h : Reaches limit options memory.loader (Visit.start memory.loader root) w) :
    w.Leads limit options memory root := by
  induction h with
  | refl => exact Visit.leads_start limit options memory root
  | tail _ hstep ih => exact hstep.leads ih

/-- The chain has no more links than there are keys. -/
theorem Visit.Leads.length_chain_le {v : Visit} (h : v.Leads limit options memory root) :
    v.chain.length ≤ memory.sources.names.dedup.length := by
  have hlength : (v.chain.map Prod.fst).length = v.chain.length := List.length_map _
  rw [← hlength]
  refine (List.subperm_of_subset h.distinct fun key hkey => ?_).length_le
  obtain ⟨link, hlink, rfl⟩ := List.mem_map.1 hkey
  exact List.mem_dedup.2 (Memory.mem_names_of_documentAt? (h.stored link hlink))

theorem Visit.Leads.bound_pos {v : Visit} (h : v.Leads limit options memory root) :
    0 < v.bound := by
  have hlength := h.length_chain_le
  have hnames : memory.sources.names.dedup.length ≤ memory.loader.size := by
    refine (List.dedup_sublist _).length_le.trans ?_
    exact (List.length_map _).le
  have := h.bound
  omega

/-- A resolution in memory never comes to its bound. -/
theorem resolve_ne_bottomless (limit : Nat) (options : Options) (memory : Memory) (root : String) :
    (resolve limit options memory.loader root).result ≠ .error .bottomless := by
  intro h
  obtain ⟨w, hreaches, ⟨hbound, -⟩ | hopen⟩ := exists_unopened (by simp) h
  · exact absurd hbound hreaches.leads.bound_pos.ne'
  · rcases Memory.openSource_error hopen with ⟨_, _, h⟩ | ⟨_, h⟩ | ⟨_, _, _, _, _, h⟩ <;> cases h

/-! ## What is found is a cycle -/

namespace Memory

theorem IncludesPath.includes {p q : String} {options : BuildOptions}
    (h : memory.IncludesPath limit options p q)
    (hq : (memory.documentAt? limit options (key q)).isSome) :
    memory.Includes limit options (key p) (key q) := by
  obtain ⟨d, hd, hmem⟩ := h
  exact ⟨d, q, hd, hmem, rfl, hq⟩

/-- Paths that follow includes lead from the key of the first to that of the last. -/
theorem transGen_of_isChain {options : BuildOptions} {p q : String} {between : List String}
    (h : (p :: (between ++ [q])).IsChain (memory.IncludesPath limit options))
    (hq : (memory.documentAt? limit options (key q)).isSome) :
    TransGen (memory.Includes limit options) (key p) (key q) := by
  induction between generalizing p with
  | nil => exact .single ((List.isChain_pair.1 h).includes hq)
  | cons r between ih =>
      obtain ⟨hfirst, hrest⟩ := List.isChain_cons_cons.1 h
      have hr : (memory.documentAt? limit options (key r)).isSome := by
        cases between with
        | nil =>
            obtain ⟨d, hd, -⟩ := List.isChain_pair.1 hrest
            rw [hd]
            rfl
        | cons s between =>
            obtain ⟨⟨d, hd, -⟩, -⟩ := List.isChain_cons_cons.1 hrest
            rw [hd]
            rfl
      exact .head (hfirst.includes hr) (ih hrest)

/-- Paths that follow includes from a source back to it, and come to no other source twice. -/
structure IsCycle (limit : Nat) (options : BuildOptions) (memory : Memory)
    (paths : List String) : Prop where
  two_le : 2 ≤ paths.length
  closes : paths.head?.map key = paths.getLast?.map key
  distinct : (paths.dropLast.map key).Nodup
  follows : paths.IsChain (memory.IncludesPath limit options)

end Memory

/-- A visit that finds a cycle: its last paths are one, and the others lead there. -/
theorem Visit.Leads.isCycle {v : Visit} (h : v.Leads limit options memory root)
    {paths : List String} (hcycle : cycleFrom? (Memory.key v.path) v.chain = some paths) :
    memory.IsCycle limit options.toBuildOptions (paths ++ [v.path]) ∧
      ∃ k, ReflTransGen (memory.Includes limit options.toBuildOptions) (Memory.key root) k ∧
        TransGen (memory.Includes limit options.toBuildOptions) k k := by
  obtain ⟨before, first, after, hchain, rfl⟩ := exists_of_cycleFrom? hcycle
  have hmem : (Memory.key v.path, first) ∈ v.chain := by
    rw [hchain]
    exact List.mem_append_right _ List.mem_cons_self
  have hfirst : Memory.key v.path = Memory.key first := h.keys _ hmem
  have hstored := h.stored _ hmem
  have hpaths : v.paths =
      before.map Prod.snd ++ (first :: after.map Prod.snd ++ [v.path]) := by
    simp [Visit.paths, hchain]
  have hfollows := h.follows
  rw [hpaths] at hfollows
  have hlast := (List.isChain_append.1 hfollows).2.1
  -- the cycle closes at the key of `first`, which the paths before it lead to
  refine ⟨⟨by simp, ?_, ?_, hlast⟩, Memory.key first, ?_, ?_⟩
  · rw [List.getLast?_concat, List.cons_append, List.head?_cons, Option.map_some, Option.map_some,
      hfirst]
  · -- the keys are those of links
    have hkeys : (first :: after.map Prod.snd).map Memory.key =
        ((Memory.key v.path, first) :: after).map Prod.fst := by
      rw [List.map_cons, List.map_cons, hfirst, List.map_map]
      refine congrArg _ (List.map_congr_left fun link hlink => ?_)
      refine (h.keys link ?_).symm
      rw [hchain]
      exact List.mem_append_right _ (List.mem_cons_of_mem _ hlink)
    have hdistinct := h.distinct
    rw [hchain, List.map_append] at hdistinct
    rw [List.dropLast_concat, hkeys]
    exact hdistinct.of_append_right
  · cases before with
    | nil =>
        have hroot := h.starts
        rw [hpaths] at hroot
        obtain rfl : first = root := by simpa using hroot
        exact .refl
    | cons link before =>
        have hroot := h.starts
        rw [hpaths] at hroot
        obtain rfl : link.2 = root := by simpa using hroot
        have hsplit : ((link.2 :: (before.map Prod.snd ++ [first])) ++
            (after.map Prod.snd ++ [v.path])).IsChain
              (memory.IncludesPath limit options.toBuildOptions) := by
          simpa using hfollows
        exact (Memory.transGen_of_isChain (List.isChain_append.1 hsplit).1
          (hfirst ▸ hstored)).to_reflTransGen
  · have hcycle := Memory.transGen_of_isChain hlast hstored
    rwa [hfirst] at hcycle

/-! ## Cycles are found -/

section Complete

variable {v w : Visit} {k k' : String}

/-- Where a resolution finds no cycle, every visit to a document opens it and comes to all of its
includes. -/
theorem exists_enters (hlegible : memory.Legible limit options.toBuildOptions)
    (hskip : options.includePolicy = .skip)
    (hnone : ∀ paths, (resolve limit options memory.loader root).result ≠ .error (.circular paths))
    (hreaches : Reaches limit options memory.loader (Visit.start memory.loader root) v)
    (hstep : memory.Includes limit options.toBuildOptions (Memory.key v.path) k') :
    ∃ w, Enters limit options memory.loader v w ∧ Memory.key w.path = k' ∧
      w.chain = v.chain ++ [(Memory.key v.path, v.path)] := by
  obtain ⟨d, target, hd, htarget, rfl, -⟩ := hstep
  have hpasses : ∀ failure, (v.resolution limit options memory.loader).result = .error failure →
      failure.Aborts → (resolve limit options memory.loader root).result = .error failure :=
    fun failure hfailure haborts => hreaches.aborts hfailure haborts
  obtain ⟨bound, path, chain⟩ := v
  obtain ⟨bound, rfl⟩ := Nat.exists_eq_succ_of_ne_zero hreaches.leads.bound_pos.ne'
  -- the source is opened, since it is not being resolved
  have hopen :
      (openSource limit options memory.loader path chain).1 = .ok (Memory.key path, d) := by
    refine Memory.openSource_eq_ok.2 ⟨rfl, fun hmem => ?_, hd⟩
    obtain ⟨paths, hpaths⟩ := Memory.openSource_of_mem hmem
    refine hnone paths (hpasses _ ?_ trivial)
    rw [Visit.resolution, resolveWithin_of_unopened hpaths]
    rfl
  -- were the visit to end in a failure, that failure would abort the whole resolution
  cases hresult : (resolveWithin limit options memory.loader (bound + 1) path chain).result with
  | ok result => exact ⟨_, enters_of_ok hopen htarget hresult, rfl, rfl⟩
  | error failure =>
      have haborts : failure.Aborts := by
        rw [resolveWithin_of_opened hopen] at hresult
        exact aborts_of_followIncludes hresult
      have hroot := hpasses _ hresult haborts
      rcases Memory.resolveWithin_error hskip hresult with ⟨_, rfl⟩ | ⟨paths, rfl⟩ | rfl | hbreaks
      · exact haborts.elim
      · exact absurd hroot (hnone paths)
      · exact absurd hroot (resolve_ne_bottomless limit options memory root)
      · exact absurd hbreaks hlegible.not_breaks

/-- Where a resolution finds no cycle, it comes to all that a visit leads to, and the visit's own
source is being resolved there. -/
theorem exists_reaches (hlegible : memory.Legible limit options.toBuildOptions)
    (hskip : options.includePolicy = .skip)
    (hnone : ∀ paths, (resolve limit options memory.loader root).result ≠ .error (.circular paths))
    (hreaches : Reaches limit options memory.loader (Visit.start memory.loader root) v)
    (hleads : TransGen (memory.Includes limit options.toBuildOptions) (Memory.key v.path) k) :
    ∃ w, Reaches limit options memory.loader (Visit.start memory.loader root) w ∧
      Memory.key w.path = k ∧ Memory.key v.path ∈ w.chain.map Prod.fst := by
  induction hleads with
  | single hstep =>
      obtain ⟨w, henters, hkey, hchain⟩ := exists_enters hlegible hskip hnone hreaches hstep
      exact ⟨w, hreaches.tail henters, hkey, by simp [hchain]⟩
  | tail _ hstep ih =>
      obtain ⟨w, hw, rfl, hmem⟩ := ih
      obtain ⟨x, henters, hkey, hchain⟩ := exists_enters hlegible hskip hnone hw hstep
      exact ⟨x, hw.tail henters, hkey, by simp only [hchain, List.map_append,
        List.mem_append, hmem, true_or]⟩

/-- A cycle that includes lead to is found. -/
theorem exists_circular (hlegible : memory.Legible limit options.toBuildOptions)
    (hskip : options.includePolicy = .skip)
    (hroot : ReflTransGen (memory.Includes limit options.toBuildOptions) (Memory.key root) k)
    (hcycle : TransGen (memory.Includes limit options.toBuildOptions) k k) :
    ∃ paths, (resolve limit options memory.loader root).result = .error (.circular paths) := by
  by_contra hno
  have hnone : ∀ paths,
      (resolve limit options memory.loader root).result ≠ .error (.circular paths) :=
    fun paths hpaths => hno ⟨paths, hpaths⟩
  obtain ⟨v, hv, rfl⟩ : ∃ v,
      Reaches limit options memory.loader (Visit.start memory.loader root) v ∧
        Memory.key v.path = k := by
    rcases reflTransGen_iff_eq_or_transGen.1 hroot with rfl | hleads
    · exact ⟨_, .refl, rfl⟩
    · obtain ⟨v, hv, hkey, -⟩ := exists_reaches hlegible hskip hnone .refl hleads
      exact ⟨v, hv, hkey⟩
  -- the source of `v` is come to once more while it is being resolved
  obtain ⟨w, hw, hsame, hmem⟩ := exists_reaches hlegible hskip hnone hv hcycle
  rw [← hsame] at hmem
  obtain ⟨paths, hpaths⟩ := Memory.openSource_of_mem hmem
  refine hnone paths (hw.aborts ?_ trivial)
  obtain ⟨bound, path, chain⟩ := w
  obtain ⟨bound, rfl⟩ := Nat.exists_eq_succ_of_ne_zero hw.leads.bound_pos.ne'
  rw [Visit.resolution, resolveWithin_of_unopened hpaths]
  rfl

end Complete

/-- A cycle that is found is one of the includes, and they lead to it. -/
theorem isCycle_of_circular {paths : List String}
    (h : (resolve limit options memory.loader root).result = .error (.circular paths)) :
    memory.IsCycle limit options.toBuildOptions paths ∧
      ∃ k, ReflTransGen (memory.Includes limit options.toBuildOptions) (Memory.key root) k ∧
        TransGen (memory.Includes limit options.toBuildOptions) k k := by
  obtain ⟨w, hreaches, ⟨-, hbottomless⟩ | hopen⟩ := exists_unopened (by simp) h
  · cases hbottomless
  · rcases Memory.openSource_error hopen with
      ⟨links, hlinks, hpaths⟩ | ⟨_, h⟩ | ⟨_, _, _, _, _, h⟩
    · obtain rfl : paths = links ++ [w.path] := by simpa using hpaths
      exact hreaches.leads.isCycle hlinks
    · cases h
    · cases h

/-- In memory, a resolution that skips what fails goes no deeper than there are keys, and ends in
a cycle exactly if includes lead to one, which it names. -/
theorem resolve_finds_cycles (limit : Nat) (options : Options) (memory : Memory) (path : String)
    (hskip : options.includePolicy = .skip)
    (hlegible : memory.Legible limit options.toBuildOptions) :
    (resolve limit options memory.loader path).result ≠ .error .bottomless ∧
      (∀ v, Reaches limit options memory.loader (Visit.start memory.loader path) v →
        0 < v.bound ∧ v.depth ≤ memory.sources.names.dedup.length + 1) ∧
      ((∃ paths, (resolve limit options memory.loader path).result = .error (.circular paths)) ↔
        ∃ k, ReflTransGen (memory.Includes limit options.toBuildOptions) (Memory.key path) k ∧
          TransGen (memory.Includes limit options.toBuildOptions) k k) ∧
      ∀ paths, (resolve limit options memory.loader path).result = .error (.circular paths) →
        memory.IsCycle limit options.toBuildOptions paths := by
  refine ⟨resolve_ne_bottomless limit options memory path, fun v hv => ?_, ⟨?_, ?_⟩,
    fun paths h => ?_⟩
  · exact ⟨hv.leads.bound_pos, Nat.succ_le_succ hv.leads.length_chain_le⟩
  · rintro ⟨paths, h⟩
    exact (isCycle_of_circular h).2
  · rintro ⟨k, hroot, hcycle⟩
    exact exists_circular hlegible hskip hroot hcycle
  · exact (isCycle_of_circular h).1

/-- Two documents that include each other, one of them by a path that is not its key. -/
def circularDocuments : Bindings Document :=
  [("/main", .stub ["part"] "Main"), ("/part", .stub ["./main"] "Part")]

theorem fits_circularDocuments :
    ∀ entry ∈ circularDocuments, Spelling.usual.DocumentFits limit entry.2 := by
  simp only [circularDocuments, List.forall_mem_cons, List.not_mem_nil, false_implies,
    implies_true, and_true]
  exact ⟨Document.fits_stub (by decide) (by decide), Document.fits_stub (by decide) (by decide)⟩

theorem get?_circularDocuments (key : String) :
    circularDocuments.get? key =
      if key = "/main" then some (.stub ["part"] "Main")
      else if key = "/part" then some (.stub ["./main"] "Part") else none := by
  rw [circularDocuments, Bindings.get?_cons, Bindings.get?_cons]
  rfl

theorem resolve_finds_cycles_sample :
    ∃ paths,
      (resolve 60 .faithful (Memory.ofDocuments .usual circularDocuments).loader "main").result =
        .error (.circular paths) ∧
      (Memory.ofDocuments .usual circularDocuments).IsCycle 60 Options.faithful.toBuildOptions
        paths := by
  have hstored (k : String) :
      (Memory.ofDocuments .usual circularDocuments).documentAt? 60
        Options.faithful.toBuildOptions k = circularDocuments.get? k :=
    Memory.documentAt?_ofDocuments rfl rfl (by decide) fits_circularDocuments
  obtain ⟨-, -, hfinds, hnames⟩ := resolve_finds_cycles 60 .faithful
    (Memory.ofDocuments .usual circularDocuments) "main" rfl
    (Memory.legible_ofDocuments rfl rfl (by decide) fits_circularDocuments)
  have hout : (Memory.ofDocuments .usual circularDocuments).Includes 60
      Options.faithful.toBuildOptions "/main" "/part" := by
    refine ⟨.stub ["part"] "Main", "part", ?_, ?_, by decide +kernel, ?_⟩
    · rw [hstored, get?_circularDocuments]
      rfl
    · simp [Document.includePaths_stub]
    · rw [hstored, get?_circularDocuments]
      rfl
  have hback : (Memory.ofDocuments .usual circularDocuments).Includes 60
      Options.faithful.toBuildOptions "/part" "/main" := by
    refine ⟨.stub ["./main"] "Part", "./main", ?_, ?_, by decide +kernel, ?_⟩
    · rw [hstored, get?_circularDocuments]
      rfl
    · simp [Document.includePaths_stub]
    · rw [hstored, get?_circularDocuments]
      rfl
  have hmain : Memory.key "main" = "/main" := by decide +kernel
  obtain ⟨paths, hpaths⟩ := hfinds.2 ⟨"/main", hmain ▸ .refl, .tail (.single hout) hback⟩
  exact ⟨paths, hpaths, hnames paths hpaths⟩

end ThriftSchema
