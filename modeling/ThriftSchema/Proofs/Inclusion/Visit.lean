import Mathlib.Logic.Relation
import ThriftSchema.Proofs.Inclusion.Level

set_option autoImplicit false

/-! # Visits

While a path is resolved, its includes are, each in a longer chain, and so on. The relation
`Enters` has these steps, so that what is said of all visits below one is said of every level
that a resolution comes to.

* `Visit`: a path to resolve, the sources that are being resolved, and how many more may be.
* `Enters`: the visit of an include, which the resolution comes to if it goes on after the
  includes before it.
* `Reaches.aborts`: a failure that no policy is about passes through every level unchanged.
-/

namespace ThriftSchema

variable {limit : Nat} {options : Options} {loader : Loader} {policy : IncludePolicy}
  {path : String} {chain : List Link}

/-- A path to resolve while the sources of a chain are being resolved. -/
structure Visit where
  bound : Nat
  path : String
  chain : List Link

namespace Visit

/-- What a visit ends with. -/
def resolution (limit : Nat) (options : Options) (loader : Loader) (v : Visit) : Resolution :=
  resolveWithin limit options loader v.bound v.path v.chain

/-- The visit that a resolution starts with. -/
def start (loader : Loader) (path : String) : Visit := ⟨loader.size + 1, path, []⟩

/-- How deep in the recursion a visit is. -/
def depth (v : Visit) : Nat := v.chain.length + 1

end Visit

/-! ## Going on -/

/-- After which results of an include the next include is resolved. -/
def GoesOn (policy : IncludePolicy) : Except Failure Document → Prop
  | .ok _ => True
  | .error (.source _) => policy = .skip
  | .error _ => False

section Following

variable {resolve : String → Resolution} {targets before after : List String} {target : String}
  {document : Document}

theorem not_goesOn_of_aborts {failure : Failure} (haborts : failure.Aborts) :
    ¬GoesOn policy (.error failure) := by
  cases failure with
  | source cause => exact haborts.elim
  | _ => exact not_false

/-- A failure that aborts is what the whole ends with, once it is come to. -/
theorem result_followIncludes_of_aborts {failure : Failure}
    (hbefore : ∀ t ∈ before, GoesOn policy (resolve t).result)
    (h : (resolve target).result = .error failure) (haborts : failure.Aborts) :
    (followIncludes policy resolve path (before ++ target :: after) document).result =
      .error failure := by
  induction before generalizing document with
  | nil =>
      rw [List.nil_append, followIncludes_of_aborts h haborts]
  | cons first before ih =>
      rw [List.forall_mem_cons] at hbefore
      obtain ⟨hfirst, hrest⟩ := hbefore
      rw [List.cons_append]
      cases hresult : (resolve first).result with
      | ok included =>
          rw [followIncludes_of_ok hresult]
          exact ih hrest
      | error why =>
          rw [hresult] at hfirst
          rcases why.source_or_aborts with ⟨cause, rfl⟩ | hwhy
          · obtain rfl : policy = .skip := hfirst
            rw [followIncludes_of_skipped hresult]
            exact ih hrest
          · exact absurd hfirst (not_goesOn_of_aborts hwhy)

/-- Where following includes gives a document, it comes to all of them. -/
theorem goesOn_of_followIncludes {d : Document}
    (h : (followIncludes policy resolve path targets document).result = .ok d) :
    ∀ t ∈ targets, GoesOn policy (resolve t).result := by
  induction targets generalizing document with
  | nil => simp
  | cons target targets ih =>
      cases hresult : (resolve target).result with
      | ok included =>
          rw [followIncludes_of_ok hresult] at h
          exact List.forall_mem_cons.2 ⟨by rw [hresult]; trivial, ih h⟩
      | error failure =>
          rcases failure.source_or_aborts with ⟨cause, rfl⟩ | haborts
          · cases policy with
            | skip =>
                rw [followIncludes_of_skipped hresult] at h
                exact List.forall_mem_cons.2 ⟨by rw [hresult]; rfl, ih h⟩
            | fail =>
                rw [followIncludes_of_failed hresult] at h
                cases h
          · rw [followIncludes_of_aborts hresult haborts] at h
            cases h

/-- An include among some that following them fails at: it fails itself, or may not be skipped. -/
def FailsAt (policy : IncludePolicy) (path : String) (resolve : String → Resolution)
    (targets : List String) (failure : Failure) : Prop :=
  ∃ before target after, targets = before ++ target :: after ∧
    (∀ t ∈ before, GoesOn policy (resolve t).result) ∧
    ((resolve target).result = .error failure ∨
      policy = .fail ∧ ∃ cause, failure = .includeFailed target path cause ∧
        (resolve target).result = .error (.source cause))

theorem FailsAt.cons {failure : Failure} (hfirst : GoesOn policy (resolve target).result)
    (h : FailsAt policy path resolve targets failure) :
    FailsAt policy path resolve (target :: targets) failure := by
  obtain ⟨before, t, after, rfl, hbefore, hblame⟩ := h
  exact ⟨target :: before, t, after, rfl, List.forall_mem_cons.2 ⟨hfirst, hbefore⟩, hblame⟩

theorem failsAt_of_followIncludes {failure : Failure}
    (h : (followIncludes policy resolve path targets document).result = .error failure) :
    FailsAt policy path resolve targets failure := by
  induction targets generalizing document with
  | nil => cases h
  | cons target targets ih =>
      cases hresult : (resolve target).result with
      | ok included =>
          rw [followIncludes_of_ok hresult] at h
          exact (ih h).cons (by rw [hresult]; trivial)
      | error first =>
          rcases first.source_or_aborts with ⟨cause, rfl⟩ | haborts
          · cases policy with
            | skip =>
                rw [followIncludes_of_skipped hresult] at h
                exact (ih h).cons (by rw [hresult]; rfl)
            | fail =>
                rw [followIncludes_of_failed hresult] at h
                cases h
                exact ⟨[], target, targets, rfl, by simp, .inr ⟨rfl, cause, rfl, hresult⟩⟩
          · rw [followIncludes_of_aborts hresult haborts] at h
            cases h
            exact ⟨[], target, targets, rfl, by simp, .inl hresult⟩

end Following

/-! ## Steps -/

/-- While the first visit is resolved, the second one is. -/
inductive Enters (limit : Nat) (options : Options) (loader : Loader) : Visit → Visit → Prop
  | intro {bound : Nat} {path key : String} {chain : List Link} {own : Document}
      {before after : List String} {target : String}
      (hopen : (openSource limit options loader path chain).1 = .ok (key, own))
      (hincludes : own.includePaths = before ++ target :: after)
      (hbefore : ∀ t ∈ before, GoesOn options.includePolicy
        (resolveWithin limit options loader bound t (chain ++ [(key, path)])).result) :
      Enters limit options loader ⟨bound + 1, path, chain⟩ ⟨bound, target, chain ++ [(key, path)]⟩

/-- The visits that one comes to. -/
def Reaches (limit : Nat) (options : Options) (loader : Loader) : Visit → Visit → Prop :=
  Relation.ReflTransGen (Enters limit options loader)

theorem Enters.aborts {v w : Visit} (h : Enters limit options loader v w) {failure : Failure}
    (hfailure : (w.resolution limit options loader).result = .error failure)
    (haborts : failure.Aborts) : (v.resolution limit options loader).result = .error failure := by
  cases h with
  | intro hopen hincludes hbefore =>
      rw [Visit.resolution, resolveWithin_of_opened hopen, hincludes]
      exact result_followIncludes_of_aborts hbefore hfailure haborts

/-- A failure that is not one of a single source passes through every level unchanged. -/
theorem Reaches.aborts {v w : Visit} (h : Reaches limit options loader v w) {failure : Failure}
    (hfailure : (w.resolution limit options loader).result = .error failure)
    (haborts : failure.Aborts) : (v.resolution limit options loader).result = .error failure := by
  induction h with
  | refl => exact hfailure
  | tail _ hstep ih => exact ih (hstep.aborts hfailure haborts)

/-- From a visit that opens its source and gives a document, all includes are come to. -/
theorem enters_of_ok {bound : Nat} {key target : String} {own d : Document}
    (hopen : (openSource limit options loader path chain).1 = .ok (key, own))
    (htarget : target ∈ own.includePaths)
    (h : (resolveWithin limit options loader (bound + 1) path chain).result = .ok d) :
    Enters limit options loader ⟨bound + 1, path, chain⟩
      ⟨bound, target, chain ++ [(key, path)]⟩ := by
  rw [resolveWithin_of_opened hopen] at h
  obtain ⟨before, after, hincludes⟩ := List.append_of_mem htarget
  refine .intro hopen hincludes fun t ht => goesOn_of_followIncludes h t ?_
  rw [hincludes]
  exact List.mem_append_left _ ht

/-- A resolution that fails, other than at an include that may not be skipped, comes to a visit
that is to blame: it may go no further, or its source cannot be opened. -/
theorem exists_unopened {bound : Nat} {failure : Failure}
    (hplain : ∀ target includer cause, failure ≠ .includeFailed target includer cause)
    (h : (resolveWithin limit options loader bound path chain).result = .error failure) :
    ∃ w, Reaches limit options loader ⟨bound, path, chain⟩ w ∧
      (w.bound = 0 ∧ failure = .bottomless ∨
        (openSource limit options loader w.path w.chain).1 = .error failure) := by
  induction bound generalizing path chain with
  | zero => exact ⟨_, .refl, .inl ⟨rfl, (Except.error.inj h).symm⟩⟩
  | succ bound ih =>
      cases hopen : (openSource limit options loader path chain).1 with
      | error why =>
          rw [resolveWithin_of_unopened hopen] at h
          obtain rfl : why = failure := Except.error.inj h
          exact ⟨_, .refl, .inr hopen⟩
      | ok source =>
          obtain ⟨key, own⟩ := source
          rw [resolveWithin_of_opened hopen] at h
          obtain ⟨before, target, after, hincludes, hbefore, hblame | ⟨-, cause, hfailed, -⟩⟩ :=
            failsAt_of_followIncludes h
          · obtain ⟨w, hreaches, hw⟩ := ih hblame
            exact ⟨w, hreaches.head (.intro hopen hincludes hbefore), hw⟩
          · exact absurd hfailed (hplain _ _ _)

end ThriftSchema
