import ThriftSchema.Proofs.Inclusion.Visit

set_option autoImplicit false

/-! # The two policies

A resolution that skips what fails and one that fails there are the same up to the first include
that is skipped. The second one ends with it, and no level that it passes through changes what it
ends with.

* `AlikeUntilSkipped`: two resolutions that are the same up to there.
* `Recorded`: an entry for an include that fails as one source does.
* `resolve_policies`: the two policies, for one path.
-/

namespace ThriftSchema

variable {limit : Nat} {options : Options} {loader : Loader} {path : String} {chain : List Link}

/-! ## Up to the first include that is skipped -/

/-- The second resolution skips nothing. It ends as the first one if that skips nothing either,
and else with the first include that the first one skips, and with the reason for that. -/
structure AlikeUntilSkipped (r r' : Resolution) : Prop where
  skipped : r'.skipped = []
  alike : r.skipped = [] → r'.result = r.result
  first : ∀ entry rest, r.skipped = entry :: rest → ∃ cause : SourceError,
    r'.result = .error (.includeFailed entry.path entry.includedFrom cause) ∧
      cause.message = entry.reason

theorem AlikeUntilSkipped.after {r r' : Resolution} (h : AlikeUntilSkipped r r')
    {events events' : List Event} : AlikeUntilSkipped (r.after [] events) (r'.after [] events') :=
  ⟨h.skipped, h.alike, h.first⟩

theorem alikeUntilSkipped_self {r : Resolution} (h : r.skipped = []) : AlikeUntilSkipped r r where
  skipped := h
  alike _ := rfl
  first entry rest hentry := by
    rw [h] at hentry
    cases hentry

section Following

variable {resolve resolve' : String → Resolution} {targets : List String} {target : String}
  {document : Document}

/-- What an include skips itself comes first. -/
theorem exists_skipped_followIncludes {entry : SkippedInclude} {rest : List SkippedInclude}
    (h : (resolve target).skipped = entry :: rest) :
    ∃ rest', (followIncludes .skip resolve path (target :: targets) document).skipped =
      entry :: rest' := by
  cases hresult : (resolve target).result with
  | ok included =>
      rw [followIncludes_of_ok hresult, Resolution.after, h]
      exact ⟨_, rfl⟩
  | error failure =>
      rcases failure.source_or_aborts with ⟨cause, rfl⟩ | haborts
      · rw [followIncludes_of_skipped hresult, Resolution.after, h]
        exact ⟨_, rfl⟩
      · rw [followIncludes_of_aborts hresult haborts, h]
        exact ⟨_, rfl⟩

theorem alikeUntilSkipped_followIncludes
    (halike : ∀ target, AlikeUntilSkipped (resolve target) (resolve' target)) :
    AlikeUntilSkipped (followIncludes .skip resolve path targets document)
      (followIncludes .fail resolve' path targets document) := by
  induction targets generalizing document with
  | nil => exact alikeUntilSkipped_self rfl
  | cons target targets ih =>
      cases hskipped : (resolve target).skipped with
      -- an include further down was skipped: there the other resolution has failed already
      | cons entry rest =>
          obtain ⟨cause, hresult', hreason⟩ := (halike target).first entry rest hskipped
          obtain ⟨rest', hfollow⟩ : ∃ rest',
              (followIncludes .skip resolve path (target :: targets) document).skipped =
                entry :: rest' := exists_skipped_followIncludes hskipped
          rw [followIncludes_of_aborts hresult' trivial, (halike target).skipped]
          refine ⟨rfl, fun h => ?_, fun first others h => ?_⟩
          · rw [hfollow] at h
            cases h
          · obtain ⟨rfl, -⟩ := List.cons.inj (hfollow.symm.trans h)
            exact ⟨cause, rfl, hreason⟩
      -- else both have the same result here, and part only if this include is skipped
      | nil =>
          have hsame := (halike target).alike hskipped
          have hskipped' := (halike target).skipped
          cases hresult : (resolve target).result with
          | ok included =>
              rw [hresult] at hsame
              rw [followIncludes_of_ok hresult, followIncludes_of_ok hsame, hskipped, hskipped']
              exact ih.after
          | error failure =>
              rw [hresult] at hsame
              rcases failure.source_or_aborts with ⟨cause, rfl⟩ | haborts
              · rw [followIncludes_of_skipped hresult, followIncludes_of_failed hsame,
                  Resolution.after, hskipped, hskipped']
                refine ⟨rfl, fun h => by simp at h, fun first others h => ?_⟩
                obtain ⟨rfl, -⟩ := List.cons.inj h
                exact ⟨cause, rfl, rfl⟩
              · rw [followIncludes_of_aborts hresult haborts,
                  followIncludes_of_aborts hsame haborts, hskipped, hskipped']
                exact ⟨rfl, fun _ => rfl, fun first others h => by cases h⟩

end Following

theorem alikeUntilSkipped_resolveWithin (bound : Nat) :
    AlikeUntilSkipped
      (resolveWithin limit { options with includePolicy := .skip } loader bound path chain)
      (resolveWithin limit { options with includePolicy := .fail } loader bound path chain) := by
  induction bound generalizing path chain with
  | zero => exact alikeUntilSkipped_self rfl
  | succ bound ih =>
      -- sources are opened under either policy alike
      have hsame : openSource limit { options with includePolicy := .fail } loader path chain =
          openSource limit { options with includePolicy := .skip } loader path chain := rfl
      cases hopen :
          (openSource limit { options with includePolicy := .skip } loader path chain).1 with
      | error failure =>
          rw [resolveWithin_of_unopened hopen, resolveWithin_of_unopened (hsame ▸ hopen)]
          exact alikeUntilSkipped_self rfl
      | ok source =>
          rw [resolveWithin_of_opened hopen, resolveWithin_of_opened (hsame ▸ hopen)]
          exact (alikeUntilSkipped_followIncludes fun target => ih).after

/-! ## What is recorded -/

/-- An include among some that an entry comes from: it fails as one source does, or has the entry
itself. -/
def SkipsAt (policy : IncludePolicy) (path : String) (resolve : String → Resolution)
    (targets : List String) (entry : SkippedInclude) : Prop :=
  ∃ before target after, targets = before ++ target :: after ∧
    (∀ t ∈ before, GoesOn policy (resolve t).result) ∧
    (entry ∈ (resolve target).skipped ∨ ∃ cause,
      (resolve target).result = .error (.source cause) ∧ entry = ⟨target, path, cause.message⟩)

section Recording

variable {policy : IncludePolicy} {resolve : String → Resolution} {targets : List String}
  {target : String} {document : Document} {entry : SkippedInclude}

theorem SkipsAt.head (h : entry ∈ (resolve target).skipped) :
    SkipsAt policy path resolve (target :: targets) entry :=
  ⟨[], target, targets, rfl, by simp, .inl h⟩

theorem SkipsAt.cons (hfirst : GoesOn policy (resolve target).result)
    (h : SkipsAt policy path resolve targets entry) :
    SkipsAt policy path resolve (target :: targets) entry := by
  obtain ⟨before, t, after, rfl, hbefore, hblame⟩ := h
  exact ⟨target :: before, t, after, rfl, List.forall_mem_cons.2 ⟨hfirst, hbefore⟩, hblame⟩

theorem skipsAt_of_mem
    (h : entry ∈ (followIncludes policy resolve path targets document).skipped) :
    SkipsAt policy path resolve targets entry := by
  induction targets generalizing document with
  | nil => cases h
  | cons target targets ih =>
      cases hresult : (resolve target).result with
      | ok included =>
          rw [followIncludes_of_ok hresult, Resolution.after, List.mem_append] at h
          rcases h with h | h
          · exact .head h
          · exact (ih h).cons (by rw [hresult]; trivial)
      | error failure =>
          rcases failure.source_or_aborts with ⟨cause, rfl⟩ | haborts
          · cases policy with
            | skip =>
                rw [followIncludes_of_skipped hresult, Resolution.after, List.mem_append,
                  List.mem_append, List.mem_singleton] at h
                rcases h with (h | rfl) | h
                · exact .head h
                · exact ⟨[], target, targets, rfl, by simp, .inr ⟨cause, hresult, rfl⟩⟩
                · exact (ih h).cons (by rw [hresult]; rfl)
            | fail =>
                rw [followIncludes_of_failed hresult] at h
                exact .head h
          · rw [followIncludes_of_aborts hresult haborts] at h
            exact .head h

end Recording

/-- An include of a visit that fails as one source does, and an entry that says so. -/
def Recorded (limit : Nat) (options : Options) (loader : Loader) (v : Visit)
    (entry : SkippedInclude) : Prop :=
  ∃ w cause, Enters limit options loader v w ∧
    (w.resolution limit options loader).result = .error (.source cause) ∧
    entry = ⟨w.path, v.path, cause.message⟩

theorem exists_recorded {bound : Nat} {entry : SkippedInclude}
    (h : entry ∈ (resolveWithin limit options loader bound path chain).skipped) :
    ∃ v, Reaches limit options loader ⟨bound, path, chain⟩ v ∧
      Recorded limit options loader v entry := by
  induction bound generalizing path chain with
  | zero => cases h
  | succ bound ih =>
      cases hopen : (openSource limit options loader path chain).1 with
      | error failure =>
          rw [resolveWithin_of_unopened hopen] at h
          cases h
      | ok source =>
          obtain ⟨key, own⟩ := source
          rw [resolveWithin_of_opened hopen] at h
          obtain ⟨before, target, after, hincludes, hbefore, hmem | ⟨cause, hfails, rfl⟩⟩ :=
            skipsAt_of_mem h
          · obtain ⟨v, hreaches, hrecorded⟩ := ih hmem
            exact ⟨v, hreaches.head (.intro hopen hincludes hbefore), hrecorded⟩
          · exact ⟨_, .refl, _, cause, .intro hopen hincludes hbefore, hfails, rfl⟩

/-- A resolution that fails at includes and one that skips them differ only from the first
include on that is skipped. An include that may not be skipped is what every level ends with that
comes to it, and no level records it. -/
theorem resolve_policies (limit : Nat) (options : Options) (loader : Loader) (path : String) :
    AlikeUntilSkipped (resolve limit { options with includePolicy := .skip } loader path)
      (resolve limit { options with includePolicy := .fail } loader path) ∧
    ∀ policy,
      (∀ v target includer cause,
        Reaches limit { options with includePolicy := policy } loader (.start loader path) v →
        (v.resolution limit { options with includePolicy := policy } loader).result =
          .error (.includeFailed target includer cause) →
        (resolve limit { options with includePolicy := policy } loader path).result =
          .error (.includeFailed target includer cause)) ∧
      ∀ entry ∈ (resolve limit { options with includePolicy := policy } loader path).skipped,
        ∃ v, Reaches limit { options with includePolicy := policy } loader (.start loader path) v ∧
          Recorded limit { options with includePolicy := policy } loader v entry := by
  refine ⟨alikeUntilSkipped_resolveWithin _, fun policy => ⟨?_, fun entry => exists_recorded⟩⟩
  intro v target includer cause hreaches hfailed
  exact hreaches.aborts hfailed trivial

end ThriftSchema
