import Mathlib.Data.List.Forall2
import ThriftSchema.Command.Session

set_option autoImplicit false

/-! # What sessions come to

A step of a session starts from a screen; it goes on from the screen it leaves, or ends the
session. Only the report of a failure ends a session with an exit code, which is one, and a crash
counts as one too. So a command line exits with zero exactly if all steps of its request go on.

* `perform`: what a step ends with and leaves.
* `ExitsWithOne`: a step that ends a session with the exit code one alone.
* `exitCode_eq_zero_iff`: when a request ends well.
* `perform_parse`: when a file is parsed and shown, and what is printed.
-/

namespace ThriftSchema.Command

variable {α β : Type} {host : Host}

/-! ## Steps -/

/-- What a step ends with and what it leaves, from a screen. -/
def perform (step : Session α) (screen : Screen) : Except Ending α × Screen :=
  step.run.run screen

/-- The screen with more text. -/
def Screen.add (s : Screen) (text : String) : Screen := { s with printed := s.printed ++ text }

@[simp] theorem perform_pure (a : α) (s : Screen) : perform (pure a) s = (.ok a, s) := rfl

@[simp] theorem perform_get (s : Screen) : perform get s = (.ok s, s) := rfl

@[simp] theorem perform_set (s s' : Screen) : perform (set s') s = (.ok (), s') := rfl

@[simp] theorem perform_modify (f : Screen → Screen) (s : Screen) :
    perform (modify f) s = (.ok (), f s) := rfl

@[simp] theorem perform_crash (reason : Crash) (s : Screen) :
    perform (crash reason : Session α) s = (.error (.crash reason), s) := rfl

@[simp] theorem perform_exit (code : Nat) (s : Screen) :
    perform (exit code : Session α) s = (.error (.exit code), s) := rfl

theorem perform_bind (step : Session α) (next : α → Session β) (s : Screen) :
    perform (step >>= next) s = match perform step s with
      | (.ok a, s') => perform (next a) s'
      | (.error ending, s') => (.error ending, s') := by
  rw [perform, ExceptT.run_bind, StateT.run_bind]
  unfold perform
  cases step.run.run s with
  | mk ending between => cases ending <;> rfl

variable {step : Session α} {next : α → Session β} {s s' : Screen} {b : β}

/-- A step and what comes next go on if both do. -/
theorem perform_bind_eq_ok : perform (step >>= next) s = (.ok b, s') ↔
    ∃ a between, perform step s = (.ok a, between) ∧ perform (next a) between = (.ok b, s') := by
  rw [perform_bind]
  cases hstep : perform step s with
  | mk ending between =>
      cases ending with
      | error ending => simp
      | ok a => simp

/-- What a console shows is printed. -/
theorem perform_display_eq_ok {shown : Except ConsoleError String} :
    perform (display shown) s = (.ok (), s') ↔ ∃ text, shown = .ok text ∧ s' = s.add text := by
  cases shown with
  | error error => simp [display]
  | ok text => simp [display, Screen.add, eq_comm]

theorem perform_checkIntegers_eq_ok {document : Document} :
    perform (checkIntegers document) s = (.ok (), s') ↔
      document.outline.isWritable = true ∧ s' = s := by
  unfold checkIntegers
  cases document.outline.isWritable <;> simp [eq_comm]

/-! ## Exit codes -/

/-- A step that ends a session, if it does, with the exit code one or with a crash. -/
def ExitsWithOne (step : Session α) : Prop :=
  ∀ s code s', perform step s = (.error (.exit code), s') → code = 1

theorem exitsWithOne_pure (a : α) : ExitsWithOne (pure a) := nofun

theorem exitsWithOne_crash (reason : Crash) : ExitsWithOne (crash reason : Session α) := nofun

theorem ExitsWithOne.bind (hstep : ExitsWithOne step) (hnext : ∀ a, ExitsWithOne (next a)) :
    ExitsWithOne (step >>= next) := by
  intro s code s' h
  rw [perform_bind] at h
  split at h
  · exact hnext _ _ _ _ h
  · next ending between hperform =>
    cases h
    exact hstep _ _ _ hperform

/-- A step that always goes on. -/
theorem exitsWithOne_of_ok (h : ∀ s, ∃ a s', perform step s = (.ok a, s')) :
    ExitsWithOne step := by
  intro s code s' hperform
  obtain ⟨a, s'', hok⟩ := h s
  rw [hok] at hperform
  cases hperform

theorem exitsWithOne_exit : ExitsWithOne (exit 1 : Session α) := by
  intro s code s' h
  cases h
  rfl

theorem exitsWithOne_get : ExitsWithOne (get : Session Screen) :=
  exitsWithOne_of_ok fun s => ⟨s, s, rfl⟩

theorem exitsWithOne_display (shown : Except ConsoleError String) :
    ExitsWithOne (display shown) := by
  cases shown with
  | error error => exact exitsWithOne_crash _
  | ok text => exact exitsWithOne_of_ok fun _ => ⟨(), _, rfl⟩

theorem exitsWithOne_print (host : Host) (text : String) : ExitsWithOne (print host text) :=
  exitsWithOne_display _

theorem exitsWithOne_write (host : Host) (path : Path) (text : String) :
    ExitsWithOne (write host path text) := by
  refine exitsWithOne_get.bind fun screen => ?_
  split
  · exact exitsWithOne_crash _
  · exact (exitsWithOne_of_ok fun s => ⟨(), _, rfl⟩).bind fun _ => exitsWithOne_print host _

theorem exitsWithOne_checkIntegers (document : Document) :
    ExitsWithOne (checkIntegers document) := by
  unfold checkIntegers
  split
  · exact exitsWithOne_pure ()
  · exact exitsWithOne_crash _

theorem exitsWithOne_forIn {γ : Type} (items : List γ) {body : γ → β → Session (ForInStep β)}
    (hbody : ∀ item b, ExitsWithOne (body item b)) (init : β) :
    ExitsWithOne (forIn items init body) := by
  induction items generalizing init with
  | nil => exact exitsWithOne_pure init
  | cons item items ih =>
      rw [List.forIn_cons]
      refine (hbody item init).bind fun step => ?_
      cases step with
      | done b => exact exitsWithOne_pure b
      | yield b => exact ih b

theorem exitsWithOne_check (host : Host) (files : List Path) :
    ExitsWithOne (check host files) := by
  refine exitsWithOne_get.bind fun screen => ?_
  dsimp only
  split
  · exact exitsWithOne_crash _
  · refine (exitsWithOne_display _).bind fun _ => ?_
    split
    · exact (exitsWithOne_print host _).bind fun _ => exitsWithOne_exit
    · exact exitsWithOne_pure ()

/-- A step that ends every session, with the exit code one or with a crash. -/
structure FailsWithOne (step : Session α) : Prop where
  exits : ExitsWithOne step
  ends : ∀ s a s', perform step s ≠ (.ok a, s')

theorem failsWithOne_exit : FailsWithOne (exit 1 : Session α) := ⟨exitsWithOne_exit, nofun⟩

theorem ExitsWithOne.bind_fails (hstep : ExitsWithOne step)
    (hnext : ∀ a, FailsWithOne (next a)) : FailsWithOne (step >>= next) where
  exits := hstep.bind fun a => (hnext a).exits
  ends s b s' h := by
    obtain ⟨a, between, -, h⟩ := perform_bind_eq_ok.1 h
    exact (hnext a).ends _ _ _ h

theorem failsWithOne_reportFailure (host : Host) (location : Path) (failure : Failure) :
    FailsWithOne (reportFailure host location failure) := by
  have hend : ∀ a : Unit, FailsWithOne (exit 1 : Session Unit) := fun _ => failsWithOne_exit
  unfold reportFailure
  split
  · exact (exitsWithOne_crash _).bind_fails hend
  · exact (exitsWithOne_crash _).bind_fails hend
  · exact (exitsWithOne_crash _).bind_fails hend
  · exact (exitsWithOne_print host _).bind_fails hend
  · exact (exitsWithOne_print host _).bind_fails hend
  · exact (exitsWithOne_print host _).bind_fails hend
  · -- a text that does not match: its message, and the place if it is in the file itself
    refine (exitsWithOne_print host _).bind_fails fun _ => ?_
    split
    · exact failsWithOne_exit
    · split
      · refine exitsWithOne_get.bind_fails fun _ => ?_
        split
        · exact (exitsWithOne_crash _).bind_fails hend
        · exact (exitsWithOne_display _).bind_fails hend
      · exact failsWithOne_exit

/-! ## Showing a document -/

/-- The last part of parsing: a document is shown behind the notes on the includes that were left
out. -/
def showResolution (host : Host) (request : ParseRequest) (location : Path)
    (resolution : Resolution) : Session Unit :=
  match resolution.result with
  | .error failure => reportFailure host location failure
  | .ok document => do
    for skipped in resolution.skipped do
      print host (skipNote skipped)
    if request.json then showJson host request document else showTree host request document

theorem perform_parse (host : Host) (request : ParseRequest) (s : Screen) :
    perform (parse host request) s = match s.disk.contains request.file with
      | .error error => (.error (.crash (.failure (.file request.file error))), s)
      | .ok false => perform (do
          print host (styled "red" ("Error: File " ++ request.file.text ++ " not found."))
          exit 1) s
      | .ok true => perform (showResolution host request (request.file.resolve s.disk.current)
          (request.resolution host.limit s.disk)) s := by
  rw [parse, perform_bind, perform_get]
  dsimp only
  cases s.disk.contains request.file with
  | error error => rfl
  | ok isThere =>
      cases isThere with
      | true => rfl
      | false =>
          dsimp only
          rw [pure_bind]
          simp [perform_bind]

theorem exitsWithOne_showJson (host : Host) (request : ParseRequest) (document : Document) :
    ExitsWithOne (showJson host request document) := by
  refine (exitsWithOne_checkIntegers document).bind fun _ => ?_
  split
  · exact exitsWithOne_write host _ _
  · exact exitsWithOne_display _

theorem exitsWithOne_writeTree (host : Host) (request : ParseRequest) (tree : Tree) :
    ExitsWithOne (writeTree host request tree) := by
  unfold writeTree
  split
  · split
    · exact exitsWithOne_write host _ _
    · exact exitsWithOne_crash _
  · exact exitsWithOne_display _

theorem exitsWithOne_showTree (host : Host) (request : ParseRequest) (document : Document) :
    ExitsWithOne (showTree host request document) :=
  (exitsWithOne_checkIntegers document).bind fun _ =>
    (exitsWithOne_writeTree host request document.tree).bind fun _ =>
      (exitsWithOne_display _).bind fun _ => exitsWithOne_display _

theorem exitsWithOne_showResolution (host : Host) (request : ParseRequest) (location : Path)
    (resolution : Resolution) : ExitsWithOne (showResolution host request location resolution) := by
  unfold showResolution
  split
  · exact (failsWithOne_reportFailure host _ _).exits
  · refine (exitsWithOne_forIn resolution.skipped (fun _ _ =>
      (exitsWithOne_print host _).bind fun _ => exitsWithOne_pure _) PUnit.unit).bind fun _ => ?_
    split
    · exact exitsWithOne_showJson host _ _
    · exact exitsWithOne_showTree host _ _

theorem exitsWithOne_parse (host : Host) (request : ParseRequest) :
    ExitsWithOne (parse host request) := by
  intro s code s' h
  rw [perform_parse] at h
  split at h
  · cases h
  · exact ((exitsWithOne_print host _).bind fun _ => exitsWithOne_exit) _ _ _ h
  · exact exitsWithOne_showResolution host _ _ _ _ _ _ h

theorem exitsWithOne_serve (host : Host) (request : Request) :
    ExitsWithOne (serve host request) := by
  cases request with
  | check files => exact exitsWithOne_check host files
  | parse request => exact exitsWithOne_parse host request

/-! ## The command line -/

variable {disk : Disk} {arguments : List String} {request : Request}

theorem run_eq (hrequest : host.arguments arguments = .ok request) :
    run host disk arguments = match perform (serve host request) ⟨disk, [], ""⟩ with
      | (.ok (), s) => ⟨0, .ok s.printed, none, s.disk, s.written⟩
      | (.error (.exit code), s) => ⟨code, .ok s.printed, none, s.disk, s.written⟩
      | (.error (.crash reason), s) => ⟨1, .ok s.printed, some reason, s.disk, s.written⟩ := by
  rw [run, hrequest]
  unfold perform
  dsimp only
  cases (serve host request).run.run ⟨disk, [], ""⟩ with
  | mk ending screen =>
      cases ending with
      | ok => rfl
      | error ending => cases ending <;> rfl

/-- A command line that is a request exits with zero or one. -/
theorem exitCode_run (hrequest : host.arguments arguments = .ok request) :
    (run host disk arguments).exitCode = 0 ∨ (run host disk arguments).exitCode = 1 := by
  rw [run_eq hrequest]
  split
  · exact .inl rfl
  · next code s hperform => exact .inr (exitsWithOne_serve host _ _ _ _ hperform)
  · exact .inr rfl

/-- It exits with zero if all its steps go on. -/
theorem exitCode_eq_zero_iff (hrequest : host.arguments arguments = .ok request) :
    (run host disk arguments).exitCode = 0 ↔
      ∃ s, perform (serve host request) ⟨disk, [], ""⟩ = (.ok (), s) := by
  rw [run_eq hrequest]
  split
  · next s hperform => exact iff_of_true rfl ⟨s, hperform⟩
  · next code s hperform =>
    have hcode : code = 1 := exitsWithOne_serve host _ _ _ _ hperform
    exact iff_of_false (by simp [hcode]) fun ⟨s', hok⟩ => by simp [hok] at hperform
  · next reason s hperform =>
    exact iff_of_false (by simp) fun ⟨s', hok⟩ => by simp [hok] at hperform

/-! ## What is shown -/

theorem Screen.add_add (s : Screen) (text text' : String) :
    (s.add text).add text' = s.add (text ++ text') := by
  rw [Screen.add, Screen.add, Screen.add, String.append_assoc]

/-- What a console shows for the includes that were left out. -/
def NotedAs (console : Console) : List SkippedInclude → List String → Prop :=
  List.Forall₂ fun skipped note => console.text (skipNote skipped) = .ok note

theorem perform_notes_eq_ok {skipped : List SkippedInclude} {a : PUnit} :
    perform (forIn skipped PUnit.unit fun skipped _ => do
      print host (skipNote skipped)
      return ForInStep.yield PUnit.unit) s = (.ok a, s') ↔
    ∃ notes, NotedAs host.console skipped notes ∧ s' = s.add (String.join notes) := by
  induction skipped generalizing s with
  | nil => simp [NotedAs, Screen.add, eq_comm]
  | cons first rest ih =>
      rw [List.forIn_cons, perform_bind_eq_ok]
      constructor
      · rintro ⟨step, between, hfirst, hrest⟩
        obtain ⟨_, printed, hprint, hstep⟩ := perform_bind_eq_ok.1 hfirst
        obtain ⟨note, hnote, rfl⟩ := perform_display_eq_ok.1 hprint
        cases hstep
        obtain ⟨notes, hnotes, rfl⟩ := ih.1 hrest
        exact ⟨note :: notes, .cons hnote hnotes, by rw [Screen.add_add, String.join_cons]⟩
      · rintro ⟨notes, hnotes, rfl⟩
        cases hnotes with
        | @cons _ note _ notes hnote hnotes =>
            refine ⟨.yield ⟨⟩, s.add note, perform_bind_eq_ok.2
              ⟨(), _, perform_display_eq_ok.2 ⟨note, hnote, rfl⟩, rfl⟩, ?_⟩
            exact ih.2 ⟨notes, hnotes, by rw [Screen.add_add, String.join_cons]⟩

variable {request : ParseRequest} {document : Document}

theorem perform_showTree_eq_ok (hout : request.out = none) :
    perform (showTree host request document) s = (.ok (), s') ↔
      document.outline.isWritable = true ∧ ∃ tree summary panel,
        host.console.tree document.tree = .ok tree ∧
        host.console.table (summaryTable document) = .ok summary ∧
        host.console.panel "Result" (parsedNote request) = .ok panel ∧
        s' = s.add (tree ++ (summary ++ panel)) := by
  have hwrite : writeTree host request document.tree =
      display (host.console.tree document.tree) := by
    rw [writeTree, hout]
  rw [showTree, hwrite]
  constructor
  · intro h
    obtain ⟨_, _, hintegers, h⟩ := perform_bind_eq_ok.1 h
    obtain ⟨_, _, hfirst, h⟩ := perform_bind_eq_ok.1 h
    obtain ⟨_, _, hsecond, hthird⟩ := perform_bind_eq_ok.1 h
    obtain ⟨hwritable, rfl⟩ := perform_checkIntegers_eq_ok.1 hintegers
    obtain ⟨tree, htree, rfl⟩ := perform_display_eq_ok.1 hfirst
    obtain ⟨summary, hsummary, rfl⟩ := perform_display_eq_ok.1 hsecond
    obtain ⟨panel, hpanel, rfl⟩ := perform_display_eq_ok.1 hthird
    exact ⟨hwritable, tree, summary, panel, htree, hsummary, hpanel,
      by rw [Screen.add_add, Screen.add_add]⟩
  · rintro ⟨hwritable, tree, summary, panel, htree, hsummary, hpanel, rfl⟩
    refine perform_bind_eq_ok.2 ⟨(), s, perform_checkIntegers_eq_ok.2 ⟨hwritable, rfl⟩, ?_⟩
    refine perform_bind_eq_ok.2 ⟨(), s.add tree, perform_display_eq_ok.2 ⟨tree, htree, rfl⟩, ?_⟩
    refine perform_bind_eq_ok.2
      ⟨(), _, perform_display_eq_ok.2 ⟨summary, hsummary, rfl⟩, ?_⟩
    exact perform_display_eq_ok.2
      ⟨panel, hpanel, by rw [Screen.add_add, Screen.add_add]⟩

theorem perform_showJson_eq_ok (hout : request.out = none) :
    perform (showJson host request document) s = (.ok (), s') ↔
      document.outline.isWritable = true ∧
        s' = s.add (host.console.echo document.toJson.text) := by
  rw [showJson, hout, perform_bind_eq_ok]
  constructor
  · rintro ⟨_, _, hintegers, hshown⟩
    obtain ⟨hwritable, rfl⟩ := perform_checkIntegers_eq_ok.1 hintegers
    obtain ⟨text, htext, rfl⟩ := perform_display_eq_ok.1 hshown
    exact ⟨hwritable, by rw [Except.ok.inj htext]⟩
  · rintro ⟨hwritable, rfl⟩
    exact ⟨(), s, perform_checkIntegers_eq_ok.2 ⟨hwritable, rfl⟩,
      perform_display_eq_ok.2 ⟨_, rfl, rfl⟩⟩

/-- The text for a document: its JSON value, or its tree with a summary. -/
inductive ShownAs (host : Host) (request : ParseRequest) (document : Document) : String → Prop
  | json (h : request.json = true) :
      ShownAs host request document (host.console.echo document.toJson.text)
  | tree (h : request.json = false) {tree summary panel : String}
      (htree : host.console.tree document.tree = .ok tree)
      (hsummary : host.console.table (summaryTable document) = .ok summary)
      (hpanel : host.console.panel "Result" (parsedNote request) = .ok panel) :
      ShownAs host request document (tree ++ (summary ++ panel))

/-- A document that is shown on the screen is printed, if all integers in it can be written and
the console shows it. -/
theorem perform_showDocument_eq_ok (hout : request.out = none) :
    perform (if request.json then showJson host request document
        else showTree host request document) s = (.ok (), s') ↔
      document.outline.isWritable = true ∧
        ∃ shown, ShownAs host request document shown ∧ s' = s.add shown := by
  cases hjson : request.json with
  | true =>
      rw [if_pos rfl, perform_showJson_eq_ok hout]
      refine and_congr_right fun _ => ⟨fun h => ⟨_, .json hjson, h⟩, ?_⟩
      rintro ⟨shown, hshown, rfl⟩
      cases hshown with
      | json => rfl
      | tree h => simp [hjson] at h
  | false =>
      rw [if_neg Bool.false_ne_true, perform_showTree_eq_ok hout]
      refine and_congr_right fun _ => ?_
      constructor
      · rintro ⟨tree, summary, panel, htree, hsummary, hpanel, rfl⟩
        exact ⟨_, .tree hjson htree hsummary hpanel, rfl⟩
      · rintro ⟨shown, hshown, rfl⟩
        cases hshown with
        | json h => simp [hjson] at h
        | @tree _ tree summary panel htree hsummary hpanel =>
            exact ⟨tree, summary, panel, htree, hsummary, hpanel, rfl⟩

/-- A file is parsed and shown if it is there and resolved, and the notes and the document can be
shown. -/
theorem perform_parse_eq_ok (hout : request.out = none) :
    perform (parse host request) s = (.ok (), s') ↔
      s.disk.contains request.file = .ok true ∧
      ∃ document, (request.resolution host.limit s.disk).result = .ok document ∧
        document.outline.isWritable = true ∧
        ∃ notes shown, NotedAs host.console (request.resolution host.limit s.disk).skipped notes ∧
          ShownAs host request document shown ∧ s' = s.add (String.join notes ++ shown) := by
  rw [perform_parse]
  have hmissing : ∀ text, perform (do print host text; exit 1) s ≠ (.ok (), s') :=
    fun text => ((exitsWithOne_print host text).bind_fails fun _ => failsWithOne_exit).ends _ _ _
  split
  · next h => simp [h]
  · next h => simp [h, hmissing]
  · next h =>
    rw [h, eq_self, true_and, showResolution]
    split
    · next failure hresult =>
      simp [hresult, (failsWithOne_reportFailure host _ failure).ends]
    · next document hresult =>
      rw [perform_bind_eq_ok]
      constructor
      · rintro ⟨_, _, hloop, hshow⟩
        obtain ⟨notes, hnotes, rfl⟩ := perform_notes_eq_ok.1 hloop
        obtain ⟨hwritable, shown, hshown, rfl⟩ := (perform_showDocument_eq_ok hout).1 hshow
        exact ⟨document, hresult, hwritable, notes, shown, hnotes, hshown, Screen.add_add _ _ _⟩
      · rintro ⟨document', hresult', hwritable, notes, shown, hnotes, hshown, rfl⟩
        obtain rfl := Except.ok.inj (hresult.symm.trans hresult')
        exact ⟨⟨⟩, s.add (String.join notes), perform_notes_eq_ok.2 ⟨notes, hnotes, rfl⟩,
          (perform_showDocument_eq_ok hout).2
            ⟨hwritable, shown, hshown, (Screen.add_add _ _ _).symm⟩⟩

end ThriftSchema.Command
