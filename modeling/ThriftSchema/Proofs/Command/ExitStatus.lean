import ThriftSchema.Proofs.Command.Session
import ThriftSchema.Proofs.Expectation.Report
import ThriftSchema.Proofs.Inclusion.Level
import ThriftSchema.Proofs.Outline.Reading
import ThriftSchema.Proofs.Outline.Tree
import ThriftSchema.Proofs.Teletype.Host

set_option autoImplicit false

/-! # What exit codes say

The tree, the summary and the name of a parsed file are shown on every console that keeps the laws,
whatever they hold. But the names of checked files and the notes on skipped includes are shown with
their tags in force, and a closing tag out of place there ends a command whose work is done. So a
command exits with zero exactly if its work is done, its integers can be written, and these texts
are shown.

* `exists_shownAs`: what is shown of a document.
* `perform_check_eq_ok`: when all checked files are good.
* `exitCode_of_request`: what the exit code of a command line says.
-/

namespace ThriftSchema.Command

open Text

variable {host : Host} {disk : Disk} {request : ParseRequest} {limit : Nat}

/-! ## Texts in order -/

theorem inOrder_styled {style text : String} (hstyle : style ∈ styleNames)
    (htext : Untagged text.toList) : InOrder (styled style text).toList := by
  have h := InOrder.styled hstyle htext (.plain List.not_mem_nil)
  rwa [List.append_nil] at h

theorem inOrder_toString (n : Nat) : InOrder (toString n).toList :=
  .plain fun hmem =>
    absurd (Number.Double.isTextChar_of_mem_toString (n : Int) '[' hmem) (by decide)

theorem inOrder_texts {table : Table} (htitle : InOrder table.title.toList)
    (hheads : ∀ column ∈ table.columns, InOrder column.head.toList)
    (hrows : ∀ row ∈ table.rows, ∀ cell ∈ row, InOrder cell.toList) :
    ∀ text ∈ table.texts, InOrder text.toList :=
  List.forall_mem_cons.2 ⟨htitle, List.forall_mem_append.2
    ⟨List.forall_mem_map.2 hheads, List.forall_mem_flatten.2 hrows⟩⟩

/-! ## Documents -/

theorem isShaped_of_resolution {document : Document}
    (h : (request.resolution limit disk).result = .ok document) : document.IsShaped := by
  refine of_resolveWithin (fun _ _ => Document.IsShaped.merge) (fun path document hread => ?_) h
  obtain ⟨text, -, htext⟩ := readSource_eq_ok.1 hread
  exact isShaped_of_ofText htext

theorem inOrder_tree {document : Document} (h : document.IsShaped) :
    ∀ label ∈ document.tree.labels, InOrder label.toList := by
  rw [← document.tree_guarded, Document.tree]
  exact Outline.labelsInOrder_tree rfl h.hasShape

theorem inOrder_summary (document : Document) :
    ∀ text ∈ (summaryTable document).texts, InOrder text.toList := by
  have hkind : ∀ definition, InOrder (kindWord definition).toList := fun definition => by
    refine .plain ?_
    cases definition <;> rw [kindWord] <;> decide
  refine inOrder_texts (.plain (show '[' ∉ "Document Summary".toList by decide))
    (by simp [summaryTable, InOrder.plain]) (List.forall_mem_cons.2 ⟨?_, fun row hrow => ?_⟩)
  · exact List.forall_mem_cons.2
      ⟨.plain (by decide), List.forall_mem_singleton.2 (inOrder_toString _)⟩
  · obtain ⟨kind, hmem, rfl⟩ := List.mem_map.1 hrow
    obtain ⟨definition, -, rfl⟩ := List.mem_map.1 (mem_sortLabels.1 hmem)
    exact List.forall_mem_cons.2
      ⟨hkind definition, List.forall_mem_singleton.2 (inOrder_toString _)⟩

theorem inOrder_parsedNote (request : ParseRequest) : InOrder (parsedNote request).toList := by
  rw [parsedNote, String.toList_append, String.toList_append, List.append_assoc]
  refine .styled (by decide) (.of_forall (by decide)) ?_
  exact .append (.of_forall (by decide)) (.escaped _)

/-- All documents are shown. -/
theorem exists_shownAs (hconsole : host.console.Lawful) (request : ParseRequest)
    {document : Document} (h : document.IsShaped) :
    ∃ shown, ShownAs host request document shown := by
  cases hjson : request.json with
  | true => exact ⟨_, .json hjson⟩
  | false =>
      obtain ⟨tree, htree⟩ := hconsole.tree document.tree (inOrder_tree h)
      obtain ⟨summary, hsummary⟩ :=
        hconsole.table (summaryTable document) (by simp [summaryTable, styleNames])
          (inOrder_summary document)
      obtain ⟨panel, hpanel⟩ :=
        hconsole.panel "Result" (parsedNote request) (.plain (by decide)) (inOrder_parsedNote _)
      exact ⟨_, .tree hjson htree hsummary hpanel⟩

/-! ## Notes on includes -/

theorem exists_notedAs {console : Console} {skipped : List SkippedInclude} :
    (∃ notes, NotedAs console skipped notes) ↔ ∀ s ∈ skipped, console.Accepts (skipNote s) := by
  induction skipped with
  | nil => exact iff_of_true ⟨[], .nil⟩ (List.forall_mem_nil _)
  | cons first rest ih =>
      rw [List.forall_mem_cons, ← ih]
      constructor
      · rintro ⟨notes, hnotes⟩
        cases hnotes with
        | cons hnote hrest => exact ⟨⟨_, hnote⟩, _, hrest⟩
      · rintro ⟨⟨note, hnote⟩, notes, hrest⟩
        exact ⟨note :: notes, .cons hnote hrest⟩

/-- A note on names without brackets is in order, if its end is not escaped. -/
theorem inOrder_skipNote {skipped : SkippedInclude} (hpath : '[' ∉ skipped.path.toList)
    (hfrom : Untagged skipped.includedFrom.toList) : InOrder (skipNote skipped).toList := by
  refine inOrder_styled (by decide) ⟨?_, ?_⟩
  · simp only [String.toList_append, List.mem_append, not_or]
    exact ⟨⟨⟨by decide, bracket_notMem_quote hpath⟩, by decide⟩, hfrom.bracket⟩
  · rw [String.toList_append, List.getLast?_append]
    cases hlast : skipped.includedFrom.toList.getLast? with
    | none =>
        have hblank : " from ".toList.getLast? = some ' ' := rfl
        rw [Option.none_or, String.toList_append, List.getLast?_append, hblank, Option.some_or]
        decide
    | some c =>
        rw [Option.some_or, ← hlast]
        exact hfrom.ending

/-! ## Checking -/

/-- A file that can be read, and whose text is a document. -/
def IsGood (limit : Nat) (disk : Disk) (file : Path) : Prop :=
  ∃ text document, disk.readText file "utf-8" = .ok text ∧
    Document.ofText limit { } text none = .ok document

/-- The row in the report for a good file. -/
def goodRow (file : Path) : List String := [file.text, styled "green" "OK", ""]

theorem checkFile_of_isGood {file : Path} (h : IsGood limit disk file) :
    checkFile limit disk file = .ok (true, goodRow file) := by
  obtain ⟨text, document, htext, hdocument⟩ := h
  rw [checkFile, htext]
  dsimp only
  rw [hdocument]
  rfl

theorem isGood_of_checkFile {file : Path} {row : List String}
    (h : checkFile limit disk file = .ok (true, row)) : IsGood limit disk file := by
  unfold checkFile at h
  split at h
  · cases h
  · next text htext =>
    split at h
    · next document hdocument => exact ⟨text, document, htext, hdocument⟩
    · cases h
    · cases h

/-- Only good files have good rows. -/
theorem mapM_checkFile_of_isGood {files : List Path} (h : ∀ file ∈ files, IsGood limit disk file) :
    files.mapM (checkFile limit disk) = .ok (files.map fun file => (true, goodRow file)) := by
  induction files with
  | nil => rfl
  | cons file files ih =>
      obtain ⟨hfile, hfiles⟩ := List.forall_mem_cons.1 h
      rw [List.mapM_cons, checkFile_of_isGood hfile, ih hfiles]
      rfl

/-- Where not all files are good, one row says so. -/
theorem exists_bad_of_mapM {files : List Path} {results : List (Bool × List String)}
    (h : files.mapM (checkFile limit disk) = .ok results)
    (hbad : ¬∀ file ∈ files, IsGood limit disk file) : ∃ result ∈ results, result.1 = false := by
  induction files generalizing results with
  | nil => exact absurd (List.forall_mem_nil _) hbad
  | cons file files ih =>
      rw [List.mapM_cons] at h
      cases hfile : checkFile limit disk file with
      | error crash => simp [hfile, bind, Except.bind] at h
      | ok result =>
          cases hfiles : files.mapM (checkFile limit disk) with
          | error crash => simp [hfile, hfiles, bind, Except.bind] at h
          | ok others =>
              rw [hfile, hfiles] at h
              obtain rfl := Except.ok.inj h
              obtain ⟨good, row⟩ := result
              cases good with
              | false => exact ⟨_, List.mem_cons_self, rfl⟩
              | true =>
                  have hothers : ¬∀ file ∈ files, IsGood limit disk file := fun hall =>
                    hbad (List.forall_mem_cons.2 ⟨isGood_of_checkFile hfile, hall⟩)
                  obtain ⟨result, hmem, hresult⟩ := ih hfiles hothers
                  exact ⟨result, List.mem_cons_of_mem _ hmem, hresult⟩

/-- The last part of checking: the results are reported. -/
def reportResults (host : Host) (files : List Path) (results : List (Bool × List String)) :
    Session Unit := do
  display (host.console.table (checkTable (results.map (·.2))))
  let failures := (results.filter fun result => !result.1).length
  if failures ≠ 0 then
    print host (styled "red"
      (toString failures ++ " of " ++ toString files.length ++ " file(s) failed."))
    exit 1

theorem perform_check (files : List Path) (s : Screen) :
    perform (check host files) s = match files.mapM (checkFile host.limit s.disk) with
      | .error reason => (.error (.crash reason), s)
      | .ok results => perform (reportResults host files results) s := by
  rw [check, perform_bind, perform_get]
  dsimp only
  cases files.mapM (checkFile host.limit s.disk) <;> rfl

theorem reportResults_of_good {files : List Path} {results : List (Bool × List String)}
    (h : ∀ result ∈ results, result.1 = true) : reportResults host files results =
      display (host.console.table (checkTable (results.map (·.2)))) := by
  have hnone : (results.filter fun result => !result.1) = [] :=
    List.filter_eq_nil_iff.2 fun result hmem => by simp [h result hmem]
  rw [reportResults, hnone]
  exact bind_pure _

theorem failsWithOne_reportResults {files : List Path} {results : List (Bool × List String)}
    (h : ∃ result ∈ results, result.1 = false) :
    FailsWithOne (reportResults host files results) := by
  obtain ⟨result, hmem, hresult⟩ := h
  have hsome : (results.filter fun result => !result.1).length ≠ 0 :=
    (List.length_pos_of_mem (List.mem_filter.2 ⟨hmem, by simp [hresult]⟩)).ne'
  refine (exitsWithOne_display _).bind_fails fun _ => ?_
  dsimp only
  rw [if_pos hsome]
  exact (exitsWithOne_print host _).bind_fails fun _ => failsWithOne_exit

/-- The report that all files are good is shown. -/
def ShowsGood (host : Host) (files : List Path) : Prop :=
  ∃ shown, host.console.table (checkTable (files.map goodRow)) = .ok shown

/-- Checking goes on if all files are good, and the report says so. -/
theorem perform_check_eq_ok {files : List Path} {s : Screen} :
    (∃ s', perform (check host files) s = (.ok (), s')) ↔
      (∀ file ∈ files, IsGood host.limit s.disk file) ∧ ShowsGood host files := by
  rw [perform_check]
  by_cases hgood : ∀ file ∈ files, IsGood host.limit s.disk file
  · have hrows : (files.map fun file => (true, goodRow file)).map (·.2) = files.map goodRow := by
      rw [List.map_map]
      rfl
    rw [mapM_checkFile_of_isGood hgood, and_iff_right hgood]
    dsimp only
    rw [reportResults_of_good (by simp), hrows]
    constructor
    · rintro ⟨s', h⟩
      obtain ⟨shown, hshown, -⟩ := perform_display_eq_ok.1 h
      exact ⟨shown, hshown⟩
    · rintro ⟨shown, hshown⟩
      exact ⟨_, perform_display_eq_ok.2 ⟨shown, hshown, rfl⟩⟩
  · refine iff_of_false ?_ fun h => hgood h.1
    rintro ⟨s', h⟩
    split at h
    · cases h
    · next results hresults =>
      exact (failsWithOne_reportResults (exists_bad_of_mapM hresults hgood)).ends _ _ _ h

/-- The report on files without brackets in their names is shown. -/
theorem showsGood_of_notMem (hconsole : host.console.Lawful) {files : List Path}
    (h : ∀ file ∈ files, '[' ∉ file.text.toList) : ShowsGood host files := by
  refine hconsole.table _ (by simp [checkTable, styleNames]) (inOrder_texts ?_ ?_ ?_)
  · exact .plain (show '[' ∉ "Syntax Check".toList by decide)
  · simp [checkTable, InOrder.plain]
  · refine List.forall_mem_map.2 fun file hfile => ?_
    refine List.forall_mem_cons.2 ⟨.plain (h file hfile), List.forall_mem_cons.2 ?_⟩
    exact ⟨inOrder_styled (by decide) (.of_forall (by decide)),
      List.forall_mem_singleton.2 (.plain (by decide))⟩

/-- The report on a file whose name has a closing tag out of place is not. -/
theorem not_showsGood_of_misclosed (hconsole : host.console.Lawful) {files : List Path}
    (h : ∃ file ∈ files, Misclosed file.text.toList) : ¬ShowsGood host files := by
  rintro ⟨shown, hshown⟩
  obtain ⟨file, hfile, hname⟩ := h
  exact hconsole.closingCell (checkTable (files.map goodRow)) (goodRow file)
    (List.mem_map_of_mem hfile) file.text List.mem_cons_self hname shown hshown

/-! ## Parsing -/

/-- A file that is there, and resolved to a document all of whose integers can be written. -/
def IsShowable (limit : Nat) (disk : Disk) (request : ParseRequest) : Prop :=
  disk.contains request.file = .ok true ∧
    ∃ document, (request.resolution limit disk).result = .ok document ∧
      document.outline.isWritable = true

/-- Parsing a file onto the screen goes on if the file can be shown, and so can the notes. -/
theorem perform_parse_iff (hconsole : host.console.Lawful) {s : Screen}
    (hout : request.out = none) :
    (∃ s', perform (parse host request) s = (.ok (), s')) ↔ IsShowable host.limit s.disk request ∧
      ∀ skipped ∈ (request.resolution host.limit s.disk).skipped,
        host.console.Accepts (skipNote skipped) := by
  constructor
  · rintro ⟨s', h⟩
    obtain ⟨hthere, document, hresult, hwritable, notes, shown, hnotes, -, -⟩ :=
      (perform_parse_eq_ok hout).1 h
    exact ⟨⟨hthere, document, hresult, hwritable⟩, exists_notedAs.1 ⟨notes, hnotes⟩⟩
  · rintro ⟨⟨hthere, document, hresult, hwritable⟩, hnotes⟩
    obtain ⟨notes, hnotes⟩ := exists_notedAs.2 hnotes
    obtain ⟨shown, hshown⟩ := exists_shownAs hconsole request (isShaped_of_resolution hresult)
    exact ⟨_, (perform_parse_eq_ok hout).2
      ⟨hthere, document, hresult, hwritable, notes, shown, hnotes, hshown, rfl⟩⟩

/-! ## Exit codes -/

section Run

variable {arguments : List String}

/-- A file is parsed onto the screen with exit code zero if it and the notes can be shown. -/
theorem exitCode_parse_iff (hconsole : host.console.Lawful)
    (hrequest : host.arguments arguments = .ok (.parse request)) (hout : request.out = none) :
    (run host disk arguments).exitCode = 0 ↔ IsShowable host.limit disk request ∧
      ∀ skipped ∈ (request.resolution host.limit disk).skipped,
        host.console.Accepts (skipNote skipped) :=
  (exitCode_eq_zero_iff hrequest).trans (perform_parse_iff (s := ⟨disk, [], ""⟩) hconsole hout)

/-- The exit code is one if a note has a closing tag out of place. -/
theorem exitCode_of_misclosed_note (hconsole : host.console.Lawful)
    (hrequest : host.arguments arguments = .ok (.parse request)) (hout : request.out = none)
    (h : ∃ skipped ∈ (request.resolution host.limit disk).skipped,
      Misclosed (skipNote skipped).toList) : (run host disk arguments).exitCode = 1 := by
  obtain ⟨skipped, hskipped, hnote⟩ := h
  refine (exitCode_run hrequest).resolve_left fun hzero => ?_
  exact hconsole.closing _ hnote
    (((exitCode_parse_iff hconsole hrequest hout).1 hzero).2 skipped hskipped)

/-- Files are checked with exit code zero if all are good and the report is shown. -/
theorem exitCode_check_iff {files : List Path}
    (hrequest : host.arguments arguments = .ok (.check files)) :
    (run host disk arguments).exitCode = 0 ↔
      (∀ file ∈ files, IsGood host.limit disk file) ∧ ShowsGood host files :=
  (exitCode_eq_zero_iff hrequest).trans perform_check_eq_ok

/-- The exit code is one if the name of a checked file has a closing tag out of place. -/
theorem exitCode_of_misclosed_name (hconsole : host.console.Lawful) {files : List Path}
    (hrequest : host.arguments arguments = .ok (.check files))
    (h : ∃ file ∈ files, Misclosed file.text.toList) : (run host disk arguments).exitCode = 1 := by
  refine (exitCode_run hrequest).resolve_left fun hzero => ?_
  exact not_showsGood_of_misclosed hconsole h ((exitCode_check_iff hrequest).1 hzero).2

end Run

/-- **The exit code tells whether the work is done, but for names with wrong tags.** A file is
parsed onto the screen with exit code zero exactly if it is there and resolved to a document, all
integers of the document can be written in decimal, and all notes on skipped includes are shown.
Files are checked with exit code zero exactly if each is read and is a document, and the report
that says so is shown. The exit code is one in all other cases. Names without brackets are always
shown; with a closing tag out of place in a note, or in the name of a checked file, the exit code is
one. -/
theorem exitCode_of_request (hconsole : host.console.Lawful) (disk : Disk)
    (arguments : List String) :
    (∀ request : ParseRequest, host.arguments arguments = .ok (.parse request) →
      request.out = none →
        ((run host disk arguments).exitCode = 0 ∨ (run host disk arguments).exitCode = 1) ∧
        ((run host disk arguments).exitCode = 0 ↔ IsShowable host.limit disk request ∧
          ∀ skipped ∈ (request.resolution host.limit disk).skipped,
            host.console.Accepts (skipNote skipped)) ∧
        ((∀ skipped ∈ (request.resolution host.limit disk).skipped,
            '[' ∉ skipped.path.toList ∧ Untagged skipped.includedFrom.toList) →
          ((run host disk arguments).exitCode = 0 ↔ IsShowable host.limit disk request)) ∧
        ((∃ skipped ∈ (request.resolution host.limit disk).skipped,
            Misclosed (skipNote skipped).toList) → (run host disk arguments).exitCode = 1)) ∧
    ∀ files : List Path, host.arguments arguments = .ok (.check files) →
      ((run host disk arguments).exitCode = 0 ∨ (run host disk arguments).exitCode = 1) ∧
      ((run host disk arguments).exitCode = 0 ↔
        (∀ file ∈ files, IsGood host.limit disk file) ∧ ShowsGood host files) ∧
      ((∀ file ∈ files, '[' ∉ file.text.toList) →
        ((run host disk arguments).exitCode = 0 ↔
          ∀ file ∈ files, IsGood host.limit disk file)) ∧
      ((∃ file ∈ files, Misclosed file.text.toList) →
        (run host disk arguments).exitCode = 1) := by
  constructor
  · intro request hrequest hout
    have hzero : (run host disk arguments).exitCode = 0 ↔ _ :=
      exitCode_parse_iff hconsole hrequest hout
    refine ⟨exitCode_run hrequest, hzero, fun hnames => ?_,
      exitCode_of_misclosed_note hconsole hrequest hout⟩
    refine hzero.trans (and_iff_left fun skipped hskipped => ?_)
    obtain ⟨hpath, hfrom⟩ := hnames skipped hskipped
    exact hconsole.text _ (inOrder_skipNote hpath hfrom)
  · intro files hrequest
    have hzero : (run host disk arguments).exitCode = 0 ↔ _ := exitCode_check_iff hrequest
    refine ⟨exitCode_run hrequest, hzero, fun hnames => ?_,
      exitCode_of_misclosed_name hconsole hrequest⟩
    exact hzero.trans (and_iff_left (showsGood_of_notMem hconsole hnames))

/-- A disk with a file at a path that starts with a closing tag, and one that includes a path like
that. -/
def taggedDisk : Disk :=
  ⟨.folder [("[", .folder [("x].thrift", .file "struct S \x7b\x7d".toUTF8.toList)]),
    ("m.thrift", .file "include \"[/x]\"".toUTF8.toList)], .ofString "/"⟩

/-- The request to parse a file without any options. -/
def plainRequest (file : String) : ParseRequest :=
  ⟨.ofString file, none, false, false, false, false, none⟩

theorem isGood_of_any {file : Path} (h : (checkFile limit disk file).toOption.any (·.1) = true) :
    IsGood limit disk file := by
  obtain ⟨⟨good, row⟩, hresult, hgood⟩ := (Option.any_eq_true _ _).1 h
  obtain rfl : good = true := hgood
  cases hfile : checkFile limit disk file with
  | error crash => simp [hfile, Except.toOption] at hresult
  | ok result =>
      rw [hfile] at hresult
      obtain rfl := Option.some.inj hresult
      exact isGood_of_checkFile hfile

theorem isShowable_of_any (hthere : disk.contains request.file = .ok true)
    (h : (request.resolution limit disk).result.toOption.any (·.outline.isWritable) = true) :
    IsShowable limit disk request := by
  obtain ⟨document, hresult, hwritable⟩ := (Option.any_eq_true _ _).1 h
  cases hresolution : (request.resolution limit disk).result with
  | error failure => simp [hresolution, Except.toOption] at hresult
  | ok other =>
      rw [hresolution] at hresult
      obtain rfl := Option.some.inj hresult
      exact ⟨hthere, _, hresolution, hwritable⟩

theorem isShowable_tagged : IsShowable 60 taggedDisk (plainRequest "m.thrift") :=
  isShowable_of_any (by decide +kernel) (by decide +kernel)

theorem isGood_tagged : IsGood 60 taggedDisk (.ofString "[/x].thrift") :=
  isGood_of_any (by decide +kernel)

theorem skipped_tagged : ((plainRequest "m.thrift").resolution 60 taggedDisk).skipped =
    [⟨"[/x]", "/m.thrift", "Source not found: [/x]"⟩] := by
  decide +kernel

theorem misclosed_note :
    Misclosed (skipNote ⟨"[/x]", "/m.thrift", "Source not found: [/x]"⟩).toList := by
  have hchars : (skipNote ⟨"[/x]", "/m.thrift", "Source not found: [/x]"⟩).toList =
      '[' :: ("yellow".toList ++ ']' :: ("Skipped include '".toList ++
        '[' :: '/' :: (['x'] ++ ']' :: "' from /m.thrift[/yellow]".toList))) := by
    decide
  rw [hchars]
  exact .within _ (by decide) (.of_forall (by decide)) (by decide) (by decide)

theorem exists_misclosed_note :
    ∃ skipped ∈ ((plainRequest "m.thrift").resolution 60 taggedDisk).skipped,
      Misclosed (skipNote skipped).toList := by
  rw [skipped_tagged]
  exact ⟨_, List.mem_cons_self, misclosed_note⟩

theorem misclosed_name : Misclosed (Path.ofString "[/x].thrift").text.toList := by
  have hchars : (Path.ofString "[/x].thrift").text.toList =
      [] ++ '[' :: '/' :: (['x'] ++ ']' :: ".thrift".toList) := by
    decide
  rw [hchars]
  exact .first _ (.of_forall (by decide)) (by decide)

theorem exists_misclosed_name :
    ∃ file ∈ [Path.ofString "[/x].thrift"], Misclosed file.text.toList :=
  ⟨_, List.mem_cons_self, misclosed_name⟩

/-- A file that includes a path with a closing tag is not parsed with exit code zero, though it can
be shown, and one at such a path is not checked with exit code zero, though it is good. -/
theorem exitCode_of_request_sample : (Teletype.host 60 80).console.Lawful ∧
    ((Teletype.host 60 80).arguments ["parse", "m.thrift"] =
        .ok (.parse (plainRequest "m.thrift")) ∧ (plainRequest "m.thrift").out = none ∧
      IsShowable 60 taggedDisk (plainRequest "m.thrift") ∧
      (run (Teletype.host 60 80) taggedDisk ["parse", "m.thrift"]).exitCode = 1) ∧
    ((Teletype.host 60 80).arguments ["check", "[/x].thrift"] =
        .ok (.check [.ofString "[/x].thrift"]) ∧
      IsGood 60 taggedDisk (.ofString "[/x].thrift") ∧
      (run (Teletype.host 60 80) taggedDisk ["check", "[/x].thrift"]).exitCode = 1) ∧
    (Teletype.host 60 80).arguments ["check", "m.thrift"] =
        .ok (.check [.ofString "m.thrift"]) ∧
      (run (Teletype.host 60 80) taggedDisk ["check", "m.thrift"]).exitCode = 0 := by
  have hlawful : (Teletype.host 60 80).console.Lawful := Teletype.lawful_console 80
  refine ⟨hlawful, ⟨rfl, rfl, isShowable_tagged, ?_⟩, ⟨rfl, isGood_tagged, ?_⟩, rfl, ?_⟩
  · exact ((exitCode_of_request hlawful taggedDisk _).1 _ rfl rfl).2.2.2 exists_misclosed_note
  · exact ((exitCode_of_request hlawful taggedDisk _).2 _ rfl).2.2.2 exists_misclosed_name
  · have hgood : IsGood 60 taggedDisk (.ofString "m.thrift") := isGood_of_any (by decide +kernel)
    exact (((exitCode_of_request hlawful taggedDisk _).2 _ rfl).2.2.1
      (List.forall_mem_singleton.2 (by decide))).2 (List.forall_mem_singleton.2 hgood)

/-- Closing tags in the names of checked files and skipped includes end a command whose work is
done. -/
theorem not_exitCode_of_request :
    (¬∀ (host : Host) (disk : Disk) (arguments : List String) (request : ParseRequest),
      host.console.Lawful → host.arguments arguments = .ok (.parse request) →
        request.out = none → disk.contains request.file = .ok true →
          (∃ document, (request.resolution host.limit disk).result = .ok document) →
            (run host disk arguments).exitCode = 0) ∧
    ¬∀ (host : Host) (disk : Disk) (arguments : List String) (files : List Path),
      host.console.Lawful → host.arguments arguments = .ok (.check files) →
        (∀ file ∈ files, IsGood host.limit disk file) →
          (run host disk arguments).exitCode = 0 := by
  have hlawful : (Teletype.host 60 80).console.Lawful := Teletype.lawful_console 80
  constructor
  · intro h
    obtain ⟨hthere, document, hresult, -⟩ := isShowable_tagged
    have hzero := h (Teletype.host 60 80) taggedDisk ["parse", "m.thrift"]
      (plainRequest "m.thrift") hlawful rfl rfl hthere ⟨document, hresult⟩
    rw [exitCode_of_misclosed_note hlawful rfl rfl exists_misclosed_note] at hzero
    cases hzero
  · intro h
    have hzero := h (Teletype.host 60 80) taggedDisk ["check", "[/x].thrift"]
      [.ofString "[/x].thrift"] hlawful rfl (List.forall_mem_singleton.2 isGood_tagged)
    rw [exitCode_of_misclosed_name hlawful rfl exists_misclosed_name] at hzero
    cases hzero

end ThriftSchema.Command
