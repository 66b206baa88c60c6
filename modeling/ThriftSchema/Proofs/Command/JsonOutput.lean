import ThriftSchema.Proofs.Command.Session
import ThriftSchema.Proofs.Json
import ThriftSchema.Proofs.Teletype.Host

set_option autoImplicit false

/-! # JSON on the screen

A document that is shown as JSON is printed as its value and nothing else, unless an include was
left out: the notes on those are printed in front of it, so that the text as a whole is no JSON
value any more. This holds on every console that keeps the laws.

* `head?_of_note`: how a note starts.
* `text_ne_of_notes`: a text behind notes is no value.
* `printed_json`: what is printed of a document as JSON.
-/

namespace ThriftSchema.Command

/-! ## What stands in front of a document -/

/-- A note starts with what it says, or with a control character. -/
theorem head?_of_note {console : Console} (hconsole : console.Lawful) {skipped : SkippedInclude}
    {note : String} (h : console.text (skipNote skipped) = .ok note) :
    note.toList.head? = some 'S' ∨ note.toList.head? = some '\x1b' :=
  hconsole.starts "yellow" (by decide) _ note 'S'
    (by simp only [String.toList_append, List.append_assoc]; rfl) (by decide) h

theorem head?_of_notes {console : Console} (hconsole : console.Lawful)
    {skipped : List SkippedInclude} {notes : List String} (h : NotedAs console skipped notes)
    (hsome : skipped ≠ []) (behind : String) :
    (String.join notes ++ behind).toList.head? = some 'S' ∨
      (String.join notes ++ behind).toList.head? = some '\x1b' := by
  cases h with
  | nil => exact absurd rfl hsome
  | @cons first note rest others hnote hothers =>
      have hhead : ∀ c, note.toList.head? = some c →
          (String.join (note :: others) ++ behind).toList.head? = some c := by
        intro c hc
        obtain ⟨cs, hcs⟩ := List.head?_eq_some_iff.1 hc
        simp [String.join_cons, hcs]
      exact (head?_of_note hconsole hnote).imp (hhead _) (hhead _)

/-- With a note in front of it, a text is no value. -/
theorem text_ne_of_notes {console : Console} (hconsole : console.Lawful)
    {skipped : List SkippedInclude} {notes : List String} (h : NotedAs console skipped notes)
    (hsome : skipped ≠ []) (behind : String) (value : Json) :
    String.join notes ++ behind ≠ value.text ++ "\n" := by
  intro heq
  -- a note starts with a character that no value starts with
  have hhead := head?_of_notes hconsole h hsome behind
  rw [heq] at hhead
  rcases hhead with hhead | hhead <;>
    exact absurd (Json.startsLine_of_head? hhead) (by decide)

variable {host : Host} {disk : Disk} {arguments : List String} {request : ParseRequest}

/-- What is printed of a document: the notes, and its value behind them. -/
theorem exists_notes_of_json (hconsole : host.console.Lawful)
    (hrequest : host.arguments arguments = .ok (.parse request))
    (hjson : request.json = true) (hout : request.out = none)
    (hexit : (run host disk arguments).exitCode = 0) :
    ∃ document notes, (request.resolution host.limit disk).result = .ok document ∧
      NotedAs host.console (request.resolution host.limit disk).skipped notes ∧
      (run host disk arguments).printed =
        .ok (String.join notes ++ (document.toJson.text ++ "\n")) := by
  obtain ⟨s, hperform⟩ := (exitCode_eq_zero_iff hrequest).1 hexit
  obtain ⟨-, document, hresult, -, notes, shown, hnotes, hshown, rfl⟩ :=
    (perform_parse_eq_ok hout).1 hperform
  refine ⟨document, notes, hresult, hnotes, ?_⟩
  rw [run_eq hrequest, hperform]
  cases hshown with
  | json => simp [Screen.add, hconsole.echo _ document.toJson.isAscii_text]
  | tree h => simp [hjson] at h

/-- **A document that is shown as JSON is printed as its value.** Includes that were left out are
noted in front of it, and then the whole is no value. -/
theorem printed_json (hconsole : host.console.Lawful)
    (hrequest : host.arguments arguments = .ok (.parse request))
    (hjson : request.json = true) (hout : request.out = none)
    (hexit : (run host disk arguments).exitCode = 0) :
    ∃ document notes, (request.resolution host.limit disk).result = .ok document ∧
      NotedAs host.console (request.resolution host.limit disk).skipped notes ∧
      (run host disk arguments).printed =
        .ok (String.join notes ++ (document.toJson.text ++ "\n")) ∧
      ((request.resolution host.limit disk).skipped = [] →
        (run host disk arguments).printed = .ok (document.toJson.text ++ "\n")) ∧
      ((request.resolution host.limit disk).skipped ≠ [] →
        ∀ value : Json, (run host disk arguments).printed ≠ .ok (value.text ++ "\n")) := by
  obtain ⟨document, notes, hresult, hnotes, hprinted⟩ :=
    exists_notes_of_json hconsole hrequest hjson hout hexit
  refine ⟨document, notes, hresult, hnotes, hprinted, fun hnone => ?_, fun hsome value h => ?_⟩
  · rw [hnone] at hnotes
    cases hnotes
    rw [hprinted, String.join_nil, String.empty_append]
  · rw [hprinted] at h
    exact text_ne_of_notes hconsole hnotes hsome _ value (Except.ok.inj h)

/-- A disk with one file, which includes a file that is not there. -/
def looseDisk : Disk :=
  ⟨.folder [("m.thrift", .file "include \"x.thrift\"\nstruct S \x7b\x7d".toUTF8.toList)],
    .ofString "/"⟩

/-- The arguments that ask for that file as JSON. -/
def looseArguments : List String := ["parse", "m.thrift", "--json"]

/-- The request of these arguments. -/
def looseRequest : ParseRequest :=
  ⟨.ofString "m.thrift", none, false, false, false, true, none⟩

theorem arguments_loose :
    (Teletype.host 60 80).arguments looseArguments = .ok (.parse looseRequest) := rfl

theorem exitCode_loose : (run (Teletype.host 60 80) looseDisk looseArguments).exitCode = 0 := by
  decide +kernel

theorem skipped_loose : (looseRequest.resolution 60 looseDisk).skipped =
    [⟨"x.thrift", "/m.thrift", "Source not found: x.thrift"⟩] := by
  decide +kernel

theorem skipped_loose_ne_nil : (looseRequest.resolution 60 looseDisk).skipped ≠ [] := by
  rw [skipped_loose]
  exact List.cons_ne_nil _ _

/-- With an include that is not there, no JSON value is printed. -/
theorem printed_json_sample : (Teletype.host 60 80).console.Lawful ∧
    (Teletype.host 60 80).arguments looseArguments = .ok (.parse looseRequest) ∧
    looseRequest.json = true ∧ looseRequest.out = none ∧
    (run (Teletype.host 60 80) looseDisk looseArguments).exitCode = 0 ∧
    (looseRequest.resolution 60 looseDisk).skipped ≠ [] ∧
    (∃ document notes, (looseRequest.resolution 60 looseDisk).result = .ok document ∧
      NotedAs (Teletype.console 80) (looseRequest.resolution 60 looseDisk).skipped notes ∧
      (run (Teletype.host 60 80) looseDisk looseArguments).printed =
        .ok (String.join notes ++ (document.toJson.text ++ "\n"))) ∧
    ∀ value : Json,
      (run (Teletype.host 60 80) looseDisk looseArguments).printed ≠ .ok (value.text ++ "\n") := by
  obtain ⟨document, notes, hresult, hnotes, hprinted, -, hnone⟩ :=
    printed_json (Teletype.lawful_console 80) arguments_loose rfl rfl exitCode_loose
  exact ⟨Teletype.lawful_console 80, arguments_loose, rfl, rfl, exitCode_loose,
    skipped_loose_ne_nil, ⟨document, notes, hresult, hnotes, hprinted⟩, hnone skipped_loose_ne_nil⟩

/-- So it is not the document alone that is printed whenever it can be shown as JSON. -/
theorem not_printed_json :
    ¬∀ (host : Host) (disk : Disk) (arguments : List String) (request : ParseRequest),
      host.console.Lawful → host.arguments arguments = .ok (.parse request) →
        request.json = true → request.out = none → (run host disk arguments).exitCode = 0 →
          ∃ document, (request.resolution host.limit disk).result = .ok document ∧
            (run host disk arguments).printed = .ok (document.toJson.text ++ "\n") := by
  intro h
  obtain ⟨document, -, hprinted⟩ := h (Teletype.host 60 80) looseDisk looseArguments looseRequest
    (Teletype.lawful_console 80) arguments_loose rfl rfl exitCode_loose
  obtain ⟨other, notes, -, hnotes, hnoted⟩ :=
    exists_notes_of_json (Teletype.lawful_console 80) arguments_loose rfl rfl exitCode_loose
  rw [hnoted] at hprinted
  exact text_ne_of_notes (Teletype.lawful_console 80) hnotes skipped_loose_ne_nil _ _
    (Except.ok.inj hprinted)

end ThriftSchema.Command
