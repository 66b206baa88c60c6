import ThriftSchema.Proofs.Assembly.Tame
import ThriftSchema.Proofs.Confined.Part
import ThriftSchema.Proofs.Reading
import ThriftSchema.Proofs.Rule.Depth

set_option autoImplicit false

/-! # The discipline of the stack

Wherever a match of a document comes to a header, a definition or another part that is one node,
and the part matches, there is one entry more on the stack than before, of the kind of the part;
what was there before is still there, and the frame is what it was. The entry is that of the text
that the part took: it is the same where this text is all there is and nothing is on the stack.

Definitions take the parts of their lists off the stack without a boundary. So what is said of
them rests on where they are matched: only behind headers and other definitions.

* `Kind`: the productions that push one entry, with their nodes and entries.
* `ready_of_reached`: where definitions are matched.
* `Kind.PushesOne`: one entry more, which is that of the text alone.
* `document_keeps_discipline`: every invocation that a match of a document comes to.
-/

namespace ThriftSchema

/-- The productions that push one entry. -/
inductive Kind where
  | header | definition | enumValue | function | field | fieldType | constant | throws | attributes

namespace Kind

/-- The production of a kind. -/
def production (options : BuildOptions) : Kind → Production
  | header => Production.header
  | definition => Production.definition options
  | enumValue => Production.enumValue
  | function => Production.function
  | field => Production.field options
  | fieldType => Production.fieldType
  | constant => Production.constant
  | throws => Production.throws
  | attributes => Production.attributes

/-- The parts of a document that a production of a kind is about. -/
def Node : Kind → Type
  | header => Header
  | definition => Definition
  | enumValue => EnumValue
  | function => Function
  | field => Field
  | fieldType => FieldType
  | constant => ConstValue
  | throws | attributes => List Field

/-- The entry of a part. -/
def entry : (k : Kind) → k.Node → Entry
  | header => Entry.header
  | definition => Entry.definition
  | enumValue => Entry.enumValue
  | function => Entry.function
  | field => Entry.field
  | fieldType => FieldType.entry
  | constant => ConstValue.entry
  | throws => Entry.throws
  | attributes => attributesEntry

/-- The reader of a kind, where references nest down to a depth below the production. -/
def reader (options : BuildOptions) (depth : Nat) : (k : Kind) → PartReader k.Node
  | header => Reader.header
  | definition => Reader.definition options depth
  | enumValue => Reader.enumValue
  | function => Reader.function (Reader.fieldType depth) (Reader.field options depth)
  | field => Reader.field options (depth + 1)
  | fieldType => Reader.fieldType (depth + 1)
  | constant => Reader.constant (depth + 1)
  | throws => Reader.throws (Reader.field options depth)
  | attributes => Reader.attributes (Reader.field options depth)

variable {options : BuildOptions} {depth : Nat}

/-- A production of a kind pushes what its reader reads. -/
theorem agrees (k : Kind) (s : State Entry) (hready : k = .definition → Ready s.stack) :
    Agrees s ((k.production options).run ((Production.rules options).call depth) s)
      (fun a => (k.entry a :: s.stack, s.frame)) (k.reader options depth s.cursor.rest) := by
  have htype := Pushes.fieldTypeRef options depth
  have hconstant := Pushes.constantRef options depth
  have hfield := Pushes.fieldRef options depth
  cases k with
  | header => exact Pushes.header _ _ s rfl rfl
  | definition => exact Defines.definition options depth _ _ (hready rfl) s rfl rfl
  | enumValue => exact Pushes.enumValue _ _ s rfl rfl
  | function => exact Pushes.function htype hfield _ _ s rfl rfl
  | field => exact Pushes.fieldOver options htype hconstant hfield _ _ s rfl rfl
  | fieldType => exact Pushes.fieldType htype _ _ s rfl rfl
  | constant => exact Pushes.constant hconstant _ _ s rfl rfl
  | throws => exact Pushes.throws hfield _ _ s rfl rfl
  | attributes => exact Pushes.attributes hfield _ _ s rfl rfl

/-- What a production of a kind takes it takes from that text alone. -/
theorem confined (k : Kind) : ∃ R, Confined R (k.reader options depth) Ended := by
  -- the empty text in front of the cut is what all parts may end in front of
  have hquits : ∀ {m r : List Char}, Ended m r → Quits m r := by
    rintro m r rfl
    exact quits_nil r
  have hafter : ∀ {m r : List Char}, Ended m r → AfterType m := by
    rintro m r rfl
    exact ⟨notAhead_nil _, .of_notAhead (notAhead_nil _)⟩
  cases k with
  | header => exact ⟨_, Confined.header⟩
  | definition => exact ⟨_, Confined.definition depth⟩
  | enumValue => exact ⟨_, Confined.enumValue.mono (fun hm => hm) fun hm => hm ▸ notAhead_nil _⟩
  | function => exact ⟨_, (Confined.function depth).mono (fun hm => hm) hquits⟩
  | field => exact ⟨_, (Confined.field (depth + 1)).mono (fun hm => hm) hquits⟩
  | fieldType => exact ⟨_, (Confined.fieldType (depth + 1)).mono (fun hm => hm) hafter⟩
  | constant => exact ⟨_, Confined.constant (depth + 1)⟩
  | throws => exact ⟨_, Confined.throws⟩
  | attributes => exact ⟨_, Confined.attributes⟩

end Kind

/-! ## Where definitions are matched -/

section Ready

variable {options : BuildOptions} {depth : Nat}

/-- Definitions come on the stack one by one. -/
theorem Rounds.headStack {headers : List Header} {definitions : List Definition}
    {s t : State Entry}
    (h : Rounds ((Production.definition options).run ((Production.rules options).call depth)) s t)
    (hs : s.stack = headStack headers definitions) :
    ∃ definitions, t.stack = ThriftSchema.headStack headers definitions := by
  induction h generalizing definitions with
  | here s => exact ⟨definitions, hs⟩
  | @next s t hmatched hmoves hrest ih =>
      have hready : Ready s.stack := by
        rw [hs]
        exact ready_headStack headers definitions
      have hagrees := Defines.definition options depth _ s.frame hready s rfl rfl
      obtain ⟨d, -, hmoves⟩ := hagrees.read hmatched
      have hstack : (((Production.definition options).run ((Production.rules options).call depth)
          s).state).stack = ThriftSchema.headStack headers (definitions ++ [d]) := by
        rw [ThriftSchema.headStack, Reduction.pushAll_concat, ← ThriftSchema.headStack, ← hs]
        exact hmoves.stack_eq
      exact ih hstack

/-- No rule with a name is as large as a definition. -/
theorem size_lt_definition {name : String} {rule : Production}
    (h : (Production.rules options).find? name = some rule) :
    rule.size < (Production.definition options).size := by
  have h' : Production.find? options name = some rule := h
  unfold Production.find? at h'
  split at h' <;> cases h' <;> exact Nat.le_of_ble_eq_true rfl

/-- Where a definition is matched, there are headers and definitions on the stack. -/
theorem headStack_of_reached {input : List Char} {i : Invocation Entry BuildError}
    (h : Reached (Production.rules options)
      ⟨depth, Production.document options, State.initial input⟩ i)
    (hi : i.rule = Production.definition options) :
    ∃ headers definitions, i.state.stack = headStack headers definitions := by
  have hsize : i.rule.size = (Production.definition options).size := congrArg Rule.size hi
  have hnamed : ∀ name rule, (Production.rules options).find? name = some rule →
      rule.size < (Production.definition options).size := fun _ _ => size_lt_definition
  -- layout and headers come first
  obtain ⟨hlayout, h⟩ :=
    h.seq_rest hnamed hsize (Nat.le_of_ble_eq_true rfl) (Nat.le_of_ble_eq_true rfl)
  have hperforms : Performs ((Production.rules options).call depth) Production.layout ([], [])
      Reader.layout (fun _ => ([], [])) := Performs.layout
  obtain ⟨_, -, hmoves⟩ := (hperforms (State.initial input) rfl rfl).read hlayout
  generalize (Production.layout.run ((Production.rules options).call depth)
    (State.initial input)).state = s at h hmoves
  obtain ⟨hheaders, h⟩ :=
    h.seq_rest hnamed hsize (Nat.le_of_ble_eq_true rfl) (Nat.le_of_ble_eq_true rfl)
  have hperforms : Performs ((Production.rules options).call depth) (.star Production.header)
      ([], []) (Reader.many Reader.header)
      (fun headers => (Reduction.pushAll Entry.header headers [], [])) :=
    Performs.starPush Pushes.header
  obtain ⟨headers, -, hmoves⟩ := (hperforms s hmoves.stack_eq hmoves.frame_eq).read hheaders
  -- the definition is a round of the repetition behind them
  have h := h.seq_first hnamed hsize (Nat.le_of_ble_eq_true rfl) (Nat.le_of_ble_eq_true rfl)
  obtain ⟨t, hrounds, rfl⟩ := h.star_round hnamed hsize rfl
  have hstart : ((Rule.star Production.header).run ((Production.rules options).call depth)
      s).state.stack = headStack headers [] := hmoves.stack_eq
  exact ⟨headers, hrounds.headStack hstart⟩

/-- Where a definition is matched, nothing on top of the stack belongs into its lists. -/
theorem ready_of_reached {input : List Char} {i : Invocation Entry BuildError}
    (h : Reached (Production.rules options)
      ⟨depth, Production.document options, State.initial input⟩ i)
    (hi : i.rule = Production.definition options) : Ready i.state.stack := by
  obtain ⟨headers, definitions, hstack⟩ := headStack_of_reached h hi
  rw [hstack]
  exact ready_headStack headers definitions

end Ready

/-! ## One entry more -/

namespace Kind

variable {limit : Nat} {options : BuildOptions}

/-- Run on a text with nothing on the stack, a production takes the text and leaves one entry. -/
def PushesAlone (limit : Nat) (options : BuildOptions) (k : Kind) (taken : List Char)
    (node : k.Node) : Prop :=
  let r := (Production.rules options).run limit (k.production options) (State.initial taken)
  r.outcome = .matched ∧ r.state.toMark = ⟨⟨taken.length, []⟩, [k.entry node], []⟩

/-- There is one entry more on the stack after a production, the frame is what it was, and the
entry is that of the text that the production took. -/
def PushesOne (limit : Nat) (options : BuildOptions) (k : Kind) (s s' : State Entry) : Prop :=
  ∃ node taken, s'.stack = k.entry node :: s.stack ∧ s'.frame = s.frame ∧
    s.cursor.rest = taken ++ s'.cursor.rest ∧ k.PushesAlone limit options taken node

/-- What a production reads with less depth it pushes with the whole limit. -/
theorem pushesAlone_of_read (k : Kind) {depth : Nat} (hdepth : depth ≤ limit)
    {taken : List Char} {node : k.Node} (h : k.reader options depth taken = .read node []) :
    k.PushesAlone limit options taken node := by
  have hagrees := @agrees options depth k (State.initial taken) fun _ => ready_nil
  have hrest : (State.initial taken : State Entry).cursor.rest = taken := rfl
  rw [hrest, h] at hagrees
  obtain ⟨hmatched, text, htext, hmark⟩ := hagrees
  have htext : taken = text ++ [] := htext
  obtain rfl : taken = text := by rwa [List.append_nil] at htext
  have hextends := Rule.run_extends
    (fun name s => Rules.call_extends (Production.rules options) hdepth name s)
    (k.production options) (State.initial taken)
  -- a match has not run out of depth, so more depth does not change it
  rcases hextends with hdeep | hsame
  · rw [hmatched] at hdeep
    cases hdeep
  · have hrun : (Production.rules options).run limit (k.production options) (State.initial taken) =
        (k.production options).run ((Production.rules options).call depth)
          (State.initial taken) := hsame
    refine ⟨hrun ▸ hmatched, ?_⟩
    rw [hrun, hmark]
    simp [State.initial, Cursor.at]

theorem pushesOne_of_matched (k : Kind) {depth : Nat} (hdepth : depth ≤ limit)
    {s : State Entry} (hready : k = .definition → Ready s.stack)
    (hmatched : ((k.production options).run ((Production.rules options).call depth) s).outcome =
      .matched) :
    k.PushesOne limit options s
      ((k.production options).run ((Production.rules options).call depth) s).state := by
  obtain ⟨node, hread, hmoves⟩ := (k.agrees s hready).read hmatched
  obtain ⟨taken, htaken, -⟩ := id hmoves
  obtain ⟨R, hconfined⟩ := @confined options depth k
  rw [htaken] at hread
  -- what stands behind the text that was taken did not matter
  exact ⟨node, taken, hmoves.stack_eq, hmoves.frame_eq, htaken,
    k.pushesAlone_of_read hdepth (hconfined.read_alone hread)⟩

end Kind

/-- The invocation that a text is read with. -/
def Invocation.ofText (limit : Nat) (options : BuildOptions) (text : String) :
    Invocation Entry BuildError :=
  ⟨limit, Production.document options, State.initial (stripComments text).toList⟩

/-- Whatever a match of a document comes to keeps the discipline of the stack: a part that is one
node pushes the entry of its own text on what was there before; a scope gives back the frame; and
a match breaks off only where the text is to blame, so that no part is ever missing. A text that
matches leaves one document, which is what reading gives. -/
theorem document_keeps_discipline (limit : Nat) (options : BuildOptions) (text : String) :
    (∀ i, Reached (Production.rules options) (Invocation.ofText limit options text) i →
      (∀ k : Kind, i.rule = k.production options →
        (i.result (Production.rules options)).outcome = .matched →
        k.PushesOne limit options i.state (i.result (Production.rules options)).state) ∧
      (∀ rule, i.rule = .scope rule →
        (i.result (Production.rules options)).state.frame = i.state.frame) ∧
      ∀ stop, (i.result (Production.rules options)).outcome = .stopped stop → stop.IsOfText) ∧
    ∀ source state, matchDocument limit options text source = .ok state →
      ∃ d, state.stack = [.document d] ∧ Document.ofText limit options text source = .ok d := by
  refine ⟨fun i hreached => ⟨fun k hrule hmatched => ?_, fun rule hrule => ?_, ?_⟩, ?_⟩
  -- a part that is one node
  · obtain ⟨depth, rule, s⟩ := i
    obtain rfl : rule = k.production options := hrule
    refine k.pushesOne_of_matched hreached.depth_le (fun hk => ?_) hmatched
    exact ready_of_reached hreached (by rw [hk]; rfl)
  · obtain ⟨depth, rule', s⟩ := i
    obtain rfl : rule' = .scope rule := hrule
    rfl
  -- a part that breaks off breaks the whole off, and that is the text's fault
  · refine hreached.stopped (fun h => h) fun stop hstop => ?_
    have hagrees := agrees_document limit options (stripComments text).toList
    exact (hagrees.stopped hstop).2
  · intro source state hmatch
    have hends := matchEnds_document limit options text source
    rw [hmatch] at hends
    generalize Reader.document options limit (stripComments text).toList = p at hends
    cases hends with
    | read hstack hframe hcursor =>
        refine ⟨_, hstack, ?_⟩
        unfold Document.ofText
        simp only [hmatch, takeDocument_of_stack hstack]

end ThriftSchema
