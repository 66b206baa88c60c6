import ThriftSchema.Proofs.Canonical.Member

set_option autoImplicit false

/-! # Reading canonical documents

Every definition and header starts with a word of its own, which the readers of the others fail
at. So the tokens of a document are read back as the document.
-/

namespace ThriftSchema.Canonical

open Reader (fieldType constant)

variable {s : Spelling} {left : List String} {depth : Nat} {options : BuildOptions}

/-! ## Enumerations -/

theorem reads_enumValue {v : EnumValue} (h : Spelling.EnumValueFits v) (left : List String) :
    Reads Reader.enumValue (Spelling.enumValue v ++ left) v left := by
  obtain ⟨name, value, counted⟩ := v
  obtain ⟨hname, hvalue, hcounted⟩ := h
  obtain rfl : counted = false := hcounted
  cases value with
  | none =>
      have hstart : StartsIn (Reader.assigned
          ((Reader.hexadecimal <|> Reader.integer <|> Reader.fail) : PartReader Int)) (· == '=') :=
        StartsIn.assigned _
      have hnone : Fails _ ("," :: left) := .of_not hstart (by decide) (by decide)
      exact (reads_identifier hname).bind <| hnone.optional.bind <| reads_separator.bind .pure
  | some n =>
      have hnumber : Reads (Reader.hexadecimal <|> Reader.integer <|> Reader.fail)
          (toString n :: "," :: left) n ("," :: left) :=
        .orElse_of_fails (fails_hexadecimal_of_integer n) (reads_integer (hvalue n rfl)).orElse
      have hassigned : Reads (Reader.assigned (Reader.hexadecimal <|> Reader.integer <|>
          Reader.fail)) ("=" :: toString n :: "," :: left) n ("," :: left) :=
        (reads_symbol (by decide)).bind hnumber
      exact (reads_identifier hname).bind <| hassigned.optional.bind <| reads_separator.bind .pure

/-- The values of an enumeration, up to the brace behind them. -/
theorem reads_enumValues {values : List EnumValue} (h : ∀ v ∈ values, Spelling.EnumValueFits v) :
    Reads (Reader.many Reader.enumValue) (values.flatMap Spelling.enumValue ++ "\x7d" :: left)
      values ("\x7d" :: left) := by
  refine Reads.many (fun v hv => ?_) ?_
  · have hvisible := visible_of_begins_isNameStart (begins_of_isWord (h v hv).name)
    obtain ⟨name, value, counted⟩ := v
    cases value with
    | none => exact ⟨name, _, rfl, hvisible, reads_enumValue (h _ hv)⟩
    | some n => exact ⟨name, _, rfl, hvisible, reads_enumValue (h _ hv)⟩
  · exact .of_not (StartsIn.identifier.bind _) (by decide) (by decide)

/-- Literals, up to the brace behind them. -/
theorem reads_literals {values : List String} (h : ∀ text ∈ values, s.LiteralFits text) :
    Reads (Reader.many Reader.literalItem)
      ((values.flatMap fun text => [s.literal text, ","]) ++ "\x7d" :: left)
      values ("\x7d" :: left) := by
  refine Reads.many (fun text htext => ?_) ?_
  · refine ⟨_, _, rfl, visible_literal (h text htext), fun left => ?_⟩
    exact (reads_literal (h text htext)).bind <| reads_separator.bind .pure
  · exact .of_not (StartsIn.literal.bind _) (by decide) (by decide)

/-! ## Definitions -/

section

variable {name : String}

theorem reads_const {type : FieldType} {value : ConstValue} (htype : s.TypeFits depth type)
    (hname : IsName name.toList) (hvalue : s.ConstantFits depth value) :
    Reads (Reader.const depth) (s.definition (.const type name value) ++ left)
      (.const type name value) left := by
  have hafter : AfterType (name :: "=" :: (s.constant value ++ "," :: left)) :=
    afterType_name hname (notAhead_cons.2 (by decide))
  simp only [Spelling.definition, List.append_assoc, List.cons_append, List.nil_append]
  exact (reads_word (by decide)).bind <| (reads_fieldType htype _ hafter).bind <|
    (reads_identifier hname).bind <| (reads_symbol (by decide)).bind <|
    (reads_constant hvalue _).bind <| reads_separator.bind .pure

theorem reads_typedef {type : FieldType} (htype : s.TypeFits (depth + 1) type)
    (hnew : ∀ other, type ≠ .named other) (hname : IsName name.toList) :
    Reads (Reader.typedef depth) (s.definition (.typedef type name) ++ left)
      (.typedef type name) left := by
  have hafter : AfterType (name :: "," :: left) :=
    afterType_name hname (notAhead_cons.2 (by decide))
  simp only [Spelling.definition, List.append_assoc, List.cons_append, List.nil_append]
  exact (reads_word (by decide)).bind <| (reads_definitionType htype hnew hafter).bind <|
    (reads_identifier hname).bind <| reads_separator.bind .pure

theorem reads_enum (hcount : options.numberEnums = false) {values : List EnumValue}
    (hname : IsName name.toList) (hvalues : ∀ v ∈ values, Spelling.EnumValueFits v) :
    Reads (Reader.enum options) (s.definition (.enum name values) ++ left) (.enum name values)
      left := by
  have hread : Reads (Reader.enum options) (s.definition (.enum name values) ++ left)
      (.enum name (Reader.countedValues options values)) left := by
    simp only [Spelling.definition, List.append_assoc, List.cons_append, List.nil_append]
    exact (reads_word (by decide)).bind <| (reads_identifier hname).bind <|
      (reads_symbol (by decide)).bind <| (reads_enumValues hvalues).bind <|
      (reads_symbol (by decide)).bind .pure
  have hsame : Reader.countedValues options values = values := by
    rw [Reader.countedValues, if_neg (by simp [hcount])]
  rwa [hsame] at hread

theorem reads_senum {values : List String} (hname : IsName name.toList)
    (hvalues : ∀ text ∈ values, s.LiteralFits text) :
    Reads Reader.senum (s.definition (.senum name values) ++ left) (.senum name values) left := by
  simp only [Spelling.definition, List.append_assoc, List.cons_append, List.nil_append]
  exact (reads_word (by decide)).bind <| (reads_identifier hname).bind <|
    (reads_symbol (by decide)).bind <| (reads_literals hvalues).bind <|
    (reads_symbol (by decide)).bind .pure

/-- Fields in braces. -/
theorem reads_fields_in_braces (hkeep : options.retainRequiredness = true) {fields : List Field}
    (hfields : ∀ f ∈ fields, s.FieldFits (depth + 2) f) :
    Reads (Reader.many (Reader.field options (depth + 2))) (s.fields fields ++ "\x7d" :: left)
      fields ("\x7d" :: left) :=
  reads_fields hfields (fun f hf => reads_field hkeep (hfields f hf))
    (.of_not (StartsIn.field options depth) (by decide) (by decide))

/-- A word, a name, a flag and fields. -/
theorem reads_flaggedFields (hkeep : options.retainRequiredness = true) {word : String}
    (hword : Visible word) {make : String → List Field → Bool → Definition} {fields : List Field}
    {exportAll : Bool} (hname : IsName name.toList)
    (hfields : ∀ f ∈ fields, s.FieldFits (depth + 2) f) :
    Reads (Reader.flaggedFields word make options (depth + 2))
      (word :: name :: (Spelling.flag "xsd_all" exportAll ++
        "\x7b" :: (s.fields fields ++ "\x7d" :: left))) (make name fields exportAll) left := by
  have hflag : Reads (Reader.flag "xsd_all") (Spelling.flag "xsd_all" exportAll ++
      "\x7b" :: (s.fields fields ++ "\x7d" :: left)) exportAll
      ("\x7b" :: (s.fields fields ++ "\x7d" :: left)) :=
    reads_flag (by decide) fun _ =>
      .of_not (StartsIn.word (by decide)) (by decide) (by decide)
  exact (reads_word hword).bind <| (reads_identifier hname).bind <| hflag.bind <|
    (reads_symbol (by decide)).bind <| (reads_fields_in_braces hkeep hfields).bind <|
    (reads_symbol (by decide)).bind .pure

theorem reads_exception (hkeep : options.retainRequiredness = true) {fields : List Field}
    (hname : IsName name.toList) (hfields : ∀ f ∈ fields, s.FieldFits (depth + 2) f) :
    Reads (Reader.exception options (depth + 2)) (s.definition (.exception name fields) ++ left)
      (.exception name fields) left := by
  simp only [Spelling.definition, List.append_assoc, List.cons_append, List.nil_append]
  exact (reads_word (by decide)).bind <| (reads_identifier hname).bind <|
    (reads_symbol (by decide)).bind <| (reads_fields_in_braces hkeep hfields).bind <|
    (reads_symbol (by decide)).bind .pure

theorem reads_parent {extended : Option String} (h : ∀ other ∈ extended, IsName other.toList) :
    Reads (Reader.optional Reader.parent) (Spelling.parent extended ++ "\x7b" :: left) extended
      ("\x7b" :: left) := by
  cases extended with
  | none =>
      have hstart : StartsIn Reader.parent (· == 'e') := (StartsIn.word_of_head (by decide)).bind _
      exact Fails.optional (.of_not hstart (by decide) (by decide))
  | some other =>
      have hread : Reads Reader.parent ("extends" :: other :: "\x7b" :: left) other
          ("\x7b" :: left) := (reads_word (by decide)).bind (reads_identifier (h other rfl))
      exact hread.optional

/-- The first token of a function. -/
theorem exists_token_function {f : Function} (h : s.FunctionFits depth f) :
    ∃ token others, s.function f = token :: others ∧ Visible token := by
  obtain ⟨returns, name, arguments, throws, oneway⟩ := f
  cases oneway with
  | true => exact ⟨"oneway", _, rfl, by decide⟩
  | false =>
      cases returns with
      | void => exact ⟨"void", _, rfl, by decide⟩
      | type type =>
          obtain ⟨token, others, htoken, hbegins, -, -⟩ := exists_token_type (h.returns type rfl)
          refine ⟨token, ?_, ?_, visible_of_begins_isNameStart hbegins⟩
          · exact others ++ name :: "(" :: (s.fields arguments ++ ")" :: (s.throws throws ++ [","]))
          · simp [Spelling.function, Spelling.flag, Spelling.returnType, htoken]

theorem reads_service (hkeep : options.retainRequiredness = true) {extended : Option String}
    {functions : List Function} (hname : IsName name.toList)
    (hextended : ∀ other ∈ extended, IsName other.toList)
    (hfunctions : ∀ f ∈ functions, s.FunctionFits (depth + 2) f) :
    Reads (Reader.service options (depth + 2))
      (s.definition (.service name extended functions) ++ left) (.service name extended functions)
      left := by
  have hmany : Reads
      (Reader.many (Reader.function (fieldType (depth + 2)) (Reader.field options (depth + 2))))
      (functions.flatMap s.function ++ "\x7d" :: left) functions ("\x7d" :: left) := by
    refine Reads.many (fun f hf => ?_) ?_
    · obtain ⟨token, others, htoken, hvisible⟩ := exists_token_function (hfunctions f hf)
      exact ⟨token, others, htoken, hvisible, reads_function hkeep (hfunctions f hf)⟩
    · exact .of_not (StartsIn.function _ (StartsIn.fieldType _)) (by decide) (by decide)
  simp only [Spelling.definition, List.append_assoc, List.cons_append, List.nil_append]
  exact (reads_word (by decide)).bind <| (reads_identifier hname).bind <|
    (reads_parent hextended).bind <| (reads_symbol (by decide)).bind <| hmany.bind <|
    (reads_symbol (by decide)).bind .pure

end

/-- A reader that starts with a word fails at another word, and the next one is tried. -/
theorem Reads.behind_word {α : Type} {f : Unit → PartReader α} {p : PartReader α} {a : α}
    {word token : String} {tokens : List String}
    (h : IsKeyword word ∧ word ≠ token ∧ Visible token ∧ RunsOn token)
    (hp : Reads p (token :: tokens) a left) :
    Reads ((Reader.word word >>= f) <|> p) (token :: tokens) a left :=
  .orElse_of_fails (.bind (fails_word h.1 h.2.1 h.2.2.1 h.2.2.2)) hp

/-- A definition is read back from its tokens. -/
theorem reads_definition (hkeep : options.retainRequiredness = true)
    (hcount : options.numberEnums = false) {d : Definition} (h : s.DefinitionFits (depth + 2) d)
    (left : List String) :
    Reads (Reader.definition options (depth + 2)) (s.definition d ++ left) d left := by
  -- the definitions that are tried before start with other words
  cases h with
  | const htype hname hvalue => exact (reads_const htype hname hvalue).orElse
  | typedef htype hnew hname =>
      exact .behind_word (by decide) (reads_typedef htype hnew hname).orElse
  | enum hname hvalues =>
      exact .behind_word (by decide) <| .behind_word (by decide)
        (reads_enum (s := s) hcount hname hvalues).orElse
  | senum hname hvalues =>
      exact .behind_word (by decide) <| .behind_word (by decide) <| .behind_word (by decide)
        (reads_senum hname hvalues).orElse
  | @struct name fields exportAll hname hfields =>
      have hread : Reads (Reader.struct options (depth + 2))
          (s.definition (.struct name fields exportAll) ++ left) (.struct name fields exportAll)
          left := by
        simp only [Spelling.definition, List.append_assoc, List.cons_append, List.nil_append]
        exact reads_flaggedFields hkeep (by decide) hname hfields
      exact .behind_word (by decide) <| .behind_word (by decide) <| .behind_word (by decide) <|
        .behind_word (by decide) hread.orElse
  | @union name fields exportAll hname hfields =>
      have hread : Reads (Reader.union options (depth + 2))
          (s.definition (.union name fields exportAll) ++ left) (.union name fields exportAll)
          left := by
        simp only [Spelling.definition, List.append_assoc, List.cons_append, List.nil_append]
        exact reads_flaggedFields hkeep (by decide) hname hfields
      exact .behind_word (by decide) <| .behind_word (by decide) <| .behind_word (by decide) <|
        .behind_word (by decide) <| .behind_word (by decide) hread.orElse
  | exception hname hfields =>
      exact .behind_word (by decide) <| .behind_word (by decide) <| .behind_word (by decide) <|
        .behind_word (by decide) <| .behind_word (by decide) <| .behind_word (by decide)
        (reads_exception hkeep hname hfields).orElse
  | service hname hextended hfunctions =>
      exact .behind_word (by decide) <| .behind_word (by decide) <| .behind_word (by decide) <|
        .behind_word (by decide) <| .behind_word (by decide) <| .behind_word (by decide) <|
        .behind_word (by decide) (reads_service hkeep hname hextended hfunctions).orElse

/-- The words that definitions start with. -/
def definitionWords : List String :=
  ["const", "typedef", "enum", "senum", "struct", "union", "exception", "service"]

/-- The first token of a definition. -/
theorem exists_token_definition (s : Spelling) (d : Definition) :
    ∃ token others, s.definition d = token :: others ∧ token ∈ definitionWords := by
  cases d with
  | const => exact ⟨"const", _, rfl, by decide⟩
  | typedef => exact ⟨"typedef", _, rfl, by decide⟩
  | enum => exact ⟨"enum", _, rfl, by decide⟩
  | senum => exact ⟨"senum", _, rfl, by decide⟩
  | struct => exact ⟨"struct", _, rfl, by decide⟩
  | union => exact ⟨"union", _, rfl, by decide⟩
  | exception => exact ⟨"exception", _, rfl, by decide⟩
  | service => exact ⟨"service", _, rfl, by decide⟩

/-! ## Headers -/

theorem reads_scopedName {scope name : String} (hscope : scope ∈ Production.namespaceScopes)
    (hname : IsName name.toList) :
    Reads Reader.scopedName (scope :: name :: left) (.targetNamespace scope name) left := by
  have hscopes : ∀ scope ∈ Production.namespaceScopes,
      IsKeyword scope ∧ Visible scope ∧ RunsOn scope := by decide
  have hword := hscopes scope hscope
  exact (reads_oneOf hscope (fun t ht => (hscopes t ht).1) hword.2.1 hword.2.2).bind <|
    (reads_identifier hname).map

theorem fails_smalltalk {scope : String} (hscope : scope ∈ Production.namespaceScopes)
    {α : Type} {f : Unit → PartReader α} {word : String} {tokens : List String}
    (hword : word ∈ ["smalltalk.category", "smalltalk.prefix"]) :
    Fails (Reader.word word >>= f) (scope :: tokens) := by
  have hall : ∀ word ∈ ["smalltalk.category", "smalltalk.prefix"],
      ∀ scope ∈ Production.namespaceScopes,
        IsKeyword word ∧ word ≠ scope ∧ Visible scope ∧ RunsOn scope := by decide
  have h := hall word hword scope hscope
  exact .bind (fails_word h.1 h.2.1 h.2.2.1 h.2.2.2)

/-- A header is read back from its tokens. -/
theorem reads_header {header : Header} (h : s.HeaderFits header) (left : List String) :
    Reads Reader.header (s.header header ++ left) header left := by
  have hliteral : ∀ {word text : String} {make : String → Header}, Visible word →
      s.LiteralFits text → Reads (Reader.literalHeader word make)
        (word :: s.literal text :: left) (make text) left :=
    fun hword htext => (reads_word hword).bind (reads_literal htext).map
  have hnamespace : ∀ {tokens : List String} {header : Header},
      Reads (Reader.smalltalkCategory <|> Reader.smalltalkPrefix <|> Reader.scopedName <|>
        Reader.fail) tokens header left →
      Reads Reader.header ("namespace" :: tokens) header left := fun hrest =>
    .behind_word (by decide) <| .behind_word (by decide) <|
      ((reads_word (by decide)).bind hrest).orElse
  cases h with
  | «include» h => exact (hliteral (by decide) h).orElse
  | cppInclude h => exact .behind_word (by decide) (hliteral (by decide) h).orElse
  | targetNamespace hscope hname =>
      exact hnamespace <| .orElse_of_fails (fails_smalltalk hscope (by decide)) <|
        .orElse_of_fails (fails_smalltalk hscope (by decide)) (reads_scopedName hscope hname).orElse
  | @phpNamespace name h htrim =>
      have hread : Reads (Reader.literalHeader "php_namespace" fun text =>
          .phpNamespace (Text.trim text)) ("php_namespace" :: s.literal name :: left)
          (.phpNamespace (Text.trim name)) left := hliteral (by decide) h
      rw [htrim] at hread
      exact .behind_word (by decide) <| .behind_word (by decide) <| .behind_word (by decide)
        hread.orElse
  | @xsdNamespace name h htrim =>
      have hread : Reads (Reader.literalHeader "xsd_namespace" fun text =>
          .xsdNamespace (Text.trim text)) ("xsd_namespace" :: s.literal name :: left)
          (.xsdNamespace (Text.trim name)) left := hliteral (by decide) h
      rw [htrim] at hread
      exact .behind_word (by decide) <| .behind_word (by decide) <| .behind_word (by decide) <|
        .behind_word (by decide) hread.orElse
  | smalltalkCategory hname =>
      exact hnamespace ((reads_word (by decide)).bind (reads_dashedIdentifier hname).map).orElse
  | smalltalkPrefix hname =>
      exact hnamespace <| .behind_word (by decide)
        ((reads_word (by decide)).bind (reads_identifier hname).map).orElse

/-- The first token of a header. -/
theorem exists_token_header (s : Spelling) (header : Header) :
    ∃ token others, s.header header = token :: others ∧ Visible token := by
  cases header with
  | «include» => exact ⟨"include", _, rfl, by decide⟩
  | cppInclude => exact ⟨"cpp_include", _, rfl, by decide⟩
  | targetNamespace => exact ⟨"namespace", _, rfl, by decide⟩
  | phpNamespace => exact ⟨"php_namespace", _, rfl, by decide⟩
  | xsdNamespace => exact ⟨"xsd_namespace", _, rfl, by decide⟩
  | smalltalkCategory => exact ⟨"namespace", _, rfl, by decide⟩
  | smalltalkPrefix => exact ⟨"namespace", _, rfl, by decide⟩

/-- No header starts as a definition does. -/
theorem fails_header {token : String} {tokens : List String} (h : token ∈ definitionWords) :
    Fails Reader.header (token :: tokens) := by
  have hfails : ∀ {α : Type} {f : Unit → PartReader α} {word : String},
      word ∈ ["include", "cpp_include", "namespace", "php_namespace", "xsd_namespace"] →
      Fails (Reader.word word >>= f) (token :: tokens) := by
    intro α f word hword
    have hall : ∀ word ∈
        ["include", "cpp_include", "namespace", "php_namespace", "xsd_namespace"],
        ∀ token ∈ definitionWords,
          IsKeyword word ∧ word ≠ token ∧ Visible token ∧ RunsOn token := by decide
    have h := hall word hword token h
    exact .bind (fails_word h.1 h.2.1 h.2.2.1 h.2.2.2)
  exact .orElse (hfails (by decide)) <| .orElse (hfails (by decide)) <|
    .orElse (hfails (by decide)) <| .orElse (hfails (by decide)) <|
    .orElse (hfails (by decide)) rfl

/-! ## Documents -/

theorem skipLayout_ahead (tokens : List String) :
    Reader.skipLayout (ahead tokens) = ahead tokens := by
  have hlayout : NotAhead Pattern.isLayout (ahead tokens) := notAhead_dropWhile _ _
  have hnone : ∀ c ∈ ([] : List Char), Pattern.isLayout c = true := by simp
  exact dropWhile_append_of_notAhead hnone hlayout

/-- A document is read back from its tokens. -/
theorem reads_document (hkeep : options.retainRequiredness = true)
    (hcount : options.numberEnums = false) {d : Document} (h : s.DocumentFits (depth + 2) d) :
    Reads (Reader.document options (depth + 2)) (s.document d) d [] := by
  obtain ⟨headers, definitions⟩ := d
  have hlayout : Reads Reader.layout (s.document ⟨headers, definitions⟩) ()
      (s.document ⟨headers, definitions⟩) := by
    rw [Reads, Reader.layout_eq, skipLayout_ahead]
  have hheaders : Reads (Reader.many Reader.header) (s.document ⟨headers, definitions⟩) headers
      (definitions.flatMap s.definition) := by
    refine Reads.many (fun header hheader => ?_) ?_
    · obtain ⟨token, others, htoken, hvisible⟩ := exists_token_header s header
      exact ⟨token, others, htoken, hvisible, reads_header (h.headers header hheader)⟩
    · cases definitions with
      | nil => exact StartsIn.header (notAhead_nil _)
      | cons d definitions =>
          obtain ⟨token, others, htoken, hmem⟩ := exists_token_definition s d
          rw [List.flatMap_cons, htoken]
          exact fails_header hmem
  have hdefinitions : Reads (Reader.many (Reader.definition options (depth + 2)))
      (definitions.flatMap s.definition ++ []) definitions [] := by
    refine Reads.many (fun d hd => ?_) (StartsIn.definition options _ (notAhead_nil _))
    obtain ⟨token, others, htoken, hmem⟩ := exists_token_definition s d
    have hvisible : ∀ token ∈ definitionWords, Visible token := by decide
    exact ⟨token, others, htoken, hvisible token hmem,
      reads_definition hkeep hcount (h.definitions d hd)⟩
  rw [List.append_nil] at hdefinitions
  have hfinish : Reads Reader.finish [] () [] := rfl
  exact hlayout.bind <| hheaders.bind <| hdefinitions.bind <| hfinish.bind .pure

end ThriftSchema.Canonical
