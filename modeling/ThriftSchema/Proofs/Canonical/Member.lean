import ThriftSchema.Proofs.Canonical.Value

set_option autoImplicit false

/-! # Reading canonical fields and functions

A field and a function end with a comma, so that their tokens are read back whatever follows.
What may be missing in them is told from the first token behind it.
-/

namespace ThriftSchema.Canonical

open Reader (fieldType constant)

variable {s : Spelling} {left : List String} {depth : Nat} {options : BuildOptions}

/-! ## In front of a type -/

/-- The words that a type which is no name starts with. -/
def typeWords : List String := "map" :: "set" :: "list" :: Production.baseTypeNames

/-- The first token of a type. -/
theorem exists_token_type {type : FieldType} (h : s.TypeFits depth type) :
    ∃ token others, s.type type = token :: others ∧ Begins Pattern.isNameStart token ∧
      RunsOn token ∧ ∀ word ∉ typeWords, type ≠ .named word → word ≠ token := by
  have hwords : ∀ word ∈ typeWords, Begins Pattern.isNameStart word ∧ RunsOn word := by decide
  have hof : ∀ token others, token ∈ typeWords → s.type type = token :: others →
      ∃ token others, s.type type = token :: others ∧ Begins Pattern.isNameStart token ∧
        RunsOn token ∧ ∀ word ∉ typeWords, type ≠ .named word → word ≠ token := by
    intro token others htoken heq
    refine ⟨token, others, heq, (hwords token htoken).1, (hwords token htoken).2, ?_⟩
    rintro word hword - rfl
    exact hword htoken
  cases h with
  | @named _ name hname hbase =>
      refine ⟨name, [], rfl, begins_of_isWord hname, runsOn_of_isName hname, ?_⟩
      rintro word - hne rfl
      exact hne rfl
  | base hbase => exact hof _ [] (by simp [typeWords, hbase]) rfl
  | map => exact hof "map" _ (by decide) rfl
  | set => exact hof "set" _ (by decide) rfl
  | list => exact hof "list" _ (by decide) rfl

/-- A reader fails in front of a type that its words do not name. -/
theorem fails_before_type {α : Type} {p : PartReader α} {type : FieldType}
    (h : s.TypeFits depth type)
    (hp : ∀ token tokens, Begins Pattern.isNameStart token → RunsOn token →
      (∀ word ∉ typeWords, type ≠ .named word → word ≠ token) → Fails p (token :: tokens)) :
    Fails p (s.type type ++ left) := by
  obtain ⟨token, others, heq, hbegins, hruns, hne⟩ := exists_token_type h
  rw [heq]
  exact hp token _ hbegins hruns hne

theorem fails_fieldId {token : String} {tokens : List String}
    (h : Begins Pattern.isNameStart token) : Fails Reader.fieldId (token :: tokens) :=
  .of_begins (StartsIn.integer.bind _) h (visible_of_begins_isNameStart h)
    fun _ => StartsIn.not_isNumberStart_of_isNameStart

theorem reads_requiredness (r : Requiredness) :
    Reads Reader.requiredness (Spelling.requiredness (some r) ++ left) r left := by
  cases r with
  | required =>
      have hword : Reads (Reader.oneOf ["required", "optional"]) ("required" :: left)
        "required" left := reads_oneOf (by decide) (by decide) (by decide) (by decide)
      exact hword.bind .pure
  | optional =>
      have hword : Reads (Reader.oneOf ["required", "optional"]) ("optional" :: left)
        "optional" left := reads_oneOf (by decide) (by decide) (by decide) (by decide)
      exact hword.bind .pure

/-- What is in front of the type of a field. -/
theorem reads_field_head {type : FieldType} (h : s.TypeFits depth type) {id : Option Int}
    (hid : ∀ n ∈ id, Number.isWritable n = true) {r : Option Requiredness}
    (hr : r = none → type ≠ .named "required" ∧ type ≠ .named "optional") :
    Reads (Reader.optional Reader.fieldId)
        (Spelling.fieldId id ++ (Spelling.requiredness r ++ (s.type type ++ left))) id
        (Spelling.requiredness r ++ (s.type type ++ left)) ∧
      Reads (Reader.optional Reader.requiredness)
        (Spelling.requiredness r ++ (s.type type ++ left)) r (s.type type ++ left) := by
  constructor
  -- without a number, what comes next must not be taken for one
  · cases id with
    | none =>
        refine Fails.optional ?_
        cases r with
        | none => exact fails_before_type h fun _ _ hbegins _ _ => fails_fieldId hbegins
        | some r =>
            cases r with
            | required => exact fails_fieldId (by decide)
            | optional => exact fails_fieldId (by decide)
    | some n =>
        have hread : ∀ tokens, Reads Reader.fieldId (toString n :: ":" :: tokens) n tokens :=
          fun _ => (reads_integer (hid n rfl)).bind <| (reads_symbol (by decide)).bind .pure
        exact (hread _).optional
  · cases r with
    | none =>
        refine Fails.optional (fails_before_type h fun token _ hbegins hruns hne => ?_)
        refine Fails.bind (fails_oneOf ?_ (by decide) (visible_of_begins_isNameStart hbegins) hruns)
        rintro hmem
        simp only [List.mem_cons, List.not_mem_nil, or_false] at hmem
        rcases hmem with heq | heq
        · exact hne _ (by decide) (hr rfl).1 heq.symm
        · exact hne _ (by decide) (hr rfl).2 heq.symm
    | some r => exact (reads_requiredness r).optional

/-! ## Behind the name of a field -/

theorem reads_flag {word : String} (hvisible : Visible word) {present : Bool}
    (h : present = false → Fails (Reader.word word) left) :
    Reads (Reader.flag word) (Spelling.flag word present ++ left) present left := by
  cases present with
  | false => exact (h rfl).optional.bind .pure
  | true => exact (reads_word hvisible).optional.bind .pure

/-- The tokens of a block of attributes. -/
def blockTokens (s : Spelling) : Option (List Field) → List String
  | none => []
  | some attributes => "xsd_attrs" :: "\x7b" :: (s.fields attributes ++ ["\x7d"])

/-- What is written for export options: two flags and a block. -/
theorem exists_exportOptions (exported : Option (ExportOptions Field)) :
    ∃ optional nillable block,
      s.exportOptions exported = Spelling.flag "xsd_optional" optional ++
        (Spelling.flag "xsd_nillable" nillable ++ blockTokens s block) ∧
      Reduction.exportOptions optional nillable (block.map fun as => ⟨false, false, as⟩)
        = exported ∧
      ∀ as ∈ block, ∃ x ∈ exported, x.attributes = as := by
  cases exported with
  | none =>
      refine ⟨false, false, none, ?_, rfl, by simp⟩
      simp [Spelling.exportOptions, Spelling.flag, blockTokens]
  | some x =>
      obtain ⟨optional, nillable, attributes⟩ := x
      by_cases hblock : ((optional || nillable) && attributes.isEmpty) = true
      · rw [Bool.and_eq_true, List.isEmpty_iff] at hblock
        obtain ⟨hflag, rfl⟩ := hblock
        refine ⟨optional, nillable, none, ?_, ?_, by simp⟩
        · simp [Spelling.exportOptions, blockTokens, hflag]
        · simp [Reduction.exportOptions, hflag]
      · refine ⟨optional, nillable, some attributes, ?_, rfl, ?_⟩
        · rw [Spelling.exportOptions, if_neg hblock, blockTokens]
        · intro as has
          obtain rfl : attributes = as := by simpa using has
          exact ⟨_, rfl, rfl⟩

/-- What is behind the default of a field. -/
def fieldEnd (s : Spelling) (optional nillable : Bool) (block : Option (List Field))
    (left : List String) : List String :=
  Spelling.flag "xsd_optional" optional ++ (Spelling.flag "xsd_nillable" nillable ++
    (blockTokens s block ++ "," :: left))

/-- The end of a field starts with one of its words or with the comma. -/
theorem notAhead_fieldEnd {C : Char → Bool} (hword : C 'x' = false) (hcomma : C ',' = false)
    {optional nillable : Bool} {block : Option (List Field)} :
    NotAhead C (ahead (fieldEnd s optional nillable block left)) := by
  cases optional with
  | true => exact notAhead_cons.2 hword
  | false =>
      cases nillable with
      | true => exact notAhead_cons.2 hword
      | false =>
          cases block with
          | none => exact notAhead_cons.2 hcomma
          | some attributes => exact notAhead_cons.2 hword

theorem fields_eq_flatMap (fields : List Field) : s.fields fields = fields.flatMap s.field := by
  induction fields with
  | nil => simp [Spelling.fields]
  | cons f fields ih => simp [Spelling.fields, ih]

/-- The first token of a field. -/
theorem exists_token_field {f : Field} (h : s.FieldFits depth f) :
    ∃ token others, s.field f = token :: others ∧ Visible token := by
  obtain ⟨type, name, id, default, requiredness, exported⟩ := f
  obtain ⟨htype, -, -, -, -, -, -⟩ := h
  obtain ⟨token, others, htoken, hbegins, -, -⟩ := exists_token_type htype
  rw [Spelling.field]
  cases id with
  | some n => exact ⟨_, _, rfl, visible_toString n⟩
  | none =>
      cases requiredness with
      | some r =>
          cases r with
          | required => exact ⟨_, _, rfl, by decide⟩
          | optional => exact ⟨_, _, rfl, by decide⟩
      | none =>
          have htoken : s.type type = token :: others := htoken
          rw [htoken]
          exact ⟨token, _, rfl, visible_of_begins_isNameStart hbegins⟩

/-- Fields up to what starts as no field. -/
theorem reads_fields {p : PartReader Field} {fields : List Field}
    (hfits : ∀ f ∈ fields, s.FieldFits depth f)
    (hreads : ∀ f ∈ fields, ∀ left, Reads p (s.field f ++ left) f left) (hend : Fails p left) :
    Reads (Reader.many p) (s.fields fields ++ left) fields left := by
  rw [fields_eq_flatMap]
  refine Reads.many (fun f hf => ?_) hend
  obtain ⟨token, others, htoken, hvisible⟩ := exists_token_field (hfits f hf)
  exact ⟨token, others, htoken, hvisible, hreads f hf⟩

/-- A block of fields between two marks. -/
theorem reads_block {p : PartReader Field} {fields : List Field} {text opener closer : String}
    (htext : Visible text) (hopener : Visible opener) (hcloser : Visible closer)
    (hfields : Reads (Reader.many p) (s.fields fields ++ closer :: left) fields
      (closer :: left)) :
    Reads (Reader.block text opener closer p)
      (text :: opener :: (s.fields fields ++ closer :: left)) fields left :=
  (reads_word htext).bind <| (reads_symbol hopener).bind <| hfields.bind <|
    (reads_symbol hcloser).bind .pure

/-! ## Fields -/

/-- A default, in front of what may follow it. -/
theorem reads_default {value : Option ConstValue} (h : ∀ v ∈ value, s.ConstantFits depth v)
    (hleft : NotAhead (· == '=') (ahead left)) :
    Reads (Reader.optional (Reader.assigned (constant depth))) (s.default value ++ left) value
      left := by
  cases value with
  | none => exact Fails.optional (StartsIn.assigned _ hleft)
  | some v =>
      exact ((reads_symbol (by decide)).bind (reads_constant (h v rfl) left)).optional

/-- A name may be followed by a default and the end of a field. -/
theorem afterType_field {name : String} (h : IsName name.toList) {value : Option ConstValue}
    {optional nillable : Bool} {block : Option (List Field)} :
    AfterType (name :: (s.default value ++ fieldEnd s optional nillable block left)) := by
  refine afterType_name h ?_
  cases value with
  | none => exact notAhead_fieldEnd (by decide) (by decide)
  | some v => exact notAhead_cons.2 (by decide)

/-- The flags at the end of a field. -/
theorem reads_fieldFlags {optional nillable : Bool} {block : Option (List Field)} :
    Reads (Reader.flag "xsd_optional") (fieldEnd s optional nillable block left) optional
        (fieldEnd s false nillable block left) ∧
      Reads (Reader.flag "xsd_nillable") (fieldEnd s false nillable block left) nillable
        (fieldEnd s false false block left) := by
  have hfails : ∀ word token tokens, IsKeyword word → Visible token → RunsOn token →
      word ≠ token → Fails (Reader.word word) (token :: tokens) :=
    fun _ _ _ hword hvisible hruns hne => fails_word hword hne hvisible hruns
  constructor
  · refine reads_flag (by decide) fun _ => ?_
    cases nillable with
    | true => exact hfails _ "xsd_nillable" _ (by decide) (by decide) (by decide) (by decide)
    | false =>
        cases block with
        | none => exact hfails _ "," _ (by decide) (by decide) (by decide) (by decide)
        | some as => exact hfails _ "xsd_attrs" _ (by decide) (by decide) (by decide) (by decide)
  · refine reads_flag (by decide) fun _ => ?_
    cases block with
    | none => exact hfails _ "," _ (by decide) (by decide) (by decide) (by decide)
    | some as => exact hfails _ "xsd_attrs" _ (by decide) (by decide) (by decide) (by decide)

/-- The block at the end of a field. -/
theorem reads_attributes {block : Option (List Field)} (hroom : block.isSome → 2 ≤ depth)
    (hfits : ∀ as ∈ block, ∀ g ∈ as, s.FieldFits depth g)
    (hreads : ∀ as ∈ block, ∀ g ∈ as, ∀ left,
      Reads (Reader.field options depth) (s.field g ++ left) g left) :
    Reads (Reader.optional (Reader.attributes (Reader.field options depth)))
      (fieldEnd s false false block left) block ("," :: left) := by
  cases block with
  | none =>
      have hstart : StartsIn (Reader.attributes (Reader.field options depth)) (· == 'x') :=
        StartsIn.block (by decide)
      exact Fails.optional (.of_not hstart (by decide) (by decide))
  | some as =>
      obtain ⟨depth, rfl⟩ := Nat.exists_eq_add_of_le' (hroom rfl)
      have hend : Fails (Reader.field options (depth + 2)) ("\x7d" :: "," :: left) :=
        .of_not (StartsIn.field options depth) (by decide) (by decide)
      have hblock : Reads (Reader.attributes (Reader.field options (depth + 2)))
          ("xsd_attrs" :: "\x7b" :: (s.fields as ++ "\x7d" :: "," :: left)) as ("," :: left) :=
        reads_block (by decide) (by decide) (by decide)
          (reads_fields (hfits as rfl) (hreads as rfl) hend)
      simpa [fieldEnd, blockTokens, Spelling.flag] using hblock.optional

/-- A field is read back from its tokens. -/
theorem reads_field (hkeep : options.retainRequiredness = true) {f : Field}
    (h : s.FieldFits depth f) (left : List String) :
    Reads (Reader.field options depth) (s.field f ++ left) f left := by
  induction h generalizing left with
  | @intro depth f htype hname hid hdefault hrequiredness hroom hexported ih =>
  obtain ⟨type, name, id, default, requiredness, exported⟩ := f
  -- export options are written as flags and a block, and made of these again
  obtain ⟨optional, nillable, block, htokens, hexport, hblock⟩ :=
    exists_exportOptions (s := s) exported
  have hflags := @reads_fieldFlags s left optional nillable block
  have hattributes : Reads (Reader.optional (Reader.attributes (Reader.field options depth)))
      (fieldEnd s false false block left) block ("," :: left) := by
    refine reads_attributes (fun hsome => ?_) (fun as has => ?_) (fun as has => ?_)
    · obtain ⟨as, has⟩ := Option.isSome_iff_exists.1 hsome
      obtain ⟨x, hx, -⟩ := hblock as has
      exact hroom (Option.isSome_iff_exists.2 ⟨x, hx⟩)
    · obtain ⟨x, hx, rfl⟩ := hblock as has
      exact hexported x hx
    · obtain ⟨x, hx, rfl⟩ := hblock as has
      exact ih x hx
  have htokens : s.field ⟨type, name, id, default, requiredness, exported⟩ ++ left
      = Spelling.fieldId id ++ (Spelling.requiredness requiredness ++ (s.type type ++
        name :: (s.default default ++ fieldEnd s optional nillable block left))) := by
    rw [Spelling.field, htokens]
    simp only [fieldEnd, List.append_assoc, List.cons_append, List.nil_append]
  have hhead := @reads_field_head s
    (name :: (s.default default ++ fieldEnd s optional nillable block left)) depth type htype id hid
    requiredness hrequiredness
  have hread : Reads (Reader.field options (depth + 1))
      (s.field ⟨type, name, id, default, requiredness, exported⟩ ++ left)
      ⟨type, name, id, default, Reader.keptRequiredness options requiredness,
        Reduction.exportOptions optional nillable (block.map fun as => ⟨false, false, as⟩)⟩
      left := by
    rw [htokens]
    exact hhead.1.bind <| hhead.2.bind <|
      (reads_fieldType htype _ (afterType_field hname)).bind <| (reads_identifier hname).bind <|
      (reads_default hdefault (notAhead_fieldEnd (by decide) (by decide))).bind <|
      hflags.1.bind <| hflags.2.bind <| hattributes.bind <| reads_separator.bind .pure
  rwa [hexport, Reader.keptRequiredness, if_pos hkeep] at hread

/-! ## Functions -/

/-- What a function returns, in front of its name. -/
theorem reads_returnType {returns : ReturnType}
    (hfits : ∀ type, returns = .type type → s.TypeFits depth type)
    (hvoid : returns ≠ .type (.named "void")) (hleft : AfterType left) :
    Reads (Reader.returnType (fieldType depth)) (s.returnType returns ++ left) returns left := by
  cases returns with
  | void =>
      have hword : Reads (do Reader.word "void"; return ReturnType.void) ("void" :: left) .void
        left := (reads_word (by decide)).bind .pure
      exact hword.orElse
  | type type =>
      have htype := hfits type rfl
      have hread : Reads (do return ReturnType.type (← fieldType depth)) (s.type type ++ left)
        (.type type) left := (reads_fieldType htype left hleft).map
      refine .orElse_of_fails (.bind ?_) hread.orElse
      refine fails_before_type htype fun token tokens hbegins hruns hne => ?_
      exact fails_word (by decide) (hne "void" (by decide) fun h => hvoid (congrArg _ h))
        (visible_of_begins_isNameStart hbegins) hruns

/-- The word for a function that is not waited for, in front of what it returns. -/
theorem reads_oneway {returns : ReturnType} {oneway : Bool}
    (hfits : ∀ type, returns = .type type → s.TypeFits depth type)
    (hne : oneway = false → returns ≠ .type (.named "oneway")) :
    Reads (Reader.flag "oneway") (Spelling.flag "oneway" oneway ++ (s.returnType returns ++ left))
      oneway (s.returnType returns ++ left) := by
  refine reads_flag (by decide) fun hfalse => ?_
  cases returns with
  | void => exact fails_word (by decide) (by decide) (by decide) (by decide)
  | type type =>
      refine fails_before_type (hfits type rfl) fun token tokens hbegins hruns hword => ?_
      exact fails_word (by decide) (hword "oneway" (by decide) fun h => hne hfalse (congrArg _ h))
        (visible_of_begins_isNameStart hbegins) hruns

/-- A function is read back from its tokens. -/
theorem reads_function (hkeep : options.retainRequiredness = true) {f : Function}
    (h : s.FunctionFits (depth + 2) f) (left : List String) :
    Reads (Reader.function (fieldType (depth + 2)) (Reader.field options (depth + 2)))
      (s.function f ++ left) f left := by
  obtain ⟨returns, name, arguments, throws, oneway⟩ := f
  obtain ⟨hreturns, hvoid, honeway, hname, harguments, hthrows⟩ := h
  have hfields : ∀ {fields : List Field} {left : List String},
      (∀ g ∈ fields, s.FieldFits (depth + 2) g) →
      Reads (Reader.many (Reader.field options (depth + 2))) (s.fields fields ++ ")" :: left)
        fields (")" :: left) := fun hfits =>
    reads_fields hfits (fun g hg => reads_field hkeep (hfits g hg))
      (.of_not (StartsIn.field options depth) (by decide) (by decide))
  have hthrown : Reads (Reader.optional (Reader.throws (Reader.field options (depth + 2))))
      (s.throws throws ++ "," :: left) throws ("," :: left) := by
    cases throws with
    | none =>
        have hstart : StartsIn (Reader.throws (Reader.field options (depth + 2))) (· == 't') :=
          StartsIn.block (by decide)
        exact Fails.optional (.of_not hstart (by decide) (by decide))
    | some errors =>
        have hblock : Reads (Reader.throws (Reader.field options (depth + 2)))
            ("throws" :: "(" :: (s.fields errors ++ ")" :: "," :: left)) errors ("," :: left) :=
          reads_block (by decide) (by decide) (by decide) (hfields (hthrows errors rfl))
        simpa [Spelling.throws] using hblock.optional
  have hafter : AfterType (name :: "(" :: (s.fields arguments ++ ")" ::
      (s.throws throws ++ "," :: left))) :=
    afterType_name hname (notAhead_cons.2 (by decide))
  simp only [Spelling.function, List.append_assoc, List.cons_append, List.nil_append]
  exact (reads_oneway hreturns honeway).bind <| (reads_returnType hreturns hvoid hafter).bind <|
    (reads_identifier hname).bind <| (reads_symbol (by decide)).bind <|
    (hfields harguments).bind <| (reads_symbol (by decide)).bind <| hthrown.bind <|
    reads_separator.bind .pure

end ThriftSchema.Canonical
