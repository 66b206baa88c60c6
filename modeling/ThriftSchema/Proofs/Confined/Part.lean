import ThriftSchema.Proofs.Confined.Value

set_option autoImplicit false

/-! # Fields, functions and definitions and the text behind

A field, an enumeration value or a function ends in parts that may be missing. What is behind it
must not look like one of them (`Quits`); a field or a function that comes next does not, and
neither does the mark that closes a list of them. A definition or a header is read from the text
it takes alone.
-/

namespace ThriftSchema

variable {α β : Type} {m r : List Char}

/-! ## What may come next -/

/-- The words that may end a field or a function are told apart from the text in front of the
cut, and neither a default nor a literal is next. -/
def Tail : Ahead := fun m r =>
  (NotAhead Pattern.isNameStart m ∨ Named m r) ∧ NotAhead (fun c => c == '=') m ∧ NoQuote m

/-- What is behind a field or a function: none of its parts. -/
def Quits : Ahead := fun m r => Tail m r ∧ Before NoMark m

/-- What a field starts with: a number, or a name or word that no mark follows. -/
def FieldAhead : Ahead := fun m r =>
  Ahead.startsWith StartsIn.isNumberStart m r ∨ Front NoMark m r

theorem Ahead.startsWith.append {C : Char → Bool} (h : Ahead.startsWith C m r)
    {w : List Char} : Ahead.startsWith C (m ++ w) r := fun hw => h hw.of_append

/-- The end of the text in front of the cut. -/
abbrev Ended : Ahead := Ahead.ofText (· = [])

theorem Named.tail (h : Named m r) : Tail m r := by
  refine ⟨.inr h, h.notAhead fun c hc => ?_, h.noMark.mono fun c hc => by simp [isMark, hc]⟩
  obtain rfl : c = '=' := by simpa using hc
  decide

theorem tail_of_mark {c : Char} (h : Ahead.startsWith (· == c) m r)
    (hc : (Pattern.isNameStart c || c == '=' || StartsIn.isQuoteChar c) = false) :
    Tail m r := by
  simp only [Bool.or_eq_false_iff] at hc
  exact ⟨.inl (h.notAhead_of_mark hc.1.1), h.notAhead_of_mark hc.1.2, h.notAhead_of_mark hc.2⟩

theorem quits_of_mark {c : Char} (h : Ahead.startsWith (· == c) m r)
    (hc : (Pattern.isNameStart c || c == '=' || StartsIn.isQuoteChar c) = false) :
    Quits m r := by
  have htail := tail_of_mark h hc
  simp only [Bool.or_eq_false_iff] at hc
  exact ⟨htail, .of_notAhead (h.notAhead_of_mark hc.1.1)⟩

theorem Front.quits (h : Front NoMark m r) : Quits m r := ⟨h.1.tail, h.2⟩

theorem FieldAhead.quits (h : FieldAhead m r) : Quits m r := by
  rcases h with hnumber | hfront
  · have hname : NotAhead Pattern.isNameStart m := hnumber.notAhead fun c hc => by
      rw [Bool.eq_false_iff]
      intro hname
      rw [StartsIn.not_isNumberStart_of_isNameStart hname] at hc
      exact Bool.false_ne_true hc
    have hequals : NotAhead (fun c => c == '=') m := hnumber.notAhead fun c hc => by
      rw [Bool.eq_false_iff]
      intro heq
      obtain rfl : c = '=' := by simpa using heq
      exact absurd hc (by decide)
    have hquote : NoQuote m := hnumber.notAhead fun c hc => by
      rw [Bool.eq_false_iff]
      intro hquote
      rw [StartsIn.not_isNumberStart_of_isQuoteChar hquote] at hc
      exact Bool.false_ne_true hc
    exact ⟨⟨.inl hname, hequals, hquote⟩, .of_notAhead hname⟩
  · exact hfront.quits

theorem quits_nil (r : List Char) : Quits [] r :=
  ⟨⟨.inl (notAhead_nil _), notAhead_nil _, notAhead_nil _⟩, .of_notAhead (notAhead_nil _)⟩

namespace Confined

variable {R S Q : Ahead}

/-! ## Parts that may be missing -/

theorem failsAlone_word_tail {text : String} (htext : IsName text.toList) :
    FailsAlone (Reader.word text) Tail := by
  intro v r hv hfailed
  rcases hv.1 with hname | hnamed
  · refine StartsIn.word_of_head (C := Pattern.isNameStart) ?_ hname
    cases hcs : text.toList with
    | nil => exact (hcs ▸ htext : IsName []).elim
    | cons c cs =>
        rw [hcs] at htext
        simpa using htext.1
  · exact FailsAlone.word_named htext hnamed hfailed

theorem flag {text : String} (htext : IsName text.toList) :
    Confined Tail (Reader.flag text) Tail := by
  have hword : Confined Tail (Reader.word text) Tail :=
    (word_front (P := fun _ => True) htext).mono (fun hm => hm.1.tail) fun _ => trivial
  exact (optional hword (fun hm => hm) (failsAlone_word_tail htext)).map _

theorem separator_quits : Confined Quits Reader.separator Quits := by
  refine separator (fun {m r} hm => ?_) fun hm => hm
  have hsep : ∀ {D : Char → Bool}, D ',' = false → D ';' = false → NotAhead D m := by
    intro D hcomma hsemicolon
    refine hm.notAhead fun c hc => ?_
    obtain rfl | rfl : c = ',' ∨ c = ';' := by simpa using hc
    · exact hcomma
    · exact hsemicolon
  have hname : NotAhead Pattern.isNameStart m := hsep (by decide) (by decide)
  exact ⟨⟨.inl hname, hsep (by decide) (by decide), hsep (by decide) (by decide)⟩,
    .of_notAhead hname⟩

theorem assigned {value : PartReader α} (h : Confined Ahead.always value Q) :
    Confined (Ahead.startsWith (· == '=')) (Reader.assigned value) Q :=
  (mark (by decide)).bind fun _ => h

/-! ## Fields -/

theorem fieldId : Confined (Ahead.startsWith StartsIn.isNumberStart) Reader.fieldId Q :=
  startsWith (integer.bind fun _ => (symbol ":").bind fun _ => pure _)
    (StartsIn.integer.bind _)

theorem requiredness : Confined (Front NoMark) Reader.requiredness (Front NoMark) := by
  have hvalue : ∀ text, Confined (Front NoMark) (Reader.requirednessOf text) (Front NoMark) := by
    intro text
    unfold Reader.requirednessOf
    split
    · exact pure _
    · exact pure _
    · exact fail
  exact ((oneOf_front (by decide)).mono (fun hm => hm) fun hm => hm.1.noMark).bind hvalue

theorem failsAlone_requiredness : FailsAlone Reader.requiredness Named := by
  refine (FailsAlone.oneOf_named (by decide)).bind_of_ne_failed fun {input text rest} hread => ?_
  obtain ⟨middle, hword, -⟩ := Reader.spaced_eq_read.1 hread
  obtain ⟨htext, -⟩ := Reader.firstKeyword_eq_read hword
  simp only [List.mem_cons, List.not_mem_nil, or_false] at htext
  rcases htext with rfl | rfl
  · simp [Reader.requirednessOf]
  · simp [Reader.requirednessOf]

variable {options : BuildOptions} {depth : Nat}

/-- Fields in front of the mark that closes them. -/
theorem fields {c : Char} {field : PartReader Field} (hfield : Confined FieldAhead field Quits)
    (hend : FailsAlone field (Ahead.startsWith (· == c)))
    (hc : (Pattern.isNameStart c || c == '=' || StartsIn.isQuoteChar c) = false) :
    Confined Ahead.always (Reader.many field) (Ahead.startsWith (· == c)) :=
  (many hfield (fun hm => hm.quits) (fun hm => quits_of_mark hm hc) hend).mono
    (fun _ => trivial) fun hm => hm

/-- A block of fields, which is complete in itself. -/
theorem block {text opener closer : String} {c : Char} {field : PartReader Field}
    (hfield : Confined FieldAhead field Quits)
    (hend : FailsAlone field (Ahead.startsWith (· == c)))
    (hc : (Pattern.isNameStart c || c == '=' || StartsIn.isQuoteChar c) = false)
    (hcloser : closer.toList.head?.any (· == c) = true) :
    Confined (Begins [text] Ahead.always) (Reader.block text opener closer field) Q :=
  (word text).bind fun _ => (symbol opener).bind fun _ => (fields hfield hend hc).bind fun _ =>
    (mark hcloser).bind fun _ => pure _

/-- No block follows a text that is no part of a field or a function. -/
theorem failsAlone_block {text opener closer : String} {field : PartReader Field}
    (htext : IsName text.toList) (hopener : opener.toList.head?.any isMark = true) :
    FailsAlone (Reader.block text opener closer field) Quits :=
  fun _ _ hv _ => hv.2.word_bind_failed htext fun hm =>
    Reader.bind_of_failed (StartsIn.symbol_of_head hopener hm)

theorem fieldOver {field : PartReader Field} (hfield : Confined FieldAhead field Quits)
    (hend : FailsAlone field (Ahead.startsWith (· == '\x7d'))) :
    Confined FieldAhead
      (Reader.fieldOver options (Reader.fieldType depth) (Reader.constant depth) field) Quits := by
  have hid : Confined FieldAhead (Reader.optional Reader.fieldId) (Front NoMark) :=
    optional (fieldId.mono .inl fun hm => hm) .inr <|
      .of_startsIn (StartsIn.integer.bind _) fun {v r} hm => hm.1.notAhead fun c hc => by
        rw [Bool.eq_false_iff]
        intro hname
        rw [StartsIn.not_isNumberStart_of_isNameStart hname] at hc
        exact Bool.false_ne_true hc
  have hrequiredness : Confined (Front NoMark) (Reader.optional Reader.requiredness)
      (Front NoMark) :=
    optional requiredness (fun hm => hm) (failsAlone_requiredness.mono fun hm => hm.1)
  have hdefault : Confined (Ahead.ofText NoQuote)
      (Reader.optional (Reader.assigned (Reader.constant depth))) Tail :=
    optional ((assigned (constant depth)).mono (fun hm => hm.notAhead_of_mark (by decide))
      fun hm => hm) (fun hm => hm.2.2) (.of_startsIn (StartsIn.assigned _) fun hm => hm.2.1)
  have hattributes : Confined Tail (Reader.optional (Reader.attributes field)) Quits :=
    optional ((block hfield hend (by decide) (by decide)).mono
      (fun hm => (hm.front (P := fun _ => True) (by decide)).1.tail) fun hm => hm)
      (fun hm => hm.1) (failsAlone_block (by decide) (by decide))
  exact hid.bind fun _ => hrequiredness.bind fun _ =>
    ((fieldType depth).mono (fun hm => hm) Front.afterType).bind fun _ => identifier.bind fun _ =>
    hdefault.bind fun _ => (flag (by decide)).bind fun _ => (flag (by decide)).bind fun _ =>
    hattributes.bind fun _ => separator_quits.bind fun _ => pure _

/-- The mark that closes fields starts none of them. -/
theorem failsAlone_field {c : Char} (hc : StartsIn.isFieldStart c = false) :
    FailsAlone (Reader.field options depth) (Ahead.startsWith (· == c)) := by
  intro v r hv hfailed
  match depth with
  | 0 => cases hfailed
  | 1 =>
      -- types nest too deep at once
      have hstart : NotAhead StartsIn.isFieldStart (v ++ r) := hv.append.notAhead_of_mark hc
      have hid : Reader.optional Reader.fieldId (v ++ r) = .read none (v ++ r) :=
        Reader.optional_of_failed <| StartsIn.integer.bind _ <|
          hstart.mono fun d hd => by simp [StartsIn.isFieldStart, hd]
      have hrequiredness : Reader.optional Reader.requiredness (v ++ r) = .read none (v ++ r) :=
        Reader.optional_of_failed <| StartsIn.requiredness <|
          hstart.mono fun d hd => by simp [StartsIn.isFieldStart, hd]
      rw [Reader.field, Reader.fieldOver, Reader.bind_of_read hid,
        Reader.bind_of_read hrequiredness] at hfailed
      cases hfailed
  | depth + 2 => exact StartsIn.field options depth (hv.notAhead_of_mark hc)

theorem field (depth : Nat) : Confined FieldAhead (Reader.field options depth) Quits := by
  induction depth with
  | zero => exact stop _
  | succ depth ih => exact fieldOver ih (failsAlone_field (by decide))

theorem attributes :
    Confined (Begins ["xsd_attrs"] Ahead.always) (Reader.attributes (Reader.field options depth))
      Q := block (field depth) (failsAlone_field (c := '\x7d') (by decide)) (by decide) (by decide)

theorem throws :
    Confined (Begins ["throws"] Ahead.always) (Reader.throws (Reader.field options depth)) Q :=
  block (field depth) (failsAlone_field (c := ')') (by decide)) (by decide) (by decide)

/-! ## Functions -/

theorem function (depth : Nat) :
    Confined (Front NoMark)
      (Reader.function (Reader.fieldType depth) (Reader.field options depth)) Quits := by
  have honeway : Confined (Front NoMark) (Reader.flag "oneway") (Front NoMark) := by
    have hword : Confined (Front NoMark) (Reader.word "oneway") (Front NoMark) :=
      (word_front (by decide)).mono (fun hm => hm) fun hm => hm.1.noMark
    exact (optional hword (fun hm => hm)
      ((FailsAlone.word_named (by decide)).mono fun hm => hm.1)).map _
  have hthrows : Confined Ahead.always
      (Reader.optional (Reader.throws (Reader.field options depth))) Quits :=
    optional (throws.mono (fun _ => trivial) fun hm => hm) (fun _ => trivial)
      (failsAlone_block (by decide) (by decide))
  exact honeway.bind fun _ =>
    ((returnType depth).mono (fun hm => hm) Front.afterType).bind fun _ =>
    (identifier.mono (fun hm => hm) fun hm => hm.notAhead_of_mark (c := '(') (by decide)).bind
    fun _ => (mark (by decide)).bind fun _ =>
    (fields (field depth) (failsAlone_field (c := ')') (by decide)) (by decide)).bind fun _ =>
    (mark (by decide)).bind fun _ => hthrows.bind fun _ => separator_quits.bind fun _ => pure _

/-- The mark that closes functions starts none of them. -/
theorem failsAlone_function {c : Char} (hc : Pattern.isNameStart c = false) :
    FailsAlone (Reader.function (Reader.fieldType depth) (Reader.field options depth))
      (Ahead.startsWith (· == c)) := by
  intro v r hv hfailed
  cases depth with
  | zero =>
      have hname : NotAhead Pattern.isNameStart (v ++ r) := hv.append.notAhead_of_mark hc
      have hvoid : (do Reader.word "void"; return ReturnType.void : PartReader ReturnType) (v ++ r)
          = .failed := Reader.bind_of_failed (StartsIn.word_of_head (by decide) hname)
      have hreturn : Reader.returnType (Reader.fieldType 0) (v ++ r)
          = .stopped .nestingTooDeep := by
        rw [Reader.returnType, Reader.orElse_of_failed hvoid]
        rfl
      rw [Reader.function, Reader.bind_of_read (StartsIn.flag_of_failed
        (StartsIn.word_of_head (by decide) hname)), Reader.bind_apply, hreturn] at hfailed
      cases hfailed
  | succ depth =>
      exact StartsIn.function _ (StartsIn.fieldType depth) (hv.notAhead_of_mark hc)

/-! ## Values of enumerations -/

theorem enumValue :
    Confined (Ahead.startsWith Pattern.isNameStart) Reader.enumValue
      (Ahead.ofText (NotAhead (fun c => c == '='))) := by
  have hnumber : Confined Ahead.always (Reader.hexadecimal <|> Reader.integer <|> Reader.fail)
      (Ahead.ofText (NotAhead (fun c => c == '='))) :=
    orElse hexadecimal (orElse_fail integer) (fun hm => hm) FailsAlone.hexadecimal
  have hseparator : Confined (Ahead.ofText (NotAhead (fun c => c == '='))) Reader.separator
      (Ahead.ofText (NotAhead (fun c => c == '='))) := by
    refine separator (fun hm => hm.notAhead fun c hc => ?_) fun hm => hm
    obtain rfl | rfl : c = ',' ∨ c = ';' := by simpa using hc
    · decide
    · decide
  have hvalue : Confined Ahead.always (Reader.optional (Reader.assigned
      (Reader.hexadecimal <|> Reader.integer <|> Reader.fail)))
      (Ahead.ofText (NotAhead (fun c => c == '='))) :=
    optional ((assigned hnumber).mono (fun _ => trivial) fun hm => hm) (fun _ => trivial)
      (.of_startsIn (StartsIn.assigned _) fun hm => hm)
  have hwhole := (identifier (P := fun _ => True)).bind fun name =>
    (hvalue.mono (fun _ => trivial) fun hm => hm).bind fun value => hseparator.bind fun _ =>
    pure (⟨name, value, false⟩ : EnumValue)
  exact hwhole.startsWith (StartsIn.identifier.bind _)

theorem literalItem : Confined Ahead.always Reader.literalItem Ahead.always :=
  literal.bind fun _ => separator_always.bind fun _ => pure _

/-! ## Definitions -/

/-- A word that a part starts with. -/
theorem opening (text : String) : Confined (Begins [text] Ahead.always) (Reader.word text) Q :=
  (word text).mono (fun ⟨t, ht, w, hm, hw, _⟩ => ⟨t, ht, w, hm, hw, trivial⟩) fun hm => hm

/-- A name in front of a mark. -/
theorem identifier_mark (c : Char) (hc : StartsIn.isQuoteChar c = false) :
    Confined (Front NoQuote) Reader.identifier (Ahead.startsWith (· == c)) :=
  identifier.mono (fun hm => hm) fun hm => hm.notAhead_of_mark hc

theorem const (depth : Nat) : Confined (Begins ["const"] Ahead.always) (Reader.const depth) Q :=
  (opening "const").bind fun _ => (fieldType depth).bind fun _ =>
  ((identifier_mark '=' (by decide)).mono Front.afterType fun hm => hm).bind fun _ =>
  (mark (by decide)).bind fun _ => (constant depth).bind fun _ =>
  (separator_always.mono (fun hm => hm) fun _ => trivial).bind fun _ => pure _

theorem typedef (depth : Nat) :
    Confined (Begins ["typedef"] Ahead.always) (Reader.typedef depth) Ended := by
  have hseparator : Confined (Ahead.ofText NoQuote) Reader.separator Ended := by
    refine separator (fun hm => hm.notAhead fun c hc => ?_) fun hm => hm ▸ notAhead_nil _
    obtain rfl | rfl : c = ',' ∨ c = ';' := by simpa using hc
    · decide
    · decide
  exact (opening "typedef").bind fun _ => (definitionType depth).bind fun _ =>
    (identifier.mono Front.afterType fun hm => hm).bind fun _ => hseparator.bind fun _ => pure _

theorem enum : Confined (Begins ["enum"] Ahead.always) (Reader.enum options) Q := by
  have hvalues : Confined Ahead.always (Reader.many Reader.enumValue)
      (Ahead.startsWith (· == '\x7d')) := by
    refine (many enumValue (fun hm => hm.notAhead fun c hc => ?_)
      (fun hm => hm.notAhead_of_mark (by decide)) (.of_startsIn (StartsIn.identifier.bind _)
        fun hm => hm.notAhead_of_mark (by decide))).mono (fun _ => trivial) fun hm => hm
    rw [Bool.eq_false_iff]
    intro heq
    obtain rfl : c = '=' := by simpa using heq
    exact absurd hc (by decide)
  exact (opening "enum").bind fun _ => identifier_always.bind fun _ =>
    (symbol "\x7b").bind fun _ => hvalues.bind fun _ => (mark (by decide)).bind fun _ => pure _

theorem senum : Confined (Begins ["senum"] Ahead.always) Reader.senum Q := by
  have hvalues : Confined Ahead.always (Reader.many Reader.literalItem)
      (Ahead.startsWith (· == '\x7d')) :=
    many_closed literalItem (.of_startsIn (StartsIn.literal.bind _)
      fun hm => hm.notAhead_of_mark (by decide))
  exact (opening "senum").bind fun _ => identifier_always.bind fun _ =>
    (symbol "\x7b").bind fun _ => hvalues.bind fun _ => (mark (by decide)).bind fun _ => pure _

/-- Fields between braces. -/
theorem fields_braced (depth : Nat) :
    Confined Ahead.always (Reader.many (Reader.field options depth))
      (Ahead.startsWith (· == '\x7d')) :=
  fields (field depth) (failsAlone_field (by decide)) (by decide)

theorem flaggedFields (text : String) (make : String → List Field → Bool → Definition)
    (depth : Nat) :
    Confined (Begins [text] Ahead.always) (Reader.flaggedFields text make options depth) Q := by
  have hflag : Confined (Ahead.ofText NoQuote) (Reader.flag "xsd_all")
      (Ahead.startsWith (· == '\x7b')) :=
    (optional ((opening "xsd_all").mono
      (fun hm => (hm.front (P := fun _ => True) (by decide)).1.tail.2.2) fun hm => hm)
      (fun hm => hm.notAhead_of_mark (by decide))
      (.of_startsIn (StartsIn.word_of_head (C := Pattern.isNameStart) (by decide))
        fun hm => hm.notAhead_of_mark (by decide))).map _
  exact (opening text).bind fun _ => identifier_always.bind fun _ => hflag.bind fun _ =>
    (mark (by decide)).bind fun _ => (fields_braced depth).bind fun _ =>
    (mark (by decide)).bind fun _ => pure _

theorem exception (depth : Nat) :
    Confined (Begins ["exception"] Ahead.always) (Reader.exception options depth) Q :=
  (opening "exception").bind fun _ => identifier_always.bind fun _ =>
    (symbol "\x7b").bind fun _ => (fields_braced depth).bind fun _ =>
    (mark (by decide)).bind fun _ => pure _

theorem service (depth : Nat) :
    Confined (Begins ["service"] Ahead.always) (Reader.service options depth) Q := by
  have hparent : Confined Ahead.always (Reader.optional Reader.parent)
      (Ahead.startsWith (· == '\x7b')) :=
    optional (((opening "extends").mono (fun _ => trivial) fun hm => hm).bind fun _ =>
      identifier_always) (fun _ => trivial)
      (.of_startsIn ((StartsIn.word_of_head (C := Pattern.isNameStart) (by decide)).bind _)
        fun hm => hm.notAhead_of_mark (by decide))
  have hfunctions : Confined Ahead.always
      (Reader.many (Reader.function (Reader.fieldType depth) (Reader.field options depth)))
      (Ahead.startsWith (· == '\x7d')) :=
    (many (function depth) Front.quits (fun hm => quits_of_mark hm (by decide))
      (failsAlone_function (by decide))).mono (fun _ => trivial) fun hm => hm
  exact (opening "service").bind fun _ => identifier_always.bind fun _ =>
    hparent.bind fun _ => (mark (by decide)).bind fun _ => hfunctions.bind fun _ =>
    (mark (by decide)).bind fun _ => pure _

theorem definition (depth : Nat) :
    Confined (Begins ["const", "typedef", "enum", "senum", "struct", "union", "exception",
      "service"] Ahead.always) (Reader.definition options depth) Ended :=
  orElse_word (const depth)
    (orElse_word (typedef depth)
      (orElse_word enum
        (orElse_word senum
          (orElse_word (flaggedFields "struct" _ depth)
            (orElse_word (flaggedFields "union" _ depth)
              (orElse_word (exception depth) (orElse_fail (service depth))
                (by decide) (by decide) (by decide))
              (by decide) (by decide) (by decide))
            (by decide) (by decide) (by decide))
          (by decide) (by decide) (by decide))
        (by decide) (by decide) (by decide))
      (by decide) (by decide) (by decide))
    (by decide) (by decide) (by decide)

/-! ## Headers -/

theorem literalHeader (text : String) (make : String → Header) :
    Confined (Begins [text] Ahead.always) (Reader.literalHeader text make) Q :=
  (opening text).bind fun _ => literal.map _

theorem smalltalkCategory :
    Confined (Begins ["smalltalk.category"] Ahead.always) Reader.smalltalkCategory Q :=
  (opening "smalltalk.category").bind fun _ => dashedIdentifier.map _

theorem smalltalkPrefix :
    Confined (Begins ["smalltalk.prefix"] Ahead.always) Reader.smalltalkPrefix Q :=
  (opening "smalltalk.prefix").bind fun _ => identifier_always.map _

theorem scopedName :
    Confined (Begins Production.namespaceScopes Ahead.always) Reader.scopedName Q :=
  (oneOf (Q := Ahead.always) (by decide)).bind fun _ => identifier_always.map _

theorem targetNamespace :
    Confined (Begins ["namespace"] Ahead.always) Reader.targetNamespace Q :=
  (opening "namespace").bind fun _ =>
    orElse_word smalltalkCategory
      (orElse_word smalltalkPrefix (orElse_fail scopedName) (by decide) (by decide) (by decide))
      (by decide) (by decide) (by decide)

theorem header :
    Confined (Begins ["include", "cpp_include", "namespace", "php_namespace", "xsd_namespace"]
      Ahead.always) Reader.header Q :=
  orElse_word (literalHeader "include" _)
    (orElse_word (literalHeader "cpp_include" _)
      (orElse_word targetNamespace
        (orElse_word (literalHeader "php_namespace" _)
          (orElse_fail (literalHeader "xsd_namespace" _))
          (by decide) (by decide) (by decide))
        (by decide) (by decide) (by decide))
      (by decide) (by decide) (by decide))
    (by decide) (by decide) (by decide)

/-! ## A part alone -/

/-- What a reader takes off the front of a text it reads in the same way from what it takes
alone. -/
theorem read_alone {p : PartReader α} {taken rest : List Char} {a : α} (h : Confined R p Ended)
    (hread : p (taken ++ rest) = .read a rest) : p taken = .read a [] :=
  h.alone (r := rest) rfl hread

end Confined

end ThriftSchema
