import ThriftSchema.Proofs.Canonical.Roundtrip
import ThriftSchema.Proofs.Quotation.Literals

set_option autoImplicit false

/-! # The literals that are read are the strings that are scanned

A reader takes text that shows the literals of what it reads. `Quotes before p literals` says so
of a reader that goes on behind literals that have been read already, so that the literals of a
whole are collected while its parts are read one after the other. Only the token of a literal
adds one; all other tokens hold no quotes.

Comments hold no literals, and taking them out changes no string. So the strings of a text that
is read as a document are the literals of the document.

* `Quotes`: the triples, with one rule for each token and each way of putting readers together.
* `Quotes.document`: a document.
* `literals_of_ofText`: the strings of a text are the literals of its document.
-/

namespace ThriftSchema

variable {α β : Type}

/-- Behind the literals `before`, the reader takes a text that shows those which the value has
besides. -/
def Quotes (before : List Literal) (p : PartReader α) (literals : α → List Literal) : Prop :=
  ∀ ⦃input rest : List Char⦄ ⦃a : α⦄, p input = .read a rest →
    ∃ taken found, input = taken ++ rest ∧ Shows taken found ∧ literals a = before ++ found

/-- The reader takes no literals. -/
abbrev QuotesNone (p : PartReader α) : Prop := Quotes [] p fun _ => []

namespace Quotes

variable {before : List Literal} {p q : PartReader α} {f : α → PartReader β}
  {first literals : α → List Literal} {last : β → List Literal}

/-! ## Putting readers together -/

theorem pure {a : α} (h : literals a = before) : Quotes before (Pure.pure a) literals := by
  intro input rest b hread
  cases hread
  exact ⟨[], [], rfl, .nil, by rw [h, List.append_nil]⟩

theorem fail : Quotes before (Reader.fail : PartReader α) literals := fun _ _ _ h => by cases h

theorem stop {why : Stop BuildError} : Quotes before (Reader.stop why : PartReader α) literals :=
  fun _ _ _ h => by cases h

theorem bind (hp : Quotes [] p first) (hf : ∀ a, Quotes (before ++ first a) (f a) last) :
    Quotes before (p >>= f) last := by
  intro input rest b h
  obtain ⟨a, middle, hread, hrest⟩ := Reader.bind_eq_read.1 h
  obtain ⟨taken, found, rfl, hshows, hfirst⟩ := hp hread
  obtain ⟨more, others, rfl, hmore, hlast⟩ := hf a hrest
  refine ⟨taken ++ more, found ++ others, by rw [List.append_assoc], hshows.append hmore, ?_⟩
  rw [hlast, hfirst, List.nil_append, List.append_assoc]

/-- A reader that takes no literals in front of another. -/
theorem skip (hp : QuotesNone p) (hf : ∀ a, Quotes before (f a) last) :
    Quotes before (p >>= f) last :=
  hp.bind fun a => by
    rw [List.append_nil]
    exact hf a

theorem map {g : α → β} (hp : Quotes [] p first) (h : ∀ a, last (g a) = first a) :
    Quotes [] (p >>= fun a => Pure.pure (g a)) last :=
  hp.bind fun a => pure (h a)

theorem congr (hp : Quotes before p first) (h : ∀ a, literals a = first a) :
    Quotes before p literals := by
  intro input rest a hread
  rw [h]
  exact hp hread

theorem orElse (hp : Quotes before p literals) (hq : Quotes before q literals) :
    Quotes before (p <|> q) literals := by
  intro input rest a h
  rcases Reader.orElse_eq_read.1 h with h | ⟨-, h⟩
  · exact hp h
  · exact hq h

theorem optional (hp : Quotes [] p literals) :
    Quotes [] (Reader.optional p) fun o => o.toList.flatMap literals := by
  intro input rest o h
  rcases Reader.optional_eq_read.1 h with ⟨a, rfl, hread⟩ | ⟨rfl, -, rfl⟩
  · obtain ⟨taken, found, hinput, hshows, hfound⟩ := hp hread
    exact ⟨taken, found, hinput, hshows, by simpa using hfound⟩
  · exact ⟨[], [], rfl, .nil, rfl⟩

theorem manyWithin (hp : Quotes [] p literals) (bound : List Char) :
    Quotes [] (Reader.manyWithin p bound) fun as => as.flatMap literals := by
  induction bound with
  | nil => exact stop
  | cons c bound ih =>
      intro input rest as h
      rcases Reader.manyWithin_eq_read.1 h with
        ⟨-, rfl, rfl⟩ | ⟨a, middle, hread, ⟨-, rfl, rfl⟩ | ⟨-, bs, hmore, rfl⟩⟩
      · exact ⟨[], [], rfl, .nil, rfl⟩
      · obtain ⟨taken, found, hinput, hshows, hfound⟩ := hp hread
        exact ⟨taken, found, hinput, hshows, by simpa using hfound⟩
      · obtain ⟨taken, found, rfl, hshows, hfound⟩ := hp hread
        obtain ⟨more, others, rfl, hothers, hbs⟩ := ih hmore
        refine ⟨taken ++ more, found ++ others, by rw [List.append_assoc],
          hshows.append hothers, ?_⟩
        have hmore : bs.flatMap literals = others := hbs
        show (a :: bs).flatMap literals = found ++ others
        rw [List.flatMap_cons, hfound, hmore]
        rfl

theorem many (hp : Quotes [] p literals) :
    Quotes [] (Reader.many p) fun as => as.flatMap literals :=
  fun _ _ _ h => manyWithin hp _ h

/-! ## Tokens -/

theorem of_unopened (h : ∀ {input rest a}, p input = .read a rest →
    ∃ taken, input = taken ++ rest ∧ ∀ c ∈ taken, Comment.isOpener c = false) :
    QuotesNone p := by
  intro input rest a hread
  obtain ⟨taken, hinput, hplain⟩ := h hread
  exact ⟨taken, [], hinput, .of_forall hplain, rfl⟩

theorem layout : QuotesNone Reader.layout := by
  refine of_unopened fun {input rest a} h => ?_
  obtain ⟨blanks, hsplit, hlayout⟩ := Reader.exists_layout input
  rw [Reader.layout_eq] at h
  cases h
  exact ⟨blanks, hsplit, fun c hc => not_isOpener_of (hlayout c hc) (by decide)⟩

theorem spaced (hp : Quotes [] p literals) : Quotes [] (Reader.spaced p) literals :=
  hp.bind fun _ => layout.bind fun _ => pure (by simp)

theorem not_isOpener_of_isSpelled {c : Char} (h : isSpelled c = true) :
    Comment.isOpener c = false := not_isOpener_of h (by decide)

theorem lexeme {pattern : Pattern} (h : ∀ {input lexeme rest},
    Reader.measured pattern input = .read lexeme rest →
      input = lexeme ++ rest ∧ ∀ c ∈ lexeme, isSpelled c = true) :
    QuotesNone (Reader.lexeme pattern) := by
  refine spaced (of_unopened fun hread => ?_)
  obtain ⟨hinput, hspelled⟩ := h hread
  exact ⟨_, hinput, fun c hc => not_isOpener_of_isSpelled (hspelled c hc)⟩

theorem keyword {text : String} (h : ∀ c ∈ text.toList, Comment.isOpener c = false) :
    QuotesNone (Reader.keyword text) :=
  of_unopened fun hread => ⟨text.toList, (Reader.keyword_eq_read.1 hread).1, h⟩

theorem word {text : String} (h : ∀ c ∈ text.toList, Comment.isOpener c = false) :
    QuotesNone (Reader.word text) := spaced (keyword h)

theorem symbol {text : String} (h : ∀ c ∈ text.toList, Comment.isOpener c = false) :
    QuotesNone (Reader.symbol text) :=
  spaced (of_unopened fun hread => ⟨text.toList, Reader.characters_eq_read.1 hread, h⟩)

theorem oneOf {words : List String}
    (h : ∀ text ∈ words, ∀ c ∈ text.toList, Comment.isOpener c = false) :
    QuotesNone (Reader.oneOf words) := by
  refine spaced ?_
  induction words with
  | nil => exact fail
  | cons text words ih =>
      exact ((keyword (h text (List.mem_cons_self ..))).map fun _ => rfl).orElse
        (ih fun other hother => h other (List.mem_cons_of_mem _ hother))

theorem flag {text : String} (h : ∀ c ∈ text.toList, Comment.isOpener c = false) :
    QuotesNone (Reader.flag text) := (word h).optional.map fun o => by cases o <;> rfl

theorem identifier : QuotesNone Reader.identifier := by
  refine (lexeme fun h => ?_).map fun _ => rfl
  obtain ⟨hinput, hname, -⟩ := Reader.identifier_measured.1 h
  exact ⟨hinput, isSpelled_of_isWord (fun _ => isSpelled_of_isNameChar) hname⟩

theorem dashedIdentifier : QuotesNone Reader.dashedIdentifier := by
  refine (lexeme fun h => ?_).map fun _ => rfl
  obtain ⟨hinput, hname, -⟩ := Reader.dashedIdentifier_measured.1 h
  exact ⟨hinput, isSpelled_of_isWord (fun _ => isSpelled_of_isDashedNameChar) hname⟩

theorem integer : QuotesNone Reader.integer := by
  refine (lexeme fun h => ?_).bind fun cs => ?_
  · obtain ⟨hinput, ⟨value, hvalue⟩, -⟩ := Reader.integer_measured.1 h
    exact ⟨hinput, isSpelled_of_isInteger hvalue⟩
  · unfold Reader.decimalValue
    split
    · exact pure rfl
    · exact stop
    · exact fail

theorem hexadecimal : QuotesNone Reader.hexadecimal := by
  refine (lexeme fun h => ?_).bind fun cs => ?_
  · obtain ⟨hinput, ⟨value, hvalue⟩, -⟩ := Reader.hexadecimal_measured.1 h
    exact ⟨hinput, isSpelled_of_isHexadecimal hvalue⟩
  · unfold Reader.hexadecimalValue
    split
    · exact pure rfl
    · exact fail

theorem double : QuotesNone Reader.double := by
  refine (lexeme fun h => ?_).bind fun cs => ?_
  · obtain ⟨hinput, hdecimal, -⟩ := Reader.decimal_measured h
    exact ⟨hinput, isSpelled_of_isDecimal hdecimal⟩
  · unfold Reader.doubleValue
    split
    · exact pure rfl
    · exact fail

theorem separator : QuotesNone Reader.separator := by
  have hmark : QuotesNone (Reader.lexeme Pattern.separator) := by
    refine spaced (of_unopened fun h => ?_)
    obtain ⟨hinput, hmark⟩ := Reader.separator_measured.1 h
    refine ⟨_, hinput, ?_⟩
    rcases hmark with rfl | rfl <;> decide
  exact hmark.optional.map fun o => by cases o <;> rfl

theorem isOf_whole (content : String) : (Literal.whole content).IsOf content := rfl

/-- The name of a header is trimmed after it is read. -/
theorem isOf_trimmed (content : String) : (Literal.trimmed (Text.trim content)).IsOf content := rfl

/-- The only token that holds a literal. -/
theorem literal {make : String → Literal} (h : ∀ content, (make content).IsOf content) :
    Quotes [] Reader.literal fun content => [make content] := by
  intro input rest text hread
  obtain ⟨lexeme, middle, hlexeme, hpure⟩ := Reader.bind_eq_read.1 hread
  obtain ⟨after, hmeasured, rfl⟩ := Reader.spaced_eq_read.1 hlexeme
  obtain ⟨rfl, content, hquoted⟩ := Reader.literal_measured.1 hmeasured
  obtain ⟨blanks, hsplit, hlayout⟩ := Reader.exists_layout after
  cases hpure
  cases hquoted with
  | @intro mark _ quote absent =>
      have hcontent : ((mark :: (content ++ [mark])).drop 1).dropLast = content := by simp
      have hblanks : Shows blanks [] :=
        .of_forall fun c hc => not_isOpener_of (hlayout c hc) (by decide)
      rw [hcontent]
      refine ⟨mark :: (content ++ [mark]) ++ blanks, _, ?_,
        .quoted (.intro quote absent) (h _) hblanks, rfl⟩
      rw [List.append_assoc, ← hsplit]

/-! ## Types -/

theorem hint : Quotes [] Reader.hint hintLiterals :=
  ((word (by decide)).skip fun _ => literal isOf_whole).optional.congr fun o => by cases o <;> rfl

theorem containerType {type : PartReader FieldType} (h : Quotes [] type FieldType.literals) :
    Quotes [] (Reader.containerType type) FieldType.literals := by
  have hmap : Quotes [] (Reader.mapType type) FieldType.literals :=
    (word (by decide)).skip fun _ => hint.bind fun hint => (symbol (by decide)).skip fun _ =>
      h.bind fun key => (symbol (by decide)).skip fun _ => h.bind fun value =>
      (symbol (by decide)).skip fun _ => pure (by simp [FieldType.literals])
  have hset : Quotes [] (Reader.setType type) FieldType.literals :=
    (word (by decide)).skip fun _ => hint.bind fun hint => (symbol (by decide)).skip fun _ =>
      h.bind fun element => (symbol (by decide)).skip fun _ => pure (by simp [FieldType.literals])
  have hlist : Quotes [] (Reader.listType type) FieldType.literals :=
    (word (by decide)).skip fun _ => (symbol (by decide)).skip fun _ => h.bind fun element =>
      (symbol (by decide)).skip fun _ => hint.bind fun hint => pure (by simp [FieldType.literals])
  exact hmap.orElse (hset.orElse (hlist.orElse fail))

theorem baseType : Quotes [] Reader.baseType FieldType.literals :=
  (oneOf (by decide)).map fun _ => rfl

theorem fieldType (depth : Nat) : Quotes [] (Reader.fieldType depth) FieldType.literals := by
  induction depth with
  | zero => exact stop
  | succ depth ih =>
      exact (containerType ih).orElse (baseType.orElse ((identifier.map fun _ => rfl).orElse fail))

theorem returnType {type : PartReader FieldType} (h : Quotes [] type FieldType.literals) :
    Quotes [] (Reader.returnType type) ReturnType.literals := by
  have hvoid : Quotes [] (do Reader.word "void"; return .void) ReturnType.literals :=
    (word (by decide)).map fun _ => rfl
  have htype : Quotes [] (do return .type (← type)) ReturnType.literals := h.map fun _ => rfl
  exact hvoid.orElse (htype.orElse fail)

/-! ## Constants -/

theorem constant (depth : Nat) : Quotes [] (Reader.constant depth) ConstValue.literals := by
  induction depth with
  | zero => exact stop
  | succ depth ih =>
      have hitem : Quotes [] (Reader.listItem (Reader.constant depth)) ConstValue.literals :=
        ih.bind fun _ => separator.skip fun _ => pure (by simp)
      have hlist : Quotes [] (Reader.constantList (Reader.constant depth)) ConstValue.literals :=
        (symbol (by decide)).skip fun _ => hitem.many.bind fun values =>
          (symbol (by decide)).skip fun _ => pure (by simp [ConstValue.literals, itemLiterals_eq])
      have hentry : Quotes [] (Reader.mapEntry (Reader.constant depth)) entryOfLiterals :=
        ih.bind fun key => (symbol (by decide)).skip fun _ => ih.bind fun value =>
          separator.skip fun _ => pure (by simp [entryOfLiterals])
      have hmap : Quotes [] (Reader.constantMap (Reader.constant depth)) ConstValue.literals :=
        (symbol (by decide)).skip fun _ => hentry.many.bind fun entries =>
          (symbol (by decide)).skip fun _ => pure (by simp [ConstValue.literals, entryLiterals_eq])
      have hliteral : Quotes [] Reader.literal fun text => [.whole text] := literal isOf_whole
      exact (hexadecimal.map fun _ => rfl).orElse <| (double.map fun _ => rfl).orElse <|
        (integer.map fun _ => rfl).orElse <| (hliteral.map fun _ => rfl).orElse <|
        (identifier.map fun _ => rfl).orElse <| hlist.orElse <| hmap.orElse fail

/-! ## Fields and functions -/

theorem fieldId : QuotesNone Reader.fieldId :=
  integer.skip fun _ => (symbol (by decide)).map fun _ => rfl

theorem requiredness : QuotesNone Reader.requiredness := by
  refine (oneOf (by decide)).skip fun text => ?_
  unfold Reader.requirednessOf
  split
  · exact pure rfl
  · exact pure rfl
  · exact fail

theorem assigned (hp : Quotes [] p literals) : Quotes [] (Reader.assigned p) literals :=
  (symbol (by decide)).skip fun _ => hp

theorem optional_none (hp : QuotesNone p) : QuotesNone (Reader.optional p) :=
  hp.optional.congr fun o => by cases o <;> rfl

theorem block {text opener closer : String} {field : PartReader Field}
    (htext : ∀ c ∈ text.toList ++ opener.toList ++ closer.toList, Comment.isOpener c = false)
    (h : Quotes [] field Field.literals) :
    Quotes [] (Reader.block text opener closer field) fieldLiterals :=
  (word fun c hc => htext c (by simp [hc])).skip fun _ =>
    (symbol fun c hc => htext c (by simp [hc])).skip fun _ => h.many.bind fun fields =>
    (symbol fun c hc => htext c (by simp [hc])).skip fun _ => pure (by simp [fieldLiterals_eq])

/-- The attributes of a field are kept, whatever its flags. -/
theorem exportedLiterals_eq (isOptional isNillable : Bool) (attributes : Option (List Field)) :
    exportedLiterals (Reduction.exportOptions isOptional isNillable
      (attributes.map fun as => ⟨false, false, as⟩)) = attributes.toList.flatMap fieldLiterals := by
  cases attributes with
  | none => cases isOptional <;> cases isNillable <;> rfl
  | some as => simp [Reduction.exportOptions, exportedLiterals]

theorem field (options : BuildOptions) (depth : Nat) :
    Quotes [] (Reader.field options depth) Field.literals := by
  induction depth with
  | zero => exact stop
  | succ depth ih =>
      have hattributes : Quotes [] (Reader.attributes (Reader.field options depth)) fieldLiterals :=
        block (by decide) ih
      exact (optional_none fieldId).skip fun _ => (optional_none requiredness).skip fun _ =>
        (fieldType depth).bind fun _ => identifier.skip fun _ =>
        (assigned (constant depth)).optional.bind fun _ => (flag (by decide)).skip fun _ =>
        (flag (by decide)).skip fun _ => hattributes.optional.bind fun _ => separator.skip fun _ =>
        pure (by simp [Field.literals, exportedLiterals_eq])

theorem function {type : PartReader FieldType} {field : PartReader Field}
    (htype : Quotes [] type FieldType.literals) (hfield : Quotes [] field Field.literals) :
    Quotes [] (Reader.function type field) Function.literals := by
  have hthrows : Quotes [] (Reader.throws field) fieldLiterals := block (by decide) hfield
  refine (flag (by decide)).skip fun _ => (returnType htype).bind fun _ => identifier.skip fun _ =>
    (symbol (by decide)).skip fun _ => hfield.many.bind fun _ => (symbol (by decide)).skip fun _ =>
    hthrows.optional.bind fun throws => separator.skip fun _ => pure ?_
  cases throws <;> simp [Function.literals, fieldLiterals_eq]

/-! ## Definitions -/

section Definitions

variable (options : BuildOptions) (depth : Nat)

theorem const : Quotes [] (Reader.const depth) Definition.literals :=
  (word (by decide)).skip fun _ => (fieldType depth).bind fun _ => identifier.skip fun _ =>
    (symbol (by decide)).skip fun _ => (constant depth).bind fun _ => separator.skip fun _ =>
    pure (by simp [Definition.literals])

theorem typedef : Quotes [] (Reader.typedef depth) Definition.literals := by
  have htype : Quotes [] (Reader.definitionType (Reader.fieldType depth)) FieldType.literals :=
    baseType.orElse ((containerType (fieldType depth)).orElse fail)
  exact (word (by decide)).skip fun _ => htype.bind fun _ => identifier.skip fun _ =>
    separator.skip fun _ => pure (by simp [Definition.literals])

/-- The parts of a definition between its brackets. -/
theorem body {items : PartReader α} {make : List α → Definition} (h : Quotes [] items literals)
    (hmake : ∀ parts, (make parts).literals = parts.flatMap literals) :
    Quotes [] (do
      Reader.symbol "\x7b"
      let parts ← Reader.many items
      Reader.symbol "\x7d"
      return make parts) Definition.literals :=
  (symbol (by decide)).skip fun _ => h.many.bind fun parts => (symbol (by decide)).skip fun _ =>
    pure (by simp [hmake])

theorem enum : Quotes [] (Reader.enum options) Definition.literals := by
  have hvalue : QuotesNone Reader.enumValue :=
    identifier.skip fun _ => (optional_none (assigned (hexadecimal.orElse
      (integer.orElse fail)))).skip fun _ => separator.skip fun _ => pure rfl
  exact (word (by decide)).skip fun _ => identifier.skip fun _ =>
    body hvalue fun values => by simp [Definition.literals]

theorem senum : Quotes [] Reader.senum Definition.literals := by
  have hitem : Quotes [] Reader.literalItem fun text => [.whole text] :=
    (literal isOf_whole).bind fun _ => separator.skip fun _ => pure (by simp)
  exact (word (by decide)).skip fun _ => identifier.skip fun _ =>
    body hitem fun values => by simp [Definition.literals, List.map_eq_flatMap]

theorem flaggedFields {text : String} {make : String → List Field → Bool → Definition}
    (htext : ∀ c ∈ text.toList, Comment.isOpener c = false)
    (hmake : ∀ name fields exportAll,
      (make name fields exportAll).literals = fields.flatMap Field.literals) :
    Quotes [] (Reader.flaggedFields text make options depth) Definition.literals :=
  (word htext).skip fun name => identifier.skip fun _ => (flag (by decide)).skip fun _ =>
    body (field options depth) fun _ => hmake _ _ _

theorem exception : Quotes [] (Reader.exception options depth) Definition.literals :=
  (word (by decide)).skip fun _ => identifier.skip fun _ => body (field options depth) fun _ => rfl

theorem service : Quotes [] (Reader.service options depth) Definition.literals := by
  have hparent : QuotesNone Reader.parent := (word (by decide)).skip fun _ => identifier
  exact (word (by decide)).skip fun _ => identifier.skip fun _ => (optional_none hparent).skip
    fun _ => body (function (fieldType depth) (field options depth)) fun _ => rfl

theorem definition : Quotes [] (Reader.definition options depth) Definition.literals :=
  (const depth).orElse <| (typedef depth).orElse <| (enum options).orElse <| senum.orElse <|
    (flaggedFields options depth (by decide) fun _ _ _ => rfl).orElse <|
    (flaggedFields options depth (by decide) fun _ _ _ => rfl).orElse <|
    (exception options depth).orElse <| (service options depth).orElse fail

end Definitions

/-! ## Documents -/

theorem literalHeader {text : String} {make : String → Header} {wrap : String → Literal}
    (htext : ∀ c ∈ text.toList, Comment.isOpener c = false)
    (hwrap : ∀ content, (wrap content).IsOf content)
    (hmake : ∀ content, (make content).literals = [wrap content]) :
    Quotes [] (Reader.literalHeader text make) Header.literals :=
  (word htext).skip fun _ => (literal hwrap).map hmake

theorem header : Quotes [] Reader.header Header.literals := by
  have hcategory : Quotes [] Reader.smalltalkCategory Header.literals :=
    (word (by decide)).skip fun _ => dashedIdentifier.map fun _ => rfl
  have hclass : Quotes [] Reader.smalltalkPrefix Header.literals :=
    (word (by decide)).skip fun _ => identifier.map fun _ => rfl
  have hscoped : Quotes [] Reader.scopedName Header.literals :=
    (oneOf (by decide)).skip fun _ => identifier.map fun _ => rfl
  have hnamespace : Quotes [] Reader.targetNamespace Header.literals :=
    (word (by decide)).skip fun _ => hcategory.orElse (hclass.orElse (hscoped.orElse fail))
  exact (literalHeader (by decide) isOf_whole fun _ => rfl).orElse <|
    (literalHeader (by decide) isOf_whole fun _ => rfl).orElse <| hnamespace.orElse <|
    (literalHeader (by decide) isOf_trimmed fun _ => rfl).orElse <|
    (literalHeader (by decide) isOf_trimmed fun _ => rfl).orElse fail

theorem document (options : BuildOptions) (depth : Nat) :
    Quotes [] (Reader.document options depth) Document.literals := by
  have hfinish : QuotesNone Reader.finish := by
    refine of_unopened fun {input rest a} h => ?_
    obtain ⟨rfl, rfl⟩ := Sound.finish h
    exact ⟨[], rfl, List.forall_mem_nil _⟩
  exact layout.skip fun _ => header.many.bind fun _ => (definition options depth).many.bind
    fun _ => hfinish.skip fun _ => pure (by simp [Document.literals])

end Quotes

/-! ## The strings of a text -/

/-- Taking comments out leaves the tokens of all other kinds, but for runs of text. -/
theorem ofKind_scan_stripComments {kind : Comment.TokenKind} (htext : kind ≠ .text)
    (hcomment : kind.isComment = false) (text : String) :
    Comment.ofKind kind (Comment.Token.scan (stripComments text).toList) =
      Comment.ofKind kind (Comment.Token.scan text.toList) := by
  rw [stripComments, String.toList_ofList, Comment.scan_strip, Comment.ofKind_joinText htext,
    Comment.kept, Comment.ofKind, List.filter_filter]
  refine List.filter_congr fun token _ => ?_
  by_cases hkind : token.kind = kind
  · rw [hkind, hcomment, Bool.not_false, Bool.and_true]
  · rw [beq_false_of_ne hkind, Bool.false_and]

/-- **The strings of a text that is read as a document are the literals of the document**, in the
order of the productions, with nothing lost to a comment and nothing taken from one; and no
slash and no quote of the text opens nothing. -/
theorem literals_of_ofText {limit : Nat} (options : BuildOptions) (text : String)
    (source : Option String) (d : Document)
    (h : Document.ofText limit options text source = .ok d) :
    Comment.ofKind .stray (Comment.Token.scan text.toList) = [] ∧
      List.Forall₂ Literal.IsOf d.literals
        ((Comment.ofKind .string (Comment.Token.scan text.toList)).map Comment.Token.content) := by
  obtain ⟨taken, found, htaken, hshows, hfound⟩ :=
    Quotes.document options limit (ofText_eq_ok_iff.1 h)
  obtain rfl : d.literals = found := hfound
  rw [List.append_nil] at htaken
  have hscan := hshows.literals_of_scan
  rwa [← htaken, ofKind_scan_stripComments (by decide) rfl,
    ofKind_scan_stripComments (by decide) rfl] at hscan

/-- The canonical text of the sample behind a comment that holds a quote of either kind. -/
def commentedSample : String := "/* it's \"new */" ++ Spelling.usual.text Canonical.sample

theorem Comment.splitAtClose_append {content : List Char} (h : '*' ∉ content) (rest : List Char) :
    splitAtClose (content ++ '*' :: '/' :: rest) = some (content, rest) := by
  induction content with
  | nil => rfl
  | cons c content ih =>
      simp only [List.mem_cons, not_or] at h
      rw [List.cons_append, splitAtClose, ih h.2]
      · rfl
      · rintro _ rfl
        exact absurd rfl h.1

theorem stripComments_commentedSample :
    stripComments commentedSample = stripComments (Spelling.usual.text Canonical.sample) := by
  have hsplit : commentedSample.toList = '/' :: '*' :: (" it's \"new ".toList ++ '*' :: '/' ::
      (Spelling.usual.text Canonical.sample).toList) := by
    rw [commentedSample, String.toList_append]
    rfl
  rw [stripComments, stripComments, hsplit, (Comment.NextToken.block
    (Comment.splitAtClose_append (by decide) _)).strip_of_comment rfl]

theorem literals_of_ofText_sample :
    Document.ofText 60 ⟨true, false⟩ commentedSample none = .ok Canonical.sample ∧
      List.Forall₂ Literal.IsOf Canonical.sample.literals
        ((Comment.ofKind .string (Comment.Token.scan commentedSample.toList)).map
          Comment.Token.content) := by
  have hcanonical : Document.ofText 60 ⟨true, false⟩ (Spelling.usual.text Canonical.sample) none =
      .ok Canonical.sample :=
    Canonical.ofText_of_fits rfl rfl (by decide) Canonical.documentFits_sample none
  have hread : Document.ofText 60 ⟨true, false⟩ commentedSample none = .ok Canonical.sample := by
    rw [ofText_eq_ok_iff, stripComments_commentedSample]
    exact ofText_eq_ok_iff.1 hcanonical
  exact ⟨hread, (literals_of_ofText _ _ none _ hread).2⟩

end ThriftSchema
