import ThriftSchema.Proofs.Canonical.Document
import ThriftSchema.Proofs.Reading
import ThriftSchema.Proofs.Text.Plain

set_option autoImplicit false

/-! # Reading, printing and the grammar

A canonical text has no comments, since only its literals hold characters that could open one.
So it is read as its tokens are, and gives the document back. And whatever text is read as a
document, canonical or not, is a phrase of the grammar for it.
-/

namespace ThriftSchema.Canonical

open Comment (isOpener)

variable {limit : Nat} {s : Spelling} {depth : Nat}

/-! ## Tokens without comments -/

/-- A token that a comment cannot be in. -/
structure IsToken (token : String) : Prop where
  visible : Visible token
  plain : Plain token.toList

/-- A token without characters that open something. -/
abbrev IsBare (token : String) : Prop :=
  Visible token ∧ token.toList.all (fun c => !isOpener c) = true

theorem IsBare.isToken {token : String} (h : IsBare token) : IsToken token :=
  ⟨h.1, .of_forall fun c hc => by simpa using List.all_eq_true.1 h.2 c hc⟩

theorem isToken_of_isWord {C D : Char → Bool} {token : String} (h : IsWord C D token.toList)
    (hvisible : Visible token) (hC : ∀ d ∈ ['/', '\x22', '\x27'], C d = false)
    (hD : ∀ d ∈ ['/', '\x22', '\x27'], D d = false) : IsToken token := by
  refine ⟨hvisible, .of_forall fun c hc => ?_⟩
  cases htoken : token.toList with
  | nil => simp [htoken] at hc
  | cons d ds =>
      rw [htoken] at h hc
      rcases List.mem_cons.1 hc with rfl | hc
      · exact not_isOpener_of h.1 hC
      · exact not_isOpener_of (h.2 c hc) hD

theorem isToken_name {token : String} (h : IsName token.toList) : IsToken token :=
  isToken_of_isWord h (visible_of_begins_isNameStart (begins_of_isWord h)) (by decide) (by decide)

theorem isToken_dashedName {token : String} (h : IsDashedName token.toList) : IsToken token :=
  isToken_of_isWord h (visible_of_begins_isNameStart (begins_of_isWord h)) (by decide) (by decide)

theorem isToken_literal {text : String} (h : s.LiteralFits text) : IsToken (s.literal text) := by
  refine ⟨visible_literal h, ?_⟩
  rw [toList_literal]
  simpa using Plain.quoted (.intro h.1 h.2) .nil

theorem isToken_integer (n : Int) : IsToken (toString n) :=
  ⟨visible_toString n, .of_forall fun c hc =>
    not_isOpener_of (isSpelled_of_isInteger (Number.isInteger_toString n) c hc) (by decide)⟩

theorem isToken_double {x : Number.Double} (h : s.DoubleFits x) : IsToken (s.double x) :=
  ⟨visible_double h, .of_forall fun c hc =>
    not_isOpener_of (isSpelled_of_isDecimal h.1 c hc) (by decide)⟩

/-! ## The tokens of productions -/

/-- All tokens are without comments. -/
def AreTokens (tokens : List String) : Prop := ∀ token ∈ tokens, IsToken token

theorem AreTokens.nil : AreTokens [] := fun _ h => absurd h List.not_mem_nil

theorem AreTokens.append {tokens others : List String} (h : AreTokens tokens)
    (hothers : AreTokens others) : AreTokens (tokens ++ others) :=
  List.forall_mem_append.2 ⟨h, hothers⟩

theorem AreTokens.cons {token : String} {tokens : List String} (h : IsToken token)
    (htokens : AreTokens tokens) : AreTokens (token :: tokens) :=
  List.forall_mem_cons.2 ⟨h, htokens⟩

theorem AreTokens.word {token : String} {tokens : List String} (hbare : IsBare token)
    (h : AreTokens tokens) : AreTokens (token :: tokens) := .cons hbare.isToken h

theorem areTokens_flatMap {α : Type} {items : List α} {print : α → List String}
    (h : ∀ a ∈ items, AreTokens (print a)) : AreTokens (items.flatMap print) := by
  intro token htoken
  obtain ⟨a, ha, hmem⟩ := List.mem_flatMap.1 htoken
  exact h a ha token hmem

theorem areTokens_flag {word : String} (h : IsBare word) (present : Bool) :
    AreTokens (Spelling.flag word present) := by
  cases present with
  | false => exact .nil
  | true => exact .word h .nil

theorem areTokens_hint {hint : Option String} (h : ∀ text ∈ hint, s.LiteralFits text) :
    AreTokens (s.hint hint) := by
  cases hint with
  | none => exact .nil
  | some text => exact .word (by decide) (.cons (isToken_literal (h text rfl)) .nil)

theorem areTokens_type {type : FieldType} (h : s.TypeFits depth type) :
    AreTokens (s.type type) := by
  induction h with
  | named hname hbase => exact .cons (isToken_name hname) .nil
  | @base _ name hbase =>
      have hall : ∀ name ∈ Production.baseTypeNames, IsBare name := by decide
      exact .word (hall name hbase) .nil
  | map hkey hvalue hhint ihkey ihvalue =>
      exact .word (by decide) <| (areTokens_hint hhint).append <| .word (by decide) <|
        ihkey.append <| .word (by decide) <| ihvalue.append <| .word (by decide) .nil
  | set helement hhint ih =>
      exact .word (by decide) <| (areTokens_hint hhint).append <| .word (by decide) <|
        ih.append <| .word (by decide) .nil
  | list helement hhint ih =>
      exact .word (by decide) <| .word (by decide) <| ih.append <| .word (by decide) <|
        areTokens_hint hhint

theorem areTokens_constant {value : ConstValue} (h : s.ConstantFits depth value) :
    AreTokens (s.constant value) := by
  induction h with
  | integer h => exact .cons (isToken_integer _) .nil
  | double h => exact .cons (isToken_double h) .nil
  | literal h => exact .cons (isToken_literal h) .nil
  | reference h => exact .cons (isToken_name h) .nil
  | list h ih =>
      rw [Spelling.constant, constants_eq_flatMap]
      refine .word (by decide) <| (areTokens_flatMap fun value hvalue => ?_).append <|
        .word (by decide) .nil
      exact (ih value hvalue).append (.word (by decide) .nil)
  | map hkeys hvalues ihkeys ihvalues =>
      rw [Spelling.constant, mapEntries_eq_flatMap]
      refine .word (by decide) <| (areTokens_flatMap fun entry hentry => ?_).append <|
        .word (by decide) .nil
      exact (ihkeys entry hentry).append <| .word (by decide) <|
        (ihvalues entry hentry).append <| .word (by decide) .nil

theorem areTokens_fields {fields : List Field} (h : ∀ f ∈ fields, AreTokens (s.field f)) :
    AreTokens (s.fields fields) := by
  rw [fields_eq_flatMap]
  exact areTokens_flatMap h

theorem areTokens_field {f : Field} (h : s.FieldFits depth f) : AreTokens (s.field f) := by
  induction h with
  | @intro depth f htype hname hid hdefault hrequiredness hroom hexported ih =>
  obtain ⟨type, name, id, default, requiredness, exported⟩ := f
  obtain ⟨optional, nillable, block, htokens, -, hblock⟩ :=
    exists_exportOptions (s := s) exported
  have hidTokens : AreTokens (Spelling.fieldId id) := by
    cases id with
    | none => exact .nil
    | some n => exact .cons (isToken_integer n) (.word (by decide) .nil)
  have hrequirednessTokens : AreTokens (Spelling.requiredness requiredness) := by
    match requiredness with
    | none => exact .nil
    | some .required => exact .word (by decide) .nil
    | some .optional => exact .word (by decide) .nil
  have hdefaultTokens : AreTokens (s.default default) := by
    cases default with
    | none => exact .nil
    | some value => exact .word (by decide) (areTokens_constant (hdefault value rfl))
  have hblockTokens : AreTokens (blockTokens s block) := by
    cases block with
    | none => exact .nil
    | some attributes =>
        obtain ⟨x, hx, rfl⟩ := hblock attributes rfl
        exact .word (by decide) <| .word (by decide) <| (areTokens_fields (ih x hx)).append <|
          .word (by decide) .nil
  rw [Spelling.field, htokens]
  exact hidTokens.append <| hrequirednessTokens.append <| (areTokens_type htype).append <|
    .cons (isToken_name hname) <| hdefaultTokens.append <|
    ((areTokens_flag (by decide) _).append <| (areTokens_flag (by decide) _).append
      hblockTokens).append <| .word (by decide) .nil

theorem areTokens_function {f : Function} (h : s.FunctionFits depth f) :
    AreTokens (s.function f) := by
  obtain ⟨returns, name, arguments, throws, oneway⟩ := f
  have hreturns : AreTokens (s.returnType returns) := by
    cases returns with
    | void => exact .word (by decide) .nil
    | type type => exact areTokens_type (h.returns type rfl)
  have hthrows : AreTokens (s.throws throws) := by
    cases throws with
    | none => exact .nil
    | some errors =>
        exact .word (by decide) <| .word (by decide) <|
          (areTokens_fields fun g hg => areTokens_field (h.throws errors rfl g hg)).append <|
          .word (by decide) .nil
  exact (areTokens_flag (by decide) _).append <| hreturns.append <| .cons (isToken_name h.name) <|
    .word (by decide) <|
    (areTokens_fields fun g hg => areTokens_field (h.arguments g hg)).append <|
    .word (by decide) <| hthrows.append <| .word (by decide) .nil

theorem areTokens_enumValue {v : EnumValue} (h : Spelling.EnumValueFits v) :
    AreTokens (Spelling.enumValue v) := by
  obtain ⟨name, value, counted⟩ := v
  cases value with
  | none => exact .cons (isToken_name h.name) (.word (by decide) .nil)
  | some n =>
      exact .cons (isToken_name h.name) <| .word (by decide) <| .cons (isToken_integer n) <|
        .word (by decide) .nil

theorem areTokens_definition {d : Definition} (h : s.DefinitionFits depth d) :
    AreTokens (s.definition d) := by
  have hbraces : ∀ {fields : List Field}, (∀ f ∈ fields, s.FieldFits depth f) →
      AreTokens ("\x7b" :: (s.fields fields ++ ["\x7d"])) := fun hfields =>
    .word (by decide) <| (areTokens_fields fun f hf => areTokens_field (hfields f hf)).append <|
      .word (by decide) .nil
  cases h with
  | const htype hname hvalue =>
      exact .word (by decide) <| (areTokens_type htype).append <| .cons (isToken_name hname) <|
        .word (by decide) <| (areTokens_constant hvalue).append <| .word (by decide) .nil
  | typedef htype hnew hname =>
      exact .word (by decide) <| (areTokens_type htype).append <| .cons (isToken_name hname) <|
        .word (by decide) .nil
  | enum hname hvalues =>
      exact .word (by decide) <| .cons (isToken_name hname) <| .word (by decide) <|
        (areTokens_flatMap fun v hv => areTokens_enumValue (hvalues v hv)).append <|
        .word (by decide) .nil
  | senum hname hvalues =>
      refine .word (by decide) <| .cons (isToken_name hname) <| .word (by decide) <|
        (areTokens_flatMap fun text htext => ?_).append <| .word (by decide) .nil
      exact .cons (isToken_literal (hvalues text htext)) (.word (by decide) .nil)
  | struct hname hfields =>
      exact .word (by decide) <| .cons (isToken_name hname) <|
        (areTokens_flag (by decide) _).append (hbraces hfields)
  | union hname hfields =>
      exact .word (by decide) <| .cons (isToken_name hname) <|
        (areTokens_flag (by decide) _).append (hbraces hfields)
  | exception hname hfields =>
      exact .word (by decide) <| .cons (isToken_name hname) (hbraces hfields)
  | @service name extended functions hname hextended hfunctions =>
      have hparent : AreTokens (Spelling.parent extended) := by
        cases extended with
        | none => exact .nil
        | some other => exact .word (by decide) (.cons (isToken_name (hextended other rfl)) .nil)
      exact .word (by decide) <| .cons (isToken_name hname) <| hparent.append <|
        .word (by decide) <|
        (areTokens_flatMap fun f hf => areTokens_function (hfunctions f hf)).append <|
        .word (by decide) .nil

theorem areTokens_header {header : Header} (h : s.HeaderFits header) :
    AreTokens (s.header header) := by
  cases h with
  | «include» h => exact .word (by decide) (.cons (isToken_literal h) .nil)
  | cppInclude h => exact .word (by decide) (.cons (isToken_literal h) .nil)
  | @targetNamespace scope name hscope hname =>
      have hall : ∀ scope ∈ Production.namespaceScopes, IsBare scope := by decide
      exact .word (by decide) <| .word (hall scope hscope) (.cons (isToken_name hname) .nil)
  | phpNamespace h htrim => exact .word (by decide) (.cons (isToken_literal h) .nil)
  | xsdNamespace h htrim => exact .word (by decide) (.cons (isToken_literal h) .nil)
  | smalltalkCategory hname =>
      exact .word (by decide) <| .word (by decide) (.cons (isToken_dashedName hname) .nil)
  | smalltalkPrefix hname =>
      exact .word (by decide) <| .word (by decide) (.cons (isToken_name hname) .nil)

theorem areTokens_document {d : Document} (h : s.DocumentFits depth d) :
    AreTokens (s.document d) :=
  (areTokens_flatMap fun header hheader => areTokens_header (h.headers header hheader)).append <|
    areTokens_flatMap fun d hd => areTokens_definition (h.definitions d hd)

/-! ## The round trip -/

theorem plain_behind {tokens : List String} (h : AreTokens tokens) : Plain (behind tokens) := by
  induction tokens with
  | nil => exact .nil
  | cons token tokens ih =>
      have htoken := h token (List.mem_cons_self ..)
      have hmore := ih fun t ht => h t (List.mem_cons_of_mem _ ht)
      exact .cons (by decide) (htoken.plain.append hmore)

theorem plain_ahead {tokens : List String} (h : AreTokens tokens) : Plain (ahead tokens) := by
  cases tokens with
  | nil => exact .nil
  | cons token tokens =>
      have htoken := h token (List.mem_cons_self ..)
      rw [ahead_cons htoken.visible]
      exact htoken.plain.append (plain_behind fun t ht => h t (List.mem_cons_of_mem _ ht))

/-- Taking comments out leaves a text alone in whose tokens there are none. -/
theorem stripComments_of_areTokens {d : Document} (h : AreTokens (s.document d)) :
    (stripComments (s.text d)).toList = ahead (s.document d) := by
  rw [stripComments, String.toList_ofList, Spelling.text,
    toList_intercalate_eq_ahead fun token ht => (h token ht).visible,
    Comment.strip_of_plain (plain_ahead h)]

/-- Taking comments out leaves a canonical text alone. -/
theorem stripComments_text {d : Document} (h : s.DocumentFits depth d) :
    (stripComments (s.text d)).toList = ahead (s.document d) :=
  stripComments_of_areTokens (areTokens_document h)

/-- A canonical text is read as its document. -/
theorem ofText_of_fits {options : BuildOptions} (hkeep : options.retainRequiredness = true)
    (hcount : options.numberEnums = false) (hroom : 2 ≤ limit) {d : Document}
    (h : s.DocumentFits limit d) (source : Option String) :
    Document.ofText limit options (s.text d) source = .ok d := by
  obtain ⟨depth, rfl⟩ := Nat.exists_eq_add_of_le' hroom
  rw [ofText_eq_ok_iff, stripComments_text h]
  exact reads_document hkeep hcount h

/-! ## A sample -/

/-- A document with headers, a constant, a struct and a service. -/
def sample : Document where
  headers := [.include "base.thrift", .targetNamespace "py" "demo.shapes"]
  definitions := [
    .const (.map (.base "string") (.base "double") (some "hash_map")) "ratios"
      (.map [(.literal "it's", .double ⟨false, 1022 * 2 ^ 52⟩)]),
    .struct "Point" [
      ⟨.named "Label", "map", some 1, none, some .required,
        some ⟨true, false, [⟨.base "string", "lang", none, some (.list []), none, none⟩]⟩⟩] true,
    .service "Store" (some "base.Store") [
      ⟨.type (.list (.named "Point") none), "cpp_type", [], some [], false⟩]]

theorem doubleFits_sample : Spelling.usual.DoubleFits ⟨false, 1022 * 2 ^ 52⟩ := by
  have htext : (Spelling.usual.double ⟨false, 1022 * 2 ^ 52⟩).toList = ['0', '.', '5'] := by
    decide +kernel
  rw [Spelling.DoubleFits, htext]
  exact ⟨@IsDecimal.fraction [] ['0'] ['5'] [] false .absent (by decide) ⟨by decide, by decide⟩
    (.inl rfl), by decide +kernel⟩

theorem documentFits_sample : Spelling.usual.DocumentFits 60 sample where
  headers := by
    intro header h
    simp only [sample, List.mem_cons, List.not_mem_nil, or_false] at h
    rcases h with rfl | rfl
    · exact .include (by decide)
    · exact .targetNamespace (by decide) (by decide)
  definitions := by
    intro d h
    simp only [sample, List.mem_cons, List.not_mem_nil, or_false] at h
    rcases h with rfl | rfl | rfl
    · refine .const (.map (.base (by decide)) (.base (by decide)) (by decide)) (by decide) ?_
      refine .map (fun entry h => ?_) (fun entry h => ?_)
      · obtain rfl := List.mem_singleton.1 h
        exact .literal (by decide)
      · obtain rfl := List.mem_singleton.1 h
        exact .double doubleFits_sample
    · refine .struct (by decide) fun f h => ?_
      obtain rfl := List.mem_singleton.1 h
      refine .intro (.named (by decide) (by decide)) (by decide) (by decide +kernel) (by simp)
        (by simp) (by simp) fun x hx g hg => ?_
      obtain rfl : _ = x := Option.some.inj hx
      obtain rfl := List.mem_singleton.1 hg
      refine .intro (.base (by decide)) (by decide) (by simp) (fun value hvalue => ?_) (by simp)
        (by simp) (by simp)
      obtain rfl : _ = value := Option.some.inj hvalue
      exact .list (by simp)
    · refine .service (by decide) (by decide) fun f h => ?_
      obtain rfl := List.mem_singleton.1 h
      refine ⟨fun type htype => ?_, by decide, by decide, by decide, by simp, by simp⟩
      obtain rfl : _ = type := ReturnType.type.inj htype
      exact .list (.named (by decide) (by decide)) (by simp)

end ThriftSchema.Canonical

namespace ThriftSchema

variable {limit : Nat}

/-- Reading undoes canonical printing: the canonical text of a document that fits is read as this
document, however its literals are quoted and its doubles are spelled, and however many references
may be open at once, as long as the document needs no more. Two are open where the fields of a
block end. -/
theorem ofText_canonicalText (limit : Nat) (s : Spelling) (d : Document) (source : Option String)
    (hroom : 2 ≤ limit) (h : s.DocumentFits limit d) :
    Document.ofText limit ⟨true, false⟩ (s.text d) source = .ok d :=
  Canonical.ofText_of_fits rfl rfl hroom h source

theorem ofText_canonicalText_sample :
    2 ≤ 60 ∧ Spelling.usual.DocumentFits 60 Canonical.sample ∧
      Document.ofText 60 ⟨true, false⟩ (Spelling.usual.text Canonical.sample) none
        = .ok Canonical.sample :=
  ⟨by decide, Canonical.documentFits_sample,
    ofText_canonicalText 60 Spelling.usual Canonical.sample none (by decide)
      Canonical.documentFits_sample⟩

/-! ## What is read is a phrase of the grammar -/

/-- A text that is read as a document is, without its comments, a phrase of the grammar for this
document. -/
theorem documentPhrase_of_ofText (text : String) (source : Option String) (d : Document)
    (h : Document.ofText limit ⟨true, false⟩ text source = .ok d) :
    Grammar.DocumentPhrase d (stripComments text).toList :=
  Sound.document rfl rfl (ofText_eq_ok_iff.1 h)

theorem documentPhrase_of_ofText_sample :
    Document.ofText 60 ⟨true, false⟩ (Spelling.usual.text Canonical.sample) none
        = .ok Canonical.sample ∧
      Grammar.DocumentPhrase Canonical.sample
        (stripComments (Spelling.usual.text Canonical.sample)).toList :=
  have h := Canonical.ofText_of_fits rfl rfl (by decide) Canonical.documentFits_sample none
  ⟨h, documentPhrase_of_ofText _ none _ h⟩

end ThriftSchema
