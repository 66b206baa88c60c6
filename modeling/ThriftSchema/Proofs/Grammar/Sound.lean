import ThriftSchema.Proofs.Grammar.Phrase
import ThriftSchema.Proofs.Reader.Token

set_option autoImplicit false

/-! # Readers keep to the grammar

What a reader takes off a text is a phrase of the grammar for the value that it gives. There is
one lemma for each token and each way of putting readers together; the productions follow part by
part, and those that contain themselves by induction on the depth.
-/

namespace ThriftSchema

open Grammar

variable {α β : Type}

/-- Whatever the reader gives is a phrase. -/
def Sound (p : PartReader α) (P : Phrase α) : Prop :=
  ∀ ⦃input rest : List Char⦄ ⦃a : α⦄, p input = .read a rest → P a input rest

namespace Sound

variable {input rest : List Char}

/-! ## Tokens -/

theorem blanks (input : List Char) : Blanks input (Reader.skipLayout input) := by
  obtain ⟨blanks, hsplit, hlayout⟩ := Reader.exists_layout input
  have hblanks : Blanks (blanks ++ Reader.skipLayout input) (Reader.skipLayout input) :=
    .intro hlayout
  rwa [← hsplit] at hblanks

theorem word {text : String} {u : Unit} (h : Reader.word text input = .read u rest) :
    Word text input rest := by
  obtain ⟨middle, hread, rfl⟩ := Reader.spaced_eq_read.1 h
  obtain ⟨rfl, hboundary⟩ := Reader.keyword_eq_read.1 hread
  exact .intro hboundary (blanks middle)

theorem symbol {text : String} {u : Unit} (h : Reader.symbol text input = .read u rest) :
    Symbol text input rest := by
  obtain ⟨middle, hread, rfl⟩ := Reader.spaced_eq_read.1 h
  rw [Reader.characters_eq_read.1 hread]
  exact .intro (blanks middle)

theorem oneOf (words : List String) : Sound (Reader.oneOf words) (OneOf words) := by
  intro input rest text h
  obtain ⟨middle, hread, rfl⟩ := Reader.spaced_eq_read.1 h
  obtain ⟨hlisted, rfl, hboundary⟩ := Reader.firstKeyword_eq_read hread
  exact .intro hlisted (.intro hboundary (blanks middle))

/-- A lexeme and what is made of it. -/
theorem lexeme {pattern : Pattern} {f : List Char → PartReader α} {a : α}
    (h : (Reader.lexeme pattern >>= f) input = .read a rest) :
    ∃ text middle, Reader.measured pattern input = .read text middle ∧
      f text (Reader.skipLayout middle) = .read a rest := by
  obtain ⟨text, after, hlexeme, hf⟩ := Reader.bind_eq_read.1 h
  obtain ⟨middle, hread, rfl⟩ := Reader.spaced_eq_read.1 hlexeme
  exact ⟨text, middle, hread, hf⟩

theorem identifier : Sound Reader.identifier Name := by
  intro input rest name h
  obtain ⟨text, middle, hread, hpure⟩ := lexeme h
  obtain ⟨rfl, rfl⟩ : String.ofList text = name ∧ Reader.skipLayout middle = rest := by
    simpa using hpure
  obtain ⟨rfl, hname, -⟩ := Reader.identifier_measured.1 hread
  exact .intro hname (blanks middle)

theorem dashedIdentifier : Sound Reader.dashedIdentifier DashedName := by
  intro input rest name h
  obtain ⟨text, middle, hread, hpure⟩ := lexeme h
  obtain ⟨rfl, rfl⟩ : String.ofList text = name ∧ Reader.skipLayout middle = rest := by
    simpa using hpure
  obtain ⟨rfl, hname, -⟩ := Reader.dashedIdentifier_measured.1 hread
  exact .intro hname (blanks middle)

theorem literal : Sound Reader.literal Quoted := by
  intro input rest value h
  obtain ⟨text, middle, hread, hpure⟩ := lexeme h
  obtain ⟨rfl, rfl⟩ :
      String.ofList (text.drop 1).dropLast = value ∧ Reader.skipLayout middle = rest := by
    simpa using hpure
  obtain ⟨rfl, content, hquoted⟩ := Reader.literal_measured.1 hread
  have hcontent : (text.drop 1).dropLast = content := by
    cases hquoted
    simp
  rw [hcontent]
  exact .intro hquoted (blanks middle)

theorem integer : Sound Reader.integer Decimal := by
  intro input rest value h
  obtain ⟨text, middle, hread, hvalue⟩ := lexeme h
  obtain ⟨rfl, ⟨denoted, hdenoted⟩, -⟩ := Reader.integer_measured.1 hread
  have hread := hdenoted
  cases hread with
  | @intro sign digits negative hsign hdigits =>
      rw [Reader.decimalValue, Number.readDecimal_append hsign hdigits] at hvalue
      by_cases hlong : Number.digitLimit < digits.length
      · rw [if_pos hlong] at hvalue
        cases hvalue
      · rw [if_neg hlong] at hvalue
        obtain ⟨rfl, rfl⟩ : _ = value ∧ Reader.skipLayout middle = rest := by simpa using hvalue
        exact .intro hdenoted (blanks middle)

theorem hexadecimal : Sound Reader.hexadecimal Hexadecimal := by
  intro input rest value h
  obtain ⟨text, middle, hread, hvalue⟩ := lexeme h
  obtain ⟨rfl, ⟨denoted, hdenoted⟩, -⟩ := Reader.hexadecimal_measured.1 hread
  rw [Reader.hexadecimalValue, Number.readHexadecimal_of_isHexadecimal hdenoted] at hvalue
  obtain ⟨rfl, rfl⟩ : denoted = value ∧ Reader.skipLayout middle = rest := by simpa using hvalue
  exact .intro hdenoted (blanks middle)

theorem double : Sound Reader.double Grammar.Number := by
  intro input rest value h
  obtain ⟨text, middle, hread, hvalue⟩ := lexeme h
  obtain ⟨rfl, hdecimal, -⟩ := Reader.decimal_measured hread
  rw [Reader.doubleValue] at hvalue
  cases hd : Number.Double.read text with
  | none =>
      rw [hd] at hvalue
      cases hvalue
  | some d =>
      rw [hd] at hvalue
      obtain ⟨rfl, rfl⟩ : d = value ∧ Reader.skipLayout middle = rest := by simpa using hvalue
      exact .intro hdecimal hd (blanks middle)

/-! ## Putting readers together -/

theorem separator {u : Unit} (h : Reader.separator input = .read u rest) :
    Separator input rest := by
  obtain ⟨o, middle, hread, hpure⟩ := Reader.bind_eq_read.1 h
  obtain rfl : middle = rest := by simpa using hpure
  rcases Reader.optional_eq_read.1 hread with ⟨text, -, hlexeme⟩ | ⟨-, -, rfl⟩
  · obtain ⟨after, hmeasured, rfl⟩ := Reader.spaced_eq_read.1 hlexeme
    obtain ⟨rfl, rfl | rfl⟩ := Reader.separator_measured.1 hmeasured
    · exact .comma (.intro (blanks after))
    · exact .semicolon (.intro (blanks after))
  · exact .absent

theorem maybe {p : PartReader α} {P : Phrase α} (h : Sound p P) :
    Sound (Reader.optional p) (Maybe P) := by
  intro input rest o hread
  rcases Reader.optional_eq_read.1 hread with ⟨a, rfl, ha⟩ | ⟨rfl, -, rfl⟩
  · exact .present (h ha)
  · exact .absent

theorem flag (text : String) : Sound (Reader.flag text) (Flag text) := by
  intro input rest b h
  obtain ⟨o, middle, hread, hpure⟩ := Reader.bind_eq_read.1 h
  obtain ⟨rfl, rfl⟩ : o.isSome = b ∧ middle = rest := by simpa using hpure
  rcases Reader.optional_eq_read.1 hread with ⟨_, rfl, hword⟩ | ⟨rfl, -, rfl⟩
  · exact .present (word hword)
  · exact .absent

theorem manyWithin {p : PartReader α} {P : Phrase α} (h : Sound p P) (bound : List Char) :
    Sound (Reader.manyWithin p bound) (Many P) := by
  induction bound with
  | nil =>
      intro input rest as hread
      cases hread
  | cons c bound ih =>
      intro input rest as hread
      rcases Reader.manyWithin_eq_read.1 hread with
        ⟨-, rfl, rfl⟩ | ⟨a, middle, hp, ⟨-, rfl, rfl⟩ | ⟨-, bs, hmore, rfl⟩⟩
      · exact .nil
      · exact .cons (h hp) .nil
      · exact .cons (h hp) (ih hmore)

theorem many {p : PartReader α} {P : Phrase α} (h : Sound p P) :
    Sound (Reader.many p) (Many P) := fun _ _ _ hread => manyWithin h _ hread

theorem fail {P : Phrase α} : Sound (Reader.fail : PartReader α) P := by
  intro input rest a h
  cases h

theorem orElse {p q : PartReader α} {P : Phrase α} (hp : Sound p P) (hq : Sound q P) :
    Sound (p <|> q) P := by
  intro input rest a h
  rcases Reader.orElse_eq_read.1 h with h | ⟨-, h⟩
  · exact hp h
  · exact hq h

/-- A value put through a function. -/
theorem map {p : PartReader α} {P : Phrase α} {f : α → β} {Q : Phrase β} (hp : Sound p P)
    (hf : ∀ {a input rest}, P a input rest → Q (f a) input rest) :
    Sound (p >>= fun a => pure (f a)) Q := by
  intro input rest b h
  obtain ⟨a, middle, ha, hpure⟩ := Reader.bind_eq_read.1 h
  obtain ⟨rfl, rfl⟩ : f a = b ∧ middle = rest := by simpa using hpure
  exact hf (hp ha)

theorem assigned {p : PartReader α} {P : Phrase α} (h : Sound p P) :
    Sound (Reader.assigned p) (Assigned P) := by
  intro input rest a hread
  obtain ⟨_, middle, hmark, hvalue⟩ := Reader.bind_eq_read.1 hread
  exact .intro (symbol hmark) (h hvalue)

/-! ## Types -/

theorem hint : Sound Reader.hint (Maybe HintPhrase) := by
  refine maybe fun input rest name h => ?_
  obtain ⟨_, middle, hword, htext⟩ := Reader.bind_eq_read.1 h
  exact .intro (word hword) (literal htext)

section Types

variable {type : PartReader FieldType}

theorem mapType (htype : Sound type TypePhrase) : Sound (Reader.mapType type) TypePhrase := by
  intro input rest t h
  simp only [Reader.mapType, Reader.bind_eq_read, Reader.pure_apply, Attempt.read.injEq] at h
  obtain ⟨_, a, hword, hinted, b, hhint, _, c, hopen, key, d, hkey, _, e, hcomma, value, f,
    hvalue, _, g, hclose, rfl, rfl⟩ := h
  exact .map (word hword) (hint hhint) (symbol hopen) (htype hkey) (symbol hcomma) (htype hvalue)
    (symbol hclose)

theorem setType (htype : Sound type TypePhrase) : Sound (Reader.setType type) TypePhrase := by
  intro input rest t h
  simp only [Reader.setType, Reader.bind_eq_read, Reader.pure_apply, Attempt.read.injEq] at h
  obtain ⟨_, a, hword, hinted, b, hhint, _, c, hopen, element, d, helement, _, e, hclose, rfl,
    rfl⟩ := h
  exact .set (word hword) (hint hhint) (symbol hopen) (htype helement) (symbol hclose)

theorem listType (htype : Sound type TypePhrase) : Sound (Reader.listType type) TypePhrase := by
  intro input rest t h
  simp only [Reader.listType, Reader.bind_eq_read, Reader.pure_apply, Attempt.read.injEq] at h
  obtain ⟨_, a, hword, _, b, hopen, element, c, helement, _, d, hclose, hinted, e, hhint, rfl,
    rfl⟩ := h
  exact .list (word hword) (symbol hopen) (htype helement) (symbol hclose) (hint hhint)

theorem containerType (htype : Sound type TypePhrase) :
    Sound (Reader.containerType type) TypePhrase :=
  orElse (mapType htype) (orElse (setType htype) (orElse (listType htype) fail))

theorem baseType : Sound Reader.baseType TypePhrase := map (oneOf _) .base

theorem returnType (htype : Sound type TypePhrase) :
    Sound (Reader.returnType type) ReturnPhrase := by
  refine orElse (fun input rest r h => ?_) (orElse (map htype .type) fail)
  obtain ⟨_, middle, hword, hpure⟩ := Reader.bind_eq_read.1 h
  obtain ⟨rfl, rfl⟩ : ReturnType.void = r ∧ middle = rest := by simpa using hpure
  exact .void (word hword)

/-- A container is no mere name. -/
theorem containerType_ne_named {input rest : List Char} {t : FieldType}
    (h : Reader.containerType type input = .read t rest) (name : String) : t ≠ .named name := by
  simp only [Reader.containerType, Reader.orElse_eq_read] at h
  rcases h with h | ⟨-, h | ⟨-, h | ⟨-, h⟩⟩⟩
  · simp only [Reader.mapType, Reader.bind_eq_read, Reader.pure_apply, Attempt.read.injEq] at h
    obtain ⟨_, _, _, _, _, _, _, _, _, _, _, _, _, _, _, _, _, _, _, _, _, rfl, rfl⟩ := h
    exact FieldType.noConfusion
  · simp only [Reader.setType, Reader.bind_eq_read, Reader.pure_apply, Attempt.read.injEq] at h
    obtain ⟨_, _, _, _, _, _, _, _, _, _, _, _, _, _, _, rfl, rfl⟩ := h
    exact FieldType.noConfusion
  · simp only [Reader.listType, Reader.bind_eq_read, Reader.pure_apply, Attempt.read.injEq] at h
    obtain ⟨_, _, _, _, _, _, _, _, _, _, _, _, _, _, _, rfl, rfl⟩ := h
    exact FieldType.noConfusion
  · cases h

theorem definitionType (htype : Sound type TypePhrase) :
    Sound (Reader.definitionType type) DefinitionTypePhrase := by
  intro input rest t h
  simp only [Reader.definitionType, Reader.orElse_eq_read] at h
  rcases h with h | ⟨-, h | ⟨-, h⟩⟩
  · obtain ⟨name, middle, hname, hpure⟩ := Reader.bind_eq_read.1 h
    obtain ⟨rfl, rfl⟩ : FieldType.base name = t ∧ middle = rest := by simpa using hpure
    exact .intro (baseType h) fun _ => FieldType.noConfusion
  · exact .intro (containerType htype h) (containerType_ne_named h)
  · cases h

end Types

/-- A field type, by induction on the depth. -/
theorem fieldType (depth : Nat) : Sound (Reader.fieldType depth) TypePhrase := by
  induction depth with
  | zero =>
      intro input rest t h
      cases h
  | succ depth ih =>
      exact orElse (containerType ih) (orElse baseType (orElse (map identifier .named) fail))

/-! ## Constants -/

section Constants

variable {constant : PartReader ConstValue}

theorem listItem (hconstant : Sound constant ConstantPhrase) :
    Sound (Reader.listItem constant) (Item ConstantPhrase) := by
  intro input rest value h
  simp only [Reader.listItem, Reader.bind_eq_read, Reader.pure_apply, Attempt.read.injEq] at h
  obtain ⟨value, a, hvalue, _, b, hseparator, rfl, rfl⟩ := h
  exact .intro (hconstant hvalue) (separator hseparator)

theorem constantList (hconstant : Sound constant ConstantPhrase) :
    Sound (Reader.constantList constant) ConstantPhrase := by
  intro input rest value h
  simp only [Reader.constantList, Reader.bind_eq_read, Reader.pure_apply,
    Attempt.read.injEq] at h
  obtain ⟨_, a, hopen, values, b, hvalues, _, c, hclose, rfl, rfl⟩ := h
  exact .list (symbol hopen) (many (listItem hconstant) hvalues) (symbol hclose)

theorem mapEntry (hconstant : Sound constant ConstantPhrase) :
    Sound (Reader.mapEntry constant) (Item (PairPhrase ConstantPhrase)) := by
  intro input rest entry h
  simp only [Reader.mapEntry, Reader.bind_eq_read, Reader.pure_apply, Attempt.read.injEq] at h
  obtain ⟨key, a, hkey, _, b, hcolon, value, c, hvalue, _, d, hseparator, rfl, rfl⟩ := h
  exact .intro (.intro (hconstant hkey) (symbol hcolon) (hconstant hvalue))
    (separator hseparator)

theorem constantMap (hconstant : Sound constant ConstantPhrase) :
    Sound (Reader.constantMap constant) ConstantPhrase := by
  intro input rest value h
  simp only [Reader.constantMap, Reader.bind_eq_read, Reader.pure_apply,
    Attempt.read.injEq] at h
  obtain ⟨_, a, hopen, entries, b, hentries, _, c, hclose, rfl, rfl⟩ := h
  exact .map (symbol hopen) (many (mapEntry hconstant) hentries) (symbol hclose)

end Constants

/-- A constant, by induction on the depth. -/
theorem constant (depth : Nat) : Sound (Reader.constant depth) ConstantPhrase := by
  induction depth with
  | zero =>
      intro input rest value h
      cases h
  | succ depth ih =>
      exact orElse (map hexadecimal .hexadecimal) <| orElse (map double .double) <|
        orElse (map integer .decimal) <| orElse (map literal .literal) <|
        orElse (map identifier .reference) <| orElse (constantList ih) <|
        orElse (constantMap ih) fail

/-! ## Fields and functions -/

theorem fieldId : Sound Reader.fieldId IdPhrase := by
  intro input rest id h
  simp only [Reader.fieldId, Reader.bind_eq_read, Reader.pure_apply, Attempt.read.injEq] at h
  obtain ⟨id, a, hid, _, b, hcolon, rfl, rfl⟩ := h
  exact .intro (integer hid) (symbol hcolon)

theorem requiredness : Sound Reader.requiredness RequirednessPhrase := by
  intro input rest r h
  obtain ⟨text, middle, hword, hr⟩ := Reader.bind_eq_read.1 h
  obtain ⟨hlisted, hword⟩ := oneOf _ hword
  simp only [List.mem_cons, List.not_mem_nil, or_false] at hlisted
  rcases hlisted with rfl | rfl
  · obtain ⟨rfl, rfl⟩ : Requiredness.required = r ∧ middle = rest := by
      simpa [Reader.requirednessOf] using hr
    exact .required hword
  · obtain ⟨rfl, rfl⟩ : Requiredness.optional = r ∧ middle = rest := by
      simpa [Reader.requirednessOf] using hr
    exact .optional hword

section Fields

variable {type : PartReader FieldType} {constant : PartReader ConstValue}
  {field : PartReader Field}

theorem block {text opener closer : String} (hfield : Sound field FieldPhrase) :
    Sound (Reader.block text opener closer field)
      (BlockPhrase text opener closer FieldPhrase) := by
  intro input rest fields h
  simp only [Reader.block, Reader.bind_eq_read, Reader.pure_apply, Attempt.read.injEq] at h
  obtain ⟨_, a, hword, _, b, hopen, fields, c, hfields, _, d, hclose, rfl, rfl⟩ := h
  exact .intro (word hword) (symbol hopen) (many hfield hfields) (symbol hclose)

/-- The export options that a field is given are those that the grammar reads off. -/
theorem exportOptions_eq (isOptional isNillable : Bool) (attributes : Option (List Field)) :
    Reduction.exportOptions isOptional isNillable
      (attributes.map fun as => (⟨false, false, as⟩ : ExportOptions Field))
      = Grammar.exportOptions isOptional isNillable attributes := by
  cases attributes with
  | none => cases isOptional <;> cases isNillable <;> rfl
  | some as => cases isOptional <;> cases isNillable <;> rfl

theorem fieldOver {options : BuildOptions} (hkeep : options.retainRequiredness = true)
    (htype : Sound type TypePhrase) (hconstant : Sound constant ConstantPhrase)
    (hfield : Sound field FieldPhrase) :
    Sound (Reader.fieldOver options type constant field) FieldPhrase := by
  intro input rest f h
  simp only [Reader.fieldOver, Reader.bind_eq_read, Reader.pure_apply, Attempt.read.injEq,
    exportOptions_eq, Reader.keptRequiredness, if_pos hkeep] at h
  obtain ⟨id, a, hid, required, b, hrequired, t, c, ht, name, d, hname, default, e, hdefault,
    isOptional, f', hoptional, isNillable, g, hnillable, attributes, h', hattributes, _, i,
    hseparator, rfl, rfl⟩ := h
  exact .intro (maybe fieldId hid) (maybe requiredness hrequired) (htype ht) (identifier hname)
    (maybe (assigned hconstant) hdefault) (flag _ hoptional) (flag _ hnillable)
    (maybe (block hfield) hattributes) (separator hseparator)

theorem function (htype : Sound type TypePhrase) (hfield : Sound field FieldPhrase) :
    Sound (Reader.function type field) FunctionPhrase := by
  intro input rest f h
  simp only [Reader.function, Reader.bind_eq_read, Reader.pure_apply, Attempt.read.injEq] at h
  obtain ⟨oneway, a, honeway, returns, b, hreturns, name, c, hname, _, d, hopen, arguments, e,
    harguments, _, f', hclose, thrown, g, hthrown, _, i, hseparator, rfl, rfl⟩ := h
  exact .intro (flag _ honeway) (returnType htype hreturns) (identifier hname) (symbol hopen)
    (many hfield harguments) (symbol hclose) (maybe (block hfield) hthrown)
    (separator hseparator)

end Fields

/-- A field, by induction on the depth. -/
theorem field {options : BuildOptions} (hkeep : options.retainRequiredness = true)
    (depth : Nat) : Sound (Reader.field options depth) FieldPhrase := by
  induction depth with
  | zero =>
      intro input rest f h
      cases h
  | succ depth ih => exact fieldOver hkeep (fieldType depth) (constant depth) ih

/-! ## Definitions -/

theorem enumValue : Sound Reader.enumValue EnumValuePhrase := by
  have hnumber : Sound (Reader.hexadecimal <|> Reader.integer <|> Reader.fail) NumberPhrase :=
    orElse (fun _ _ _ h => .hexadecimal (hexadecimal h))
      (orElse (fun _ _ _ h => .decimal (integer h)) fail)
  intro input rest v h
  simp only [Reader.enumValue, Reader.bind_eq_read, Reader.pure_apply, Attempt.read.injEq] at h
  obtain ⟨name, a, hname, value, b, hvalue, _, c, hseparator, rfl, rfl⟩ := h
  exact .intro (identifier hname) (maybe (assigned hnumber) hvalue) (separator hseparator)

theorem literalItem : Sound Reader.literalItem (Item Quoted) := by
  intro input rest text h
  simp only [Reader.literalItem, Reader.bind_eq_read, Reader.pure_apply,
    Attempt.read.injEq] at h
  obtain ⟨text, a, htext, _, b, hseparator, rfl, rfl⟩ := h
  exact .intro (literal htext) (separator hseparator)

theorem const (depth : Nat) : Sound (Reader.const depth) DefinitionPhrase := by
  intro input rest d h
  simp only [Reader.const, Reader.bind_eq_read, Reader.pure_apply, Attempt.read.injEq] at h
  obtain ⟨_, a, hword, type, b, htype, name, c, hname, _, d, hequals, value, e, hvalue, _, f,
    hseparator, rfl, rfl⟩ := h
  exact .const (word hword) (fieldType depth htype) (identifier hname) (symbol hequals)
    (constant depth hvalue) (separator hseparator)

theorem typedef (depth : Nat) : Sound (Reader.typedef depth) DefinitionPhrase := by
  intro input rest d h
  simp only [Reader.typedef, Reader.bind_eq_read, Reader.pure_apply, Attempt.read.injEq] at h
  obtain ⟨_, a, hword, type, b, htype, name, c, hname, _, d, hseparator, rfl, rfl⟩ := h
  exact .typedef (word hword) (definitionType (fieldType depth) htype) (identifier hname)
    (separator hseparator)

theorem enum {options : BuildOptions} (hcount : options.numberEnums = false) :
    Sound (Reader.enum options) DefinitionPhrase := by
  intro input rest d h
  simp only [Reader.enum, Reader.bind_eq_read, Reader.pure_apply, Attempt.read.injEq,
    Reader.countedValues, hcount] at h
  obtain ⟨_, a, hword, name, b, hname, _, c, hopen, values, d, hvalues, _, e, hclose, rfl,
    rfl⟩ := h
  exact .enum (word hword) (identifier hname) (symbol hopen) (many enumValue hvalues)
    (symbol hclose)

theorem senum : Sound Reader.senum DefinitionPhrase := by
  intro input rest d h
  simp only [Reader.senum, Reader.bind_eq_read, Reader.pure_apply, Attempt.read.injEq] at h
  obtain ⟨_, a, hword, name, b, hname, _, c, hopen, values, d, hvalues, _, e, hclose, rfl,
    rfl⟩ := h
  exact .senum (word hword) (identifier hname) (symbol hopen) (many literalItem hvalues)
    (symbol hclose)

section Options

variable {options : BuildOptions} (hkeep : options.retainRequiredness = true) (depth : Nat)

include hkeep

theorem struct : Sound (Reader.struct options depth) DefinitionPhrase := by
  intro input rest d h
  simp only [Reader.struct, Reader.flaggedFields, Reader.bind_eq_read, Reader.pure_apply,
    Attempt.read.injEq] at h
  obtain ⟨_, a, hword, name, b, hname, exportAll, c, hall, _, d, hopen, fields, e, hfields, _,
    f, hclose, rfl, rfl⟩ := h
  exact .struct (word hword) (identifier hname) (flag _ hall) (symbol hopen)
    (many (field hkeep depth) hfields) (symbol hclose)

theorem union : Sound (Reader.union options depth) DefinitionPhrase := by
  intro input rest d h
  simp only [Reader.union, Reader.flaggedFields, Reader.bind_eq_read, Reader.pure_apply,
    Attempt.read.injEq] at h
  obtain ⟨_, a, hword, name, b, hname, exportAll, c, hall, _, d, hopen, fields, e, hfields, _,
    f, hclose, rfl, rfl⟩ := h
  exact .union (word hword) (identifier hname) (flag _ hall) (symbol hopen)
    (many (field hkeep depth) hfields) (symbol hclose)

theorem exception : Sound (Reader.exception options depth) DefinitionPhrase := by
  intro input rest d h
  simp only [Reader.exception, Reader.bind_eq_read, Reader.pure_apply, Attempt.read.injEq] at h
  obtain ⟨_, a, hword, name, b, hname, _, c, hopen, fields, d, hfields, _, e, hclose, rfl,
    rfl⟩ := h
  exact .exception (word hword) (identifier hname) (symbol hopen)
    (many (field hkeep depth) hfields) (symbol hclose)

theorem service : Sound (Reader.service options depth) DefinitionPhrase := by
  have hparent : Sound Reader.parent ParentPhrase := by
    intro input rest name h
    obtain ⟨_, middle, hword, hname⟩ := Reader.bind_eq_read.1 h
    exact .intro (word hword) (identifier hname)
  intro input rest d h
  simp only [Reader.service, Reader.bind_eq_read, Reader.pure_apply, Attempt.read.injEq] at h
  obtain ⟨_, a, hword, name, b, hname, parent, c, hextends, _, d, hopen, functions, e,
    hfunctions, _, f, hclose, rfl, rfl⟩ := h
  exact .service (word hword) (identifier hname) (maybe hparent hextends) (symbol hopen)
    (many (function (fieldType depth) (field hkeep depth)) hfunctions) (symbol hclose)

theorem definition (hcount : options.numberEnums = false) :
    Sound (Reader.definition options depth) DefinitionPhrase :=
  orElse (const depth) <| orElse (typedef depth) <| orElse (enum hcount) <| orElse senum <|
    orElse (struct hkeep depth) <| orElse (union hkeep depth) <|
    orElse (exception hkeep depth) <| orElse (service hkeep depth) fail

end Options

/-! ## Headers and documents -/

/-- A header of a word and a literal. -/
theorem literalHeader {text : String} {make : String → Header}
    (hmake : ∀ {path input a rest}, Word text input a → Quoted path a rest →
      HeaderPhrase (make path) input rest) :
    Sound (Reader.literalHeader text make) HeaderPhrase := by
  intro input rest header h
  simp only [Reader.literalHeader, Reader.bind_eq_read, Reader.pure_apply,
    Attempt.read.injEq] at h
  obtain ⟨_, a, hword, path, b, hpath, rfl, rfl⟩ := h
  exact hmake (word hword) (literal hpath)

theorem targetNamespace : Sound Reader.targetNamespace HeaderPhrase := by
  intro input rest header h
  simp only [Reader.targetNamespace, Reader.bind_eq_read, Reader.orElse_eq_read] at h
  obtain ⟨_, a, hword, h | ⟨-, h | ⟨-, h | ⟨-, h⟩⟩⟩⟩ := h
  · simp only [Reader.smalltalkCategory, Reader.bind_eq_read, Reader.pure_apply,
      Attempt.read.injEq] at h
    obtain ⟨_, b, hcategory, name, c, hname, rfl, rfl⟩ := h
    exact .smalltalkCategory (word hword) (word hcategory) (dashedIdentifier hname)
  · simp only [Reader.smalltalkPrefix, Reader.bind_eq_read, Reader.pure_apply,
      Attempt.read.injEq] at h
    obtain ⟨_, b, hmark, name, c, hname, rfl, rfl⟩ := h
    exact .smalltalkPrefix (word hword) (word hmark) (identifier hname)
  · simp only [Reader.scopedName, Reader.bind_eq_read, Reader.pure_apply,
      Attempt.read.injEq] at h
    obtain ⟨scope, b, hscope, name, c, hname, rfl, rfl⟩ := h
    exact .scoped (word hword) (oneOf _ hscope) (identifier hname)
  · cases h

theorem header : Sound Reader.header HeaderPhrase :=
  orElse (literalHeader .include) <| orElse (literalHeader .cppInclude) <|
    orElse targetNamespace <| orElse (literalHeader .phpNamespace) <|
    orElse (literalHeader .xsdNamespace) fail

theorem finish {u : Unit} (h : Reader.finish input = .read u rest) : input = [] ∧ rest = [] := by
  cases input with
  | nil =>
      obtain ⟨-, rfl⟩ : u = () ∧ rest = [] := by simpa [Reader.finish, eq_comm] using h
      exact ⟨rfl, rfl⟩
  | cons c cs => cases h

/-- A document is a phrase of the grammar as a whole, where fields keep what they say of
requiredness and values of enumerations are not counted on. -/
theorem document {options : BuildOptions} (hkeep : options.retainRequiredness = true)
    (hcount : options.numberEnums = false) {depth : Nat} {d : Document}
    (h : Reader.document options depth input = .read d rest) : DocumentPhrase d input := by
  simp only [Reader.document, Reader.bind_eq_read, Reader.pure_apply, Attempt.read.injEq] at h
  obtain ⟨_, a, hlayout, headers, b, hheaders, definitions, c, hdefinitions, _, e, hfinish, rfl,
    rfl⟩ := h
  obtain ⟨rfl, -⟩ := finish hfinish
  obtain rfl : Reader.skipLayout input = a := by simpa [Reader.layout_eq] using hlayout
  exact .intro (blanks input) (many header hheaders)
    (many (definition hkeep depth hcount) hdefinitions)

end Sound

end ThriftSchema
