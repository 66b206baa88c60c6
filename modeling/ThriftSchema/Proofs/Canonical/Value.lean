import ThriftSchema.Proofs.Canonical.Lexeme

set_option autoImplicit false

/-! # Reading canonical types and constants

The tokens of a type are read back as the type, unless what follows could belong to it: a hint,
or the bracket that makes a container of a name. The tokens of a constant are read back whatever
follows.
-/

namespace ThriftSchema.Canonical

open Reader (fieldType containerType constant)

variable {s : Spelling} {left : List String} {depth : Nat}

/-! ## Types -/

/-- What follows a type and does not belong to it. -/
structure AfterType (left : List String) : Prop where
  hint : Fails (do Reader.word "cpp_type"; Reader.literal) left
  opener : Fails (Reader.symbol "<") left

theorem afterType_of_begins {token : String}
    (h : Begins (fun c => !Pattern.isNameStart c && c != '<') token) (hvisible : Visible token) :
    AfterType (token :: left) where
  hint := .of_not StartsIn.hint (h.mono fun c hc => by simp_all) hvisible
  opener := .of_begins (StartsIn.symbol (by decide)) h hvisible fun c hc => by
    have hne : c ≠ '<' := by simp_all
    simpa [StartsIn.headOf] using Ne.symm hne

/-- A name may follow a type if no literal stands behind it. -/
theorem afterType_name {name : String} (h : IsName name.toList)
    (hleft : NotAhead StartsIn.isQuoteChar (ahead left)) : AfterType (name :: left) := by
  have hbegins := begins_of_isWord h
  have hvisible := visible_of_begins_isNameStart hbegins
  constructor
  · by_cases hname : "cpp_type" = name
    · subst hname
      exact Fails.bind_of_reads (reads_word hvisible) (StartsIn.literal hleft)
    · exact Fails.bind (fails_word (by decide) hname hvisible (runsOn_of_isName h))
  · refine .of_begins (StartsIn.symbol (by decide)) hbegins hvisible fun c hc => ?_
    rw [StartsIn.headOf, beq_eq_false_iff_ne]
    rintro heq
    obtain rfl : '<' = c := by simpa using heq
    exact absurd hc (by decide)

theorem reads_hint {hint : Option String} (h : ∀ text ∈ hint, s.LiteralFits text)
    (hleft : Fails (do Reader.word "cpp_type"; Reader.literal) left) :
    Reads Reader.hint (s.hint hint ++ left) hint left := by
  cases hint with
  | none => exact hleft.optional
  | some text => exact ((reads_word (by decide)).bind (reads_literal (h text rfl))).optional

theorem fails_hint_opener :
    Fails (do Reader.word "cpp_type"; Reader.literal) ("<" :: left) :=
  .of_not StartsIn.hint (by decide) (by decide)

/-- The reader takes the tokens of a type wherever the type may end. -/
def ReadsType (s : Spelling) (p : PartReader FieldType) (type : FieldType) : Prop :=
  ∀ left, AfterType left → Reads p (s.type type ++ left) type left

section

variable {p : PartReader FieldType} {key value element : FieldType} {hint : Option String}

theorem reads_mapType (hkey : ReadsType s p key) (hvalue : ReadsType s p value)
    (hhint : ∀ text ∈ hint, s.LiteralFits text) :
    Reads (Reader.mapType p) (s.type (.map key value hint) ++ left) (.map key value hint)
      left := by
  simp only [Spelling.type, List.cons_append, List.append_assoc, List.nil_append]
  exact (reads_word (by decide)).bind <| (reads_hint hhint fails_hint_opener).bind <|
    (reads_symbol (by decide)).bind <|
    (hkey _ (afterType_of_begins (by decide) (by decide))).bind <|
    (reads_symbol (by decide)).bind <|
    (hvalue _ (afterType_of_begins (by decide) (by decide))).bind <|
    (reads_symbol (by decide)).bind .pure

theorem reads_setType (helement : ReadsType s p element)
    (hhint : ∀ text ∈ hint, s.LiteralFits text) :
    Reads (Reader.setType p) (s.type (.set element hint) ++ left) (.set element hint) left := by
  simp only [Spelling.type, List.cons_append, List.append_assoc, List.nil_append]
  exact (reads_word (by decide)).bind <| (reads_hint hhint fails_hint_opener).bind <|
    (reads_symbol (by decide)).bind <|
    (helement _ (afterType_of_begins (by decide) (by decide))).bind <|
    (reads_symbol (by decide)).bind .pure

theorem reads_listType (helement : ReadsType s p element)
    (hhint : ∀ text ∈ hint, s.LiteralFits text) (hleft : AfterType left) :
    Reads (Reader.listType p) (s.type (.list element hint) ++ left) (.list element hint)
      left := by
  simp only [Spelling.type, List.cons_append, List.append_assoc]
  exact (reads_word (by decide)).bind <| (reads_symbol (by decide)).bind <|
    (helement _ (afterType_of_begins (by decide) (by decide))).bind <|
    (reads_symbol (by decide)).bind <| (reads_hint hhint hleft.hint).bind .pure

end

/-- A word of a container is a name if no bracket follows it. -/
theorem fails_containerType {p : PartReader FieldType} {name : String} (hvisible : Visible name)
    (hruns : RunsOn name) (hleft : AfterType left) : Fails (containerType p) (name :: left) := by
  have hword : ∀ {text : String} {f : Unit → PartReader FieldType}, IsKeyword text →
      Visible text → Fails (f ()) left → Fails (Reader.word text >>= f) (name :: left) := by
    intro text f htext hvis hf
    by_cases hname : text = name
    · subst hname
      exact Fails.bind_of_reads (reads_word hvis) hf
    · exact Fails.bind (fails_word htext hname hvisible hruns)
  have hhint : Reads Reader.hint left none left := hleft.hint.optional
  refine .orElse (hword (by decide) (by decide) ?_) <|
    .orElse (hword (by decide) (by decide) ?_) <|
    .orElse (hword (by decide) (by decide) hleft.opener.bind) rfl
  · exact .bind_of_reads hhint hleft.opener.bind
  · exact .bind_of_reads hhint hleft.opener.bind

theorem fails_mapType {p : PartReader FieldType} {token : String} (hne : "map" ≠ token)
    (hvisible : Visible token) (hruns : RunsOn token) :
    Fails (Reader.mapType p) (token :: left) :=
  .bind (fails_word (by decide) hne hvisible hruns)

theorem fails_setType {p : PartReader FieldType} {token : String} (hne : "set" ≠ token)
    (hvisible : Visible token) (hruns : RunsOn token) :
    Fails (Reader.setType p) (token :: left) :=
  .bind (fails_word (by decide) hne hvisible hruns)

/-- The types that are made of other types. -/
def IsContainer : FieldType → Prop
  | .named _ | .base _ => False
  | .map .. | .set .. | .list .. => True

/-- The types that a reader of types takes are those that the container reader needs. -/
theorem reads_containerType {type : FieldType} (h : s.TypeFits (depth + 1) type)
    (hcontainer : IsContainer type) (hleft : AfterType left)
    (hparts : ∀ part, s.TypeFits depth part → ReadsType s (fieldType depth) part) :
    Reads (containerType (fieldType depth)) (s.type type ++ left) type left := by
  cases h with
  | named => exact hcontainer.elim
  | base => exact hcontainer.elim
  | map hkey hvalue hhint =>
      exact (reads_mapType (hparts _ hkey) (hparts _ hvalue) hhint).orElse
  | set helement hhint =>
      refine .orElse_of_fails ?_ (reads_setType (hparts _ helement) hhint).orElse
      simp only [Spelling.type, List.cons_append]
      exact fails_mapType (by decide) (by decide) (by decide)
  | list helement hhint =>
      refine .orElse_of_fails ?_ <| .orElse_of_fails ?_
        (reads_listType (hparts _ helement) hhint hleft).orElse
      · simp only [Spelling.type, List.cons_append]
        exact fails_mapType (by decide) (by decide) (by decide)
      · simp only [Spelling.type, List.cons_append]
        exact fails_setType (by decide) (by decide) (by decide)

theorem isKeyword_of_mem_baseTypeNames {name : String} (h : name ∈ Production.baseTypeNames) :
    IsKeyword name ∧ Visible name ∧ RunsOn name := by
  have hall : ∀ name ∈ Production.baseTypeNames,
      IsKeyword name ∧ Visible name ∧ RunsOn name := by decide
  exact hall name h

theorem reads_baseType {name : String} (h : name ∈ Production.baseTypeNames) :
    Reads Reader.baseType (name :: left) (.base name) left :=
  have hname := isKeyword_of_mem_baseTypeNames h
  (reads_oneOf h (fun _ ht => (isKeyword_of_mem_baseTypeNames ht).1) hname.2.1 hname.2.2).map

theorem fails_baseType {token : String} (h : token ∉ Production.baseTypeNames)
    (hvisible : Visible token) (hruns : RunsOn token) :
    Fails Reader.baseType (token :: left) :=
  (fails_oneOf h (fun _ ht => (isKeyword_of_mem_baseTypeNames ht).1) hvisible hruns).bind

/-- A type is read back from its tokens. -/
theorem reads_fieldType {type : FieldType} (h : s.TypeFits depth type) :
    ReadsType s (fieldType depth) type := by
  induction depth generalizing type with
  | zero => cases h
  | succ depth ih =>
      intro left hleft
      by_cases hcontainer : IsContainer type
      · exact (reads_containerType h hcontainer hleft fun _ => ih).orElse
      cases h with
      | @named _ name hname hbase =>
          have hvisible := visible_of_begins_isNameStart (begins_of_isWord hname)
          have hruns := runsOn_of_isName hname
          exact .orElse_of_fails (fails_containerType hvisible hruns hleft) <|
            .orElse_of_fails (fails_baseType hbase hvisible hruns)
              (reads_identifier hname).map.orElse
      | base hbase =>
          have hname := isKeyword_of_mem_baseTypeNames hbase
          exact .orElse_of_fails (fails_containerType hname.2.1 hname.2.2 hleft)
            (reads_baseType hbase).orElse
      | map => exact absurd trivial hcontainer
      | set => exact absurd trivial hcontainer
      | list => exact absurd trivial hcontainer

/-- A type that may get a new name is read back from its tokens. -/
theorem reads_definitionType {type : FieldType} (h : s.TypeFits (depth + 1) type)
    (hnew : ∀ name, type ≠ .named name) (hleft : AfterType left) :
    Reads (Reader.definitionType (fieldType depth)) (s.type type ++ left) type left := by
  by_cases hcontainer : IsContainer type
  · have hread := reads_containerType h hcontainer hleft fun _ => reads_fieldType
    refine .orElse_of_fails ?_ hread.orElse
    cases h with
    | named => exact hcontainer.elim
    | base => exact hcontainer.elim
    | map => exact fails_baseType (by decide) (by decide) (by decide)
    | set => exact fails_baseType (by decide) (by decide) (by decide)
    | list => exact fails_baseType (by decide) (by decide) (by decide)
  · cases h with
    | named => exact absurd rfl (hnew _)
    | base hbase => exact (reads_baseType hbase).orElse
    | map => exact absurd trivial hcontainer
    | set => exact absurd trivial hcontainer
    | list => exact absurd trivial hcontainer

/-! ## Constants -/

theorem reads_separator : Reads Reader.separator ("," :: left) () left := by
  have hread : Reads (Reader.lexeme Pattern.separator) ("," :: left) [','] left :=
    .lexeme (by decide) (Reader.separator_measured.2 ⟨rfl, .inl rfl⟩)
  exact hread.optional.bind .pure

/-- The first token of a constant. -/
theorem exists_token_constant {value : ConstValue} (h : s.ConstantFits depth value) :
    ∃ token others, s.constant value = token :: others ∧ Visible token := by
  cases h with
  | integer h => exact ⟨_, _, rfl, visible_toString _⟩
  | double h => exact ⟨_, _, rfl, visible_double h⟩
  | literal h => exact ⟨_, _, rfl, visible_literal h⟩
  | reference h => exact ⟨_, _, rfl, visible_of_begins_isNameStart (begins_of_isWord h)⟩
  | list h => exact ⟨_, _, rfl, by decide⟩
  | map hkeys hvalues => exact ⟨_, _, rfl, by decide⟩

theorem constants_eq_flatMap (values : List ConstValue) :
    s.constants values = values.flatMap fun value => s.constant value ++ [","] := by
  induction values with
  | nil => simp [Spelling.constants]
  | cons value values ih => simp [Spelling.constants, ih]

theorem mapEntries_eq_flatMap (entries : List (ConstValue × ConstValue)) :
    s.mapEntries entries = entries.flatMap fun entry =>
      s.constant entry.1 ++ ":" :: (s.constant entry.2 ++ [","]) := by
  induction entries with
  | nil => simp [Spelling.mapEntries]
  | cons entry entries ih => simp [Spelling.mapEntries, ih]

section

variable {token : String}

/-- A token that starts as no number is read by none of the readers of numbers. -/
theorem reads_constant_of_no_number {C : Char → Bool} {value : ConstValue}
    {tokens : List String} (h : Begins C token) (hvisible : Visible token)
    (hC : ∀ c, C c = true → StartsIn.isNumberStart c = false)
    (hread : Reads (((do return .literal (← Reader.literal)) : PartReader ConstValue)
      <|> (do return .reference (← Reader.identifier)) <|> Reader.constantList (constant depth)
      <|> Reader.constantMap (constant depth) <|> Reader.fail) (token :: tokens) value left) :
    Reads (constant (depth + 1)) (token :: tokens) value left :=
  .orElse_of_fails (Fails.of_begins StartsIn.hexadecimal h hvisible hC).bind <|
    .orElse_of_fails (Fails.of_begins StartsIn.double h hvisible hC).bind <|
    .orElse_of_fails (Fails.of_begins StartsIn.integer h hvisible hC).bind hread

/-- A token that starts as no name either is a bracket. -/
theorem reads_constant_of_bracket {value : ConstValue} {tokens : List String}
    (h : Begins (fun c => c == '[' || c == '\x7b') token) (hvisible : Visible token)
    (hread : Reads (Reader.constantList (constant depth)
      <|> Reader.constantMap (constant depth) <|> Reader.fail) (token :: tokens) value left) :
    Reads (constant (depth + 1)) (token :: tokens) value left := by
  have hbracket : ∀ {C : Char → Bool}, C '[' = false → C '\x7b' = false →
      ∀ c, (c == '[' || c == '\x7b') = true → C c = false := by
    intro C hlist hmap c hc
    rcases Bool.or_eq_true_iff.1 hc with hc | hc <;> rw [beq_iff_eq.1 hc] <;> assumption
  exact reads_constant_of_no_number h hvisible (hbracket (by decide) (by decide)) <|
    .orElse_of_fails
      (Fails.of_begins StartsIn.literal h hvisible (hbracket (by decide) (by decide))).bind <|
    .orElse_of_fails
      (Fails.of_begins StartsIn.identifier h hvisible (hbracket (by decide) (by decide))).bind
      hread

end

/-- The items of a list of constants, up to the bracket behind them. -/
theorem reads_constantList {values : List ConstValue}
    (hfits : ∀ value ∈ values, s.ConstantFits (depth + 1) value)
    (hreads : ∀ value ∈ values, ∀ left,
      Reads (constant (depth + 1)) (s.constant value ++ left) value left) :
    Reads (Reader.constantList (constant (depth + 1))) (s.constant (.list values) ++ left)
      (.list values) left := by
  simp only [Spelling.constant, List.cons_append, List.append_assoc, List.nil_append]
  rw [constants_eq_flatMap]
  refine (reads_symbol (by decide)).bind <| (Reads.many (fun value hvalue => ?_) ?_).bind <|
    (reads_symbol (by decide)).bind .pure
  · obtain ⟨token, others, htoken, hvisible⟩ := exists_token_constant (hfits value hvalue)
    refine ⟨token, others ++ [","], by rw [htoken, List.cons_append], hvisible, fun left => ?_⟩
    rw [List.append_assoc]
    exact (hreads value hvalue _).bind (reads_separator.bind .pure)
  · exact .of_not ((StartsIn.constant depth).bind _) (by decide) (by decide)

/-- The entries of a map of constants, up to the brace behind them. -/
theorem reads_constantMap {entries : List (ConstValue × ConstValue)}
    (hfits : ∀ entry ∈ entries, s.ConstantFits (depth + 1) entry.1)
    (hkeys : ∀ entry ∈ entries, ∀ left,
      Reads (constant (depth + 1)) (s.constant entry.1 ++ left) entry.1 left)
    (hvalues : ∀ entry ∈ entries, ∀ left,
      Reads (constant (depth + 1)) (s.constant entry.2 ++ left) entry.2 left) :
    Reads (Reader.constantMap (constant (depth + 1))) (s.constant (.map entries) ++ left)
      (.map entries) left := by
  simp only [Spelling.constant, List.cons_append, List.append_assoc, List.nil_append]
  rw [mapEntries_eq_flatMap]
  refine (reads_symbol (by decide)).bind <| (Reads.many (fun entry hentry => ?_) ?_).bind <|
    (reads_symbol (by decide)).bind .pure
  · obtain ⟨token, others, htoken, hvisible⟩ := exists_token_constant (hfits entry hentry)
    refine ⟨token, _, by rw [htoken, List.cons_append], hvisible, fun left => ?_⟩
    simp only [List.append_assoc, List.cons_append]
    exact (hkeys entry hentry _).bind <| (reads_symbol (by decide)).bind <|
      (hvalues entry hentry _).bind <| reads_separator.bind .pure
  · exact .of_not ((StartsIn.constant depth).bind _) (by decide) (by decide)

/-- A constant is read back from its tokens. -/
theorem reads_constant {value : ConstValue} (h : s.ConstantFits depth value)
    (left : List String) : Reads (constant depth) (s.constant value ++ left) value left := by
  -- in each case the readers that are tried before fail at the first token
  induction h generalizing left with
  | @integer depth n h =>
      simp only [Spelling.constant, List.cons_append, List.nil_append]
      exact .orElse_of_fails (fails_hexadecimal_of_integer n).bind <|
        .orElse_of_fails (fails_double_of_integer n).bind (reads_integer h).map.orElse
  | double h =>
      simp only [Spelling.constant, List.cons_append, List.nil_append]
      exact .orElse_of_fails (fails_hexadecimal_of_double h).bind (reads_double h).map.orElse
  | literal h =>
      simp only [Spelling.constant, List.cons_append, List.nil_append]
      exact reads_constant_of_no_number (begins_literal h) (visible_literal h)
        (fun _ => StartsIn.not_isNumberStart_of_isQuoteChar) (reads_literal h).map.orElse
  | reference h =>
      have hbegins := begins_of_isWord h
      have hvisible := visible_of_begins_isNameStart hbegins
      simp only [Spelling.constant, List.cons_append, List.nil_append]
      refine reads_constant_of_no_number hbegins hvisible
        (fun _ => StartsIn.not_isNumberStart_of_isNameStart) <| .orElse_of_fails ?_ ?_
      · exact (Fails.of_begins StartsIn.literal hbegins hvisible
          fun _ => StartsIn.not_isQuoteChar_of_isNameStart).bind
      · exact (reads_identifier h).map.orElse
  | @list depth values h ih =>
      have hread : Reads (Reader.constantList (constant (depth + 1))
          <|> Reader.constantMap (constant (depth + 1)) <|> Reader.fail)
          (s.constant (.list values) ++ left) (.list values) left :=
        (reads_constantList h ih).orElse
      simp only [Spelling.constant, List.cons_append] at hread ⊢
      exact reads_constant_of_bracket (by decide) (by decide) hread
  | @map depth entries hkeys hvalues ihkeys ihvalues =>
      have hread : Reads (Reader.constantMap (constant (depth + 1)) <|> Reader.fail)
          (s.constant (.map entries) ++ left) (.map entries) left :=
        (reads_constantMap hkeys ihkeys ihvalues).orElse
      simp only [Spelling.constant, List.cons_append] at hread ⊢
      refine reads_constant_of_bracket (by decide) (by decide) <| .orElse_of_fails ?_ hread
      exact .bind (.of_not (StartsIn.symbol (by decide)) (by decide) (by decide))

end ThriftSchema.Canonical
