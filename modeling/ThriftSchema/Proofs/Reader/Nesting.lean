import ThriftSchema.Proofs.Reader.Token
import ThriftSchema.Proofs.Text.Nesting

set_option autoImplicit false

/-! # Depth enough for the nesting

A reader goes one reference deeper only behind a bracket that opens, so that a text that does
not nest deeper than the references may is read, or rejected, without running out of depth.
`Nests k p n` says how a reader changes the nesting of what is ahead: where at most `k` brackets
are open ahead, it does not run out of depth, and what it leaves has at most `n` ahead. A bracket
that opens leaves one less, one that closes may leave one more, all other tokens leave as many.

* `Nests`: the triples, with one rule for each token and each way of putting readers together.
* `Nests.document`: a document, from a depth that is greater than the nesting.
-/

namespace ThriftSchema

variable {α β : Type}

theorem nesting_skipLayout (cs : List Char) : nesting (Reader.skipLayout cs) = nesting cs := by
  obtain ⟨blanks, hsplit, hlayout⟩ := Reader.exists_layout cs
  conv => rhs; rw [hsplit]
  rw [nesting_append fun c hc => isUnmarked_of_isLayout (hlayout c hc)]

/-- On a text that nests at most `k` deep, the reader does not run out of depth, and leaves a
text that nests at most `n` deep. -/
structure Nests (k : Nat) (p : PartReader α) (n : Nat) : Prop where
  shallow : ∀ {input}, nesting input ≤ k → p input ≠ .stopped .nestingTooDeep
  leaves : ∀ {input rest a}, nesting input ≤ k → p input = .read a rest → nesting rest ≤ n

namespace Nests

variable {k m n : Nat} {p q : PartReader α} {f : α → PartReader β}

/-! ## Putting readers together -/

theorem pure (a : α) : Nests k (Pure.pure a) k where
  shallow _ h := by cases h
  leaves hk h := by
    cases h
    exact hk

theorem fail : Nests k (Reader.fail : PartReader α) n where
  shallow _ h := by cases h
  leaves _ h := by cases h

theorem stop {why : Stop BuildError} (h : why ≠ .nestingTooDeep) :
    Nests k (Reader.stop why : PartReader α) n where
  shallow _ hstop := by
    cases hstop
    exact h rfl
  leaves _ h := by cases h

theorem bind (hp : Nests k p m) (hf : ∀ a, Nests m (f a) n) : Nests k (p >>= f) n where
  shallow hk h := by
    rcases Reader.bind_eq_stopped.1 h with h | ⟨a, middle, hread, h⟩
    · exact hp.shallow hk h
    · exact (hf a).shallow (hp.leaves hk hread) h
  leaves hk h := by
    obtain ⟨a, middle, hread, hrest⟩ := Reader.bind_eq_read.1 h
    exact (hf a).leaves (hp.leaves hk hread) hrest

theorem map (hp : Nests k p n) (g : α → β) : Nests k (p >>= fun a => Pure.pure (g a)) n :=
  hp.bind fun _ => pure _

theorem orElse (hp : Nests k p n) (hq : Nests k q n) : Nests k (p <|> q) n where
  shallow hk h := by
    rcases Reader.orElse_eq_stopped.1 h with h | ⟨-, h⟩
    · exact hp.shallow hk h
    · exact hq.shallow hk h
  leaves hk h := by
    rcases Reader.orElse_eq_read.1 h with h | ⟨-, h⟩
    · exact hp.leaves hk h
    · exact hq.leaves hk h

theorem optional (hp : Nests k p k) : Nests k (Reader.optional p) k where
  shallow hk h := hp.shallow hk (Reader.optional_eq_stopped.1 h)
  leaves hk h := by
    rcases Reader.optional_eq_read.1 h with ⟨a, -, h⟩ | ⟨-, -, rfl⟩
    · exact hp.leaves hk h
    · exact hk

/-- Every round starts on a text that nests as deep as the first one does at most. -/
theorem manyWithin (hp : Nests k p k) (bound : List Char) :
    Nests k (Reader.manyWithin p bound) k := by
  induction bound with
  | nil => exact stop fun h => by cases h
  | cons c bound ih =>
      refine ⟨fun {input} hk h => ?_, fun {input rest as} hk h => ?_⟩
      · rcases Reader.manyWithin_eq_stopped h with h | ⟨a, middle, hread, hmore⟩
        · exact hp.shallow hk h
        · exact ih.shallow (hp.leaves hk hread) hmore
      · rcases Reader.manyWithin_eq_read.1 h with
          ⟨-, -, rfl⟩ | ⟨a, middle, hread, ⟨-, -, rfl⟩ | ⟨-, bs, hmore, -⟩⟩
        · exact hk
        · exact hp.leaves hk hread
        · exact ih.leaves (hp.leaves hk hread) hmore

theorem many (hp : Nests k p k) : Nests k (Reader.many p) k where
  shallow hk h := (manyWithin hp _).shallow hk h
  leaves hk h := (manyWithin hp _).leaves hk h

/-! ## Tokens -/

theorem layout : Nests k Reader.layout k where
  shallow _ h := by cases h
  leaves {input rest u} hk h := by
    rw [Reader.layout_eq] at h
    cases h
    rwa [nesting_skipLayout]

theorem spaced (hp : Nests k p n) : Nests k (Reader.spaced p) n :=
  hp.bind fun _ => layout.bind fun _ => pure _

/-- A pattern whose lexemes make no difference to the nesting. -/
theorem lexeme {pattern : Pattern} (h : ∀ {input lexeme rest},
    Reader.measured pattern input = .read lexeme rest → nesting input = nesting rest) :
    Nests k (Reader.lexeme pattern) k := by
  refine spaced ⟨fun {input} _ hstop => ?_, fun hk hread => ?_⟩
  · unfold Reader.measured at hstop
    split at hstop <;> cases hstop
  · rwa [h hread] at hk

theorem keyword {text : String} (h : ∀ c ∈ text.toList, IsUnmarked c) :
    Nests k (Reader.keyword text) k where
  shallow _ hstop := by
    unfold Reader.keyword at hstop
    split at hstop <;> cases hstop
  leaves hk hread := by
    rw [(Reader.keyword_eq_read.1 hread).1, nesting_append h] at hk
    exact hk

theorem word {text : String} (h : ∀ c ∈ text.toList, IsUnmarked c) :
    Nests k (Reader.word text) k := spaced (keyword h)

theorem symbol_ne_stopped (text : String) (input : List Char) (why : Stop BuildError) :
    Reader.symbol text input ≠ .stopped why := by
  unfold Reader.symbol Reader.spaced
  rw [Reader.bind_apply]
  unfold Reader.characters
  split <;> exact fun h => by cases h

theorem symbol_eq_read {text : String} {input rest : List Char} {u : Unit}
    (h : Reader.symbol text input = .read u rest) :
    ∃ middle, input = text.toList ++ middle ∧ nesting rest = nesting middle := by
  obtain ⟨middle, hmark, rfl⟩ := Reader.spaced_eq_read.1 h
  exact ⟨middle, Reader.characters_eq_read.1 hmark, nesting_skipLayout middle⟩

theorem symbol {text : String} (h : ∀ c ∈ text.toList, IsUnmarked c) :
    Nests k (Reader.symbol text) k where
  shallow _ := symbol_ne_stopped _ _ _
  leaves hk hread := by
    obtain ⟨middle, rfl, hrest⟩ := symbol_eq_read hread
    rwa [nesting_append h, ← hrest] at hk

/-- Behind a bracket that closes one more may be ahead. -/
theorem closing {text : String} {c : Char} (htext : text.toList = [c]) (hc : c ∈ closings) :
    Nests k (Reader.symbol text) (k + 1) where
  shallow _ := symbol_ne_stopped _ _ _
  leaves hk hread := by
    obtain ⟨middle, rfl, hrest⟩ := symbol_eq_read hread
    rw [htext, List.singleton_append, nesting_closing hc] at hk
    omega

/-- Behind a bracket that opens one less is ahead, and where none is ahead there is no such
bracket. -/
theorem opening {text : String} {c : Char} (htext : text.toList = [c]) (hc : c ∈ openings)
    {f : Unit → PartReader β} (hf : ∀ j, k = j + 1 → Nests j (f ()) n) :
    Nests k (Reader.symbol text >>= f) n := by
  have hopens : ∀ {input rest u}, nesting input ≤ k → Reader.symbol text input = .read u rest →
      ∃ j, k = j + 1 ∧ nesting rest ≤ j := by
    intro input rest u hk hread
    obtain ⟨middle, rfl, hrest⟩ := symbol_eq_read hread
    rw [htext, List.singleton_append, nesting_opening hc] at hk
    exact ⟨k - 1, by omega, by omega⟩
  refine ⟨fun {input} hk h => ?_, fun hk h => ?_⟩
  · rcases Reader.bind_eq_stopped.1 h with h | ⟨u, middle, hread, h⟩
    · exact symbol_ne_stopped _ _ _ h
    · obtain ⟨j, hj, hmiddle⟩ := hopens hk hread
      exact (hf j hj).shallow hmiddle h
  · obtain ⟨u, middle, hread, hrest⟩ := Reader.bind_eq_read.1 h
    obtain ⟨j, hj, hmiddle⟩ := hopens hk hread
    exact (hf j hj).leaves hmiddle hrest

theorem oneOf {words : List String} (h : ∀ text ∈ words, ∀ c ∈ text.toList, IsUnmarked c) :
    Nests k (Reader.oneOf words) k := by
  refine spaced ?_
  induction words with
  | nil => exact fail
  | cons text words ih =>
      exact ((keyword (h text (List.mem_cons_self ..))).map _).orElse
        (ih fun other hother => h other (List.mem_cons_of_mem _ hother))

theorem flag {text : String} (h : ∀ c ∈ text.toList, IsUnmarked c) : Nests k (Reader.flag text) k :=
  (optional (word h)).map _

theorem identifier : Nests k Reader.identifier k := by
  refine (lexeme fun h => ?_).map _
  obtain ⟨rfl, hname, -⟩ := Reader.identifier_measured.1 h
  exact nesting_append fun c hc =>
    isUnmarked_of_isSpelled (isSpelled_of_isWord (fun _ => isSpelled_of_isNameChar) hname c hc)

theorem dashedIdentifier : Nests k Reader.dashedIdentifier k := by
  refine (lexeme fun h => ?_).map _
  obtain ⟨rfl, hname, -⟩ := Reader.dashedIdentifier_measured.1 h
  exact nesting_append fun c hc => isUnmarked_of_isSpelled
    (isSpelled_of_isWord (fun _ => isSpelled_of_isDashedNameChar) hname c hc)

theorem literal : Nests k Reader.literal k := by
  refine (lexeme fun h => ?_).map _
  obtain ⟨rfl, content, hquoted⟩ := Reader.literal_measured.1 h
  exact nesting_quoted hquoted

theorem separator : Nests k Reader.separator k := by
  refine (optional (lexeme fun h => ?_)).map _
  obtain ⟨rfl, rfl | rfl⟩ := Reader.separator_measured.1 h
  · exact nesting_unmarked (by decide)
  · exact nesting_unmarked (by decide)

theorem integer : Nests k Reader.integer k := by
  refine (lexeme fun h => ?_).bind fun cs => ?_
  · obtain ⟨rfl, ⟨value, hvalue⟩, -⟩ := Reader.integer_measured.1 h
    exact nesting_append fun c hc => isUnmarked_of_isSpelled (isSpelled_of_isInteger hvalue c hc)
  · unfold Reader.decimalValue
    split
    · exact pure _
    · exact stop fun h => by cases h
    · exact fail

theorem hexadecimal : Nests k Reader.hexadecimal k := by
  refine (lexeme fun h => ?_).bind fun cs => ?_
  · obtain ⟨rfl, ⟨value, hvalue⟩, -⟩ := Reader.hexadecimal_measured.1 h
    exact nesting_append fun c hc =>
      isUnmarked_of_isSpelled (isSpelled_of_isHexadecimal hvalue c hc)
  · unfold Reader.hexadecimalValue
    split
    · exact pure _
    · exact fail

theorem double : Nests k Reader.double k := by
  refine (lexeme fun h => ?_).bind fun cs => ?_
  · obtain ⟨rfl, hdecimal, -⟩ := Reader.decimal_measured h
    exact nesting_append fun c hc => isUnmarked_of_isSpelled (isSpelled_of_isDecimal hdecimal c hc)
  · unfold Reader.doubleValue
    split
    · exact pure _
    · exact fail

/-! ## Types -/

theorem hint : Nests k Reader.hint k :=
  optional ((word (by decide)).bind fun _ => literal)

theorem containerType {type : PartReader FieldType} (h : ∀ j, k = j + 1 → Nests j type j) :
    Nests k (Reader.containerType type) k := by
  have hmap : Nests k (Reader.mapType type) k := by
    refine (word (by decide)).bind fun _ => hint.bind fun _ => opening rfl (by decide) ?_
    rintro j rfl
    exact (h j rfl).bind fun _ => (symbol (by decide)).bind fun _ => (h j rfl).bind fun _ =>
      (closing rfl (by decide)).map _
  have hset : Nests k (Reader.setType type) k := by
    refine (word (by decide)).bind fun _ => hint.bind fun _ => opening rfl (by decide) ?_
    rintro j rfl
    exact (h j rfl).bind fun _ => (closing rfl (by decide)).map _
  have hlist : Nests k (Reader.listType type) k := by
    refine (word (by decide)).bind fun _ => opening rfl (by decide) ?_
    rintro j rfl
    exact (h j rfl).bind fun _ => (closing rfl (by decide)).bind fun _ => hint.map _
  exact hmap.orElse (hset.orElse (hlist.orElse fail))

theorem baseType : Nests k Reader.baseType k := (oneOf (by decide)).map _

theorem fieldType {depth : Nat} (h : k < depth) : Nests k (Reader.fieldType depth) k := by
  induction depth generalizing k with
  | zero => exact absurd h (Nat.not_lt_zero _)
  | succ depth ih =>
      -- a reference is one deeper, and stands behind a bracket that opens
      have hcontainer : Nests k (Reader.containerType (Reader.fieldType depth)) k :=
        containerType fun j hj => ih (by omega)
      exact hcontainer.orElse (baseType.orElse ((identifier.map _).orElse fail))

/-! ## Constants -/

theorem constant {depth : Nat} (h : k < depth) : Nests k (Reader.constant depth) k := by
  induction depth generalizing k with
  | zero => exact absurd h (Nat.not_lt_zero _)
  | succ depth ih =>
      have hlist : Nests k (Reader.constantList (Reader.constant depth)) k := by
        refine opening rfl (by decide) ?_
        rintro j rfl
        have hitem : Nests j (Reader.listItem (Reader.constant depth)) j :=
          (ih (by omega)).bind fun _ => separator.map _
        exact hitem.many.bind fun _ => (closing rfl (by decide)).map _
      have hmap : Nests k (Reader.constantMap (Reader.constant depth)) k := by
        refine opening rfl (by decide) ?_
        rintro j rfl
        have hvalue : Nests j (Reader.constant depth) j := ih (by omega)
        have hentry : Nests j (Reader.mapEntry (Reader.constant depth)) j :=
          hvalue.bind fun _ => (symbol (by decide)).bind fun _ => hvalue.bind fun _ =>
            separator.map _
        exact hentry.many.bind fun _ => (closing rfl (by decide)).map _
      exact (hexadecimal.map _).orElse <| (double.map _).orElse <| (integer.map _).orElse <|
        (literal.map _).orElse <| (identifier.map _).orElse <| hlist.orElse <| hmap.orElse fail

/-! ## Fields -/

theorem fieldId : Nests k Reader.fieldId k :=
  integer.bind fun _ => (symbol (by decide)).map _

theorem requiredness : Nests k Reader.requiredness k := by
  refine (oneOf (by decide)).bind fun text => ?_
  unfold Reader.requirednessOf
  split
  · exact pure _
  · exact pure _
  · exact fail

theorem assigned (hp : Nests k p k) : Nests k (Reader.assigned p) k :=
  (symbol (by decide)).bind fun _ => hp

/-- A block between two brackets. -/
theorem block {text opener closer : String} {c d : Char} {field : PartReader Field}
    (htext : ∀ c ∈ text.toList, IsUnmarked c) (hopener : opener.toList = [c]) (hc : c ∈ openings)
    (hcloser : closer.toList = [d]) (hd : d ∈ closings) (h : ∀ j, k = j + 1 → Nests j field j) :
    Nests k (Reader.block text opener closer field) k := by
  refine (word htext).bind fun _ => opening hopener hc ?_
  rintro j rfl
  exact (h j rfl).many.bind fun _ => (closing hcloser hd).map _

theorem field {options : BuildOptions} {depth : Nat} (h : k + 1 < depth) :
    Nests k (Reader.field options depth) k := by
  induction depth generalizing k with
  | zero => exact absurd h (Nat.not_lt_zero _)
  | succ depth ih =>
      have hattributes : Nests k (Reader.attributes (Reader.field options depth)) k :=
        block (by decide) rfl (by decide) rfl (by decide) fun j hj => ih (by omega)
      exact (optional fieldId).bind fun _ => (optional requiredness).bind fun _ =>
        (fieldType (by omega)).bind fun _ => identifier.bind fun _ =>
        (optional (assigned (constant (by omega)))).bind fun _ => (flag (by decide)).bind fun _ =>
        (flag (by decide)).bind fun _ => (optional hattributes).bind fun _ => separator.map _

/-! ## Definitions -/

section Definitions

variable {options : BuildOptions} {depth : Nat}

theorem function {type : PartReader FieldType} {field : PartReader Field} (htype : Nests k type k)
    (hfield : ∀ j, k = j + 1 → Nests j field j) : Nests k (Reader.function type field) k := by
  have hreturns : Nests k (Reader.returnType type) k :=
    ((word (by decide)).map _).orElse ((htype.map _).orElse fail)
  have hthrows : Nests k (Reader.throws field) k :=
    block (by decide) rfl (by decide) rfl (by decide) hfield
  refine (flag (by decide)).bind fun _ => hreturns.bind fun _ => identifier.bind fun _ =>
    opening rfl (by decide) ?_
  rintro j rfl
  exact (hfield j rfl).many.bind fun _ => (closing rfl (by decide)).bind fun _ =>
    (optional hthrows).bind fun _ => separator.map _

theorem const (h : k < depth) : Nests k (Reader.const depth) k :=
  (word (by decide)).bind fun _ => (fieldType h).bind fun _ => identifier.bind fun _ =>
    (symbol (by decide)).bind fun _ => (constant h).bind fun _ => separator.map _

theorem typedef (h : k < depth) : Nests k (Reader.typedef depth) k := by
  have htype : Nests k (Reader.definitionType (Reader.fieldType depth)) k :=
    baseType.orElse ((containerType fun j hj => fieldType (by omega)).orElse fail)
  exact (word (by decide)).bind fun _ => htype.bind fun _ => identifier.bind fun _ =>
    separator.map _

/-- The parts of a definition between its brackets. -/
theorem body {items : PartReader α} {make : List α → Definition}
    (h : ∀ j, k = j + 1 → Nests j items j) :
    Nests k (do
      Reader.symbol "\x7b"
      let parts ← Reader.many items
      Reader.symbol "\x7d"
      return make parts) k := by
  refine opening rfl (by decide) ?_
  rintro j rfl
  exact (h j rfl).many.bind fun _ => (closing rfl (by decide)).map _

theorem enum : Nests k (Reader.enum options) k := by
  have hvalue : ∀ j, Nests j Reader.enumValue j := fun j =>
    identifier.bind fun _ => (optional (assigned (hexadecimal.orElse (integer.orElse fail)))).bind
      fun _ => separator.map _
  exact (word (by decide)).bind fun _ => identifier.bind fun _ => body fun j _ => hvalue j

theorem senum : Nests k Reader.senum k := by
  have hitem : ∀ j, Nests j Reader.literalItem j := fun j => literal.bind fun _ => separator.map _
  exact (word (by decide)).bind fun _ => identifier.bind fun _ => body fun j _ => hitem j

theorem flaggedFields {text : String} {make : String → List Field → Bool → Definition}
    (htext : ∀ c ∈ text.toList, IsUnmarked c) (h : k < depth) :
    Nests k (Reader.flaggedFields text make options depth) k :=
  (word htext).bind fun _ => identifier.bind fun _ => (flag (by decide)).bind fun _ =>
    body fun j hj => field (by omega)

theorem exception (h : k < depth) : Nests k (Reader.exception options depth) k :=
  (word (by decide)).bind fun _ => identifier.bind fun _ => body fun j hj => field (by omega)

theorem service (h : k < depth) : Nests k (Reader.service options depth) k := by
  have hparent : Nests k Reader.parent k := (word (by decide)).bind fun _ => identifier
  exact (word (by decide)).bind fun _ => identifier.bind fun _ => (optional hparent).bind fun _ =>
    body fun j hj => function (fieldType (by omega)) fun i hi => field (by omega)

theorem definition (h : k < depth) : Nests k (Reader.definition options depth) k :=
  (const h).orElse <| (typedef h).orElse <| enum.orElse <| senum.orElse <|
    (flaggedFields (by decide) h).orElse <| (flaggedFields (by decide) h).orElse <|
    (exception h).orElse <| (service h).orElse fail

end Definitions

/-! ## Documents -/

theorem literalHeader {text : String} {make : String → Header}
    (h : ∀ c ∈ text.toList, IsUnmarked c) : Nests k (Reader.literalHeader text make) k :=
  (word h).bind fun _ => literal.map _

theorem header : Nests k Reader.header k := by
  have hcategory : Nests k Reader.smalltalkCategory k :=
    (word (by decide)).bind fun _ => dashedIdentifier.map _
  have hclass : Nests k Reader.smalltalkPrefix k :=
    (word (by decide)).bind fun _ => identifier.map _
  have hscoped : Nests k Reader.scopedName k := (oneOf (by decide)).bind fun _ => identifier.map _
  have hnamespace : Nests k Reader.targetNamespace k :=
    (word (by decide)).bind fun _ => hcategory.orElse (hclass.orElse (hscoped.orElse fail))
  exact (literalHeader (by decide)).orElse <| (literalHeader (by decide)).orElse <|
    hnamespace.orElse <| (literalHeader (by decide)).orElse <|
    (literalHeader (by decide)).orElse fail

/-- A document does not run out of a depth that is greater than its nesting. -/
theorem document {options : BuildOptions} {depth : Nat} (h : k < depth) :
    Nests k (Reader.document options depth) k := by
  have hfinish : Nests k Reader.finish k := by
    refine ⟨fun {input} _ hstop => ?_, fun {input _ _} hk hread => ?_⟩
    · cases input <;> cases hstop
    · cases input with
      | nil =>
          cases hread
          exact hk
      | cons c cs => cases hread
  exact layout.bind fun _ => header.many.bind fun _ => (definition h).many.bind fun _ =>
    hfinish.map _

end Nests

end ThriftSchema
