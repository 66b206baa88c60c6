import ThriftSchema.Proofs.Confined.Token

set_option autoImplicit false

/-! # Types and constants and the text behind

A container that is not there may still have its word there, as the name of a type. So what
follows a type must not look like the rest of a container: `AfterType`. A constant is complete
in itself.
-/

namespace ThriftSchema

variable {α β : Type} {m r : List Char}

/-! ## What may come next -/

theorem Ahead.startsWith.notAhead {C D : Char → Bool} (h : Ahead.startsWith C m r)
    (hCD : ∀ c, C c = true → D c = false) : NotAhead D m := by
  cases m with
  | nil => exact notAhead_nil _
  | cons c m =>
      refine notAhead_cons.2 (hCD c ?_)
      simpa [Ahead.startsWith] using h

/-- One mark is not another. -/
theorem Ahead.startsWith.notAhead_of_mark {c : Char} {D : Char → Bool}
    (h : Ahead.startsWith (· == c) m r) (hc : D c = false) : NotAhead D m := by
  refine h.notAhead fun d hd => ?_
  obtain rfl : d = c := by simpa using hd
  exact hc

theorem Reader.word_cases (text : String) (input : List Char) :
    Reader.word text input = .failed ∨ ∃ rest, Reader.word text input = .read () rest := by
  rw [Reader.word, Reader.spaced, Reader.bind_apply, Reader.keyword]
  split
  · exact .inr ⟨_, rfl⟩
  · exact .inl rfl

namespace Before

variable {P : List Char → Prop}

theorem of_notAhead (h : NotAhead Pattern.isNameStart m) : Before P m := by
  intro text m' htext hread
  obtain ⟨after, hkeyword, -⟩ := Reader.spaced_eq_read.1 hread
  obtain ⟨rfl, -⟩ := Reader.keyword_eq_read.1 hkeyword
  cases hcs : text.toList with
  | nil => exact (hcs ▸ htext : IsName []).elim
  | cons c cs =>
      rw [hcs] at h htext
      exact absurd htext.1 (by rw [notAhead_cons.1 h]; exact Bool.false_ne_true)

/-- A part that starts with a word fails if what follows the word does not go on with it. -/
theorem word_bind_failed {text : String} {f : Unit → PartReader β} (h : Before P m)
    (htext : IsName text.toList) (hf : ∀ {m'}, P m' → f () m' = .failed) :
    (Reader.word text >>= f) m = .failed := by
  rcases Reader.word_cases text m with hfailed | ⟨m', hread⟩
  · exact Reader.bind_of_failed hfailed
  · rw [Reader.bind_of_read hread, hf (h text m' htext hread)]

end Before

/-- No quote is next. -/
abbrev NoQuote : List Char → Prop := NotAhead StartsIn.isQuoteChar

/-- The marks that do not follow the word or the name that a field starts with. -/
def isMark (c : Char) : Bool := StartsIn.isQuoteChar c || c == '\x7b' || c == '('

/-- None of these marks is next. -/
abbrev NoMark : List Char → Prop := NotAhead isMark

/-- What follows a type: neither the rest of a container nor a hint. -/
def AfterType (m : List Char) : Prop :=
  NotAhead (fun c => isMark c || c == '<') m ∧ Before NoQuote m

theorem AfterType.noMark (h : AfterType m) : NoMark m :=
  h.1.mono fun c hc => by simp [hc]

theorem afterType_of_mark {c : Char} (h : Ahead.startsWith (· == c) m r)
    (hc : (isMark c || c == '<') = false ∧ Pattern.isNameStart c = false) : AfterType m :=
  ⟨h.notAhead_of_mark hc.1, .of_notAhead (h.notAhead_of_mark hc.2)⟩

theorem not_isMark_of_isNameStart {c : Char} (h : Pattern.isNameStart c = true) :
    (isMark c || c == '<') = false := by
  rw [Bool.eq_false_iff]
  intro hmark
  simp only [isMark, StartsIn.isQuoteChar, Bool.or_eq_true, beq_iff_eq] at hmark
  rcases hmark with (((rfl | rfl) | rfl) | rfl) | rfl <;> exact absurd h (by decide)

theorem Named.notAhead_mark (h : Named m r) : NotAhead (fun c => isMark c || c == '<') m :=
  h.notAhead fun c hc => by
    rw [Bool.eq_false_iff]
    intro hname
    rw [not_isMark_of_isNameStart hname] at hc
    exact Bool.false_ne_true hc

theorem Named.noMark (h : Named m r) : NoMark m :=
  h.notAhead_mark.mono fun c hc => by simp [hc]

/-- A name follows a type unless a quote follows the name. -/
theorem Front.afterType (h : Front NoQuote m r) : AfterType m := ⟨h.1.notAhead_mark, h.2⟩

namespace Confined

variable {R S Q : Ahead}

/-- Words one of which a part starts with: at most one of the parts is there. -/
theorem orElse_word {text : String} {words : List String} {f : Unit → PartReader α}
    {q : PartReader α} (hp : Confined (Begins [text] S) (Reader.word text >>= f) Q)
    (hq : Confined (Begins words S) q Q) (htext : Reader.IsKeyword text.toList)
    (hwords : ∀ t ∈ words, Reader.IsKeyword t.toList) (hnot : text ∉ words) :
    Confined (Begins (text :: words) S) ((Reader.word text >>= f) <|> q) Q := by
  refine orElse (S := Begins words S) (hp.mono ?_ fun hv => hv) hq ?_
    (.word_bind htext hwords hnot)
  · rintro m r ⟨t, ht, hm⟩
    exact ⟨t, List.mem_cons.2 (.inl (List.mem_singleton.1 ht)), hm⟩
  · rintro m r ⟨t, ht, hm⟩
    exact ⟨t, List.mem_cons_of_mem _ ht, hm⟩

/-! ## Types -/

theorem hint_failed (h : Before NoQuote m) :
    (do Reader.word "cpp_type"; Reader.literal : PartReader String) m = .failed :=
  h.word_bind_failed (by decide) fun hm => StartsIn.literal hm

theorem hintWord : Confined Named (do Reader.word "cpp_type"; Reader.literal) Q :=
  ((word_front (P := fun _ => True) (by decide)).mono (fun hm => hm.1) fun _ => trivial).bind
    fun _ => literal

/-- A hint in front of the mark that opens a container. -/
theorem hint_before : Confined (Ahead.ofText NoMark) Reader.hint (Ahead.startsWith (· == '<')) :=
  optional (hintWord.mono (fun hm => hm.noMark) fun hm => hm)
    (fun hm => hm.notAhead_of_mark (by decide))
    (.of_startsIn StartsIn.hint fun hm => hm.notAhead_of_mark (by decide))

/-- A hint behind a container. -/
theorem hint_behind : Confined Ahead.always Reader.hint (Ahead.ofText AfterType) :=
  optional (hintWord.mono (fun _ => trivial) fun hm => hm) (fun _ => trivial)
    fun _ _ hv _ => hint_failed hv.2

variable {type : PartReader FieldType}

theorem mapType (htype : Confined (Front NoMark) type (Ahead.ofText AfterType)) :
    Confined (Begins ["map"] (Ahead.ofText NoMark).spaced) (Reader.mapType type) Q :=
  (word "map").bind fun _ => hint_before.bind fun _ => (mark (by decide)).bind fun _ =>
    (htype.mono (fun hm => hm) fun hm => afterType_of_mark hm (c := ',') (by decide)).bind
    fun _ => (mark (by decide)).bind fun _ =>
    (htype.mono (fun hm => hm) fun hm => afterType_of_mark hm (c := '>') (by decide)).bind
    fun _ => (mark (by decide)).bind fun _ => pure _

theorem setType (htype : Confined (Front NoMark) type (Ahead.ofText AfterType)) :
    Confined (Begins ["set"] (Ahead.ofText NoMark).spaced) (Reader.setType type) Q :=
  (word "set").bind fun _ => hint_before.bind fun _ => (mark (by decide)).bind fun _ =>
    (htype.mono (fun hm => hm) fun hm => afterType_of_mark hm (c := '>') (by decide)).bind
    fun _ => (mark (by decide)).bind fun _ => pure _

theorem listType (htype : Confined (Front NoMark) type (Ahead.ofText AfterType)) :
    Confined (Begins ["list"] (Ahead.ofText NoMark).spaced) (Reader.listType type)
      (Ahead.ofText AfterType) :=
  (word "list").bind fun _ =>
    ((mark (C := (· == '<')) (by decide)).mono (fun hm => hm.notAhead_of_mark (by decide))
      fun hm => hm).bind fun _ =>
    (htype.mono (fun hm => hm) fun hm => afterType_of_mark hm (c := '>') (by decide)).bind
    fun _ => ((mark (by decide)).mono (fun hm => hm) fun _ => trivial).bind fun _ =>
    hint_behind.bind fun _ => pure _

theorem containerType (htype : Confined (Front NoMark) type (Ahead.ofText AfterType)) :
    Confined (Begins ["map", "set", "list"] (Ahead.ofText NoMark).spaced)
      (Reader.containerType type) (Ahead.ofText AfterType) :=
  orElse_word (mapType htype)
    (orElse_word (setType htype) (orElse_fail (listType htype)) (by decide) (by decide)
      (by decide)) (by decide) (by decide) (by decide)

theorem baseType {P : List Char → Prop} :
    Confined (Front P) Reader.baseType (Ahead.ofText P) := (oneOf_front (by decide)).map _

theorem namedType {P : List Char → Prop} :
    Confined (Front P) Reader.namedType (Ahead.ofText P) := identifier.map _

/-- A word that is the name of a type starts no container. -/
theorem containerType_failed (h : Before AfterType m) :
    Reader.containerType type m = .failed := by
  have hopen : ∀ {m'} {f : Unit → PartReader FieldType}, AfterType m' →
      (Reader.symbol "<" >>= f) m' = .failed := by
    intro m' f hm'
    refine Reader.bind_of_failed (StartsIn.symbol_of_head (C := (· == '<')) (by decide) ?_)
    exact hm'.1.mono fun c hc => by simp [hc]
  have hhint : ∀ {m'} {f : Option String → Unit → PartReader FieldType}, AfterType m' →
      (Reader.hint >>= fun hint => Reader.symbol "<" >>= f hint) m' = .failed := by
    intro m' f hm'
    have hnone : Reader.hint m' = .read none m' := Reader.optional_of_failed (hint_failed hm'.2)
    rw [Reader.bind_of_read hnone, hopen hm']
  rw [Reader.containerType, Reader.orElse_of_failed, Reader.orElse_of_failed,
    Reader.orElse_of_failed]
  · rfl
  · exact h.word_bind_failed (by decide) fun hm' => hopen hm'
  · exact h.word_bind_failed (by decide) fun hm' => hhint hm'
  · exact h.word_bind_failed (by decide) fun hm' => hhint hm'

theorem failsAlone_baseType : FailsAlone Reader.baseType Named :=
  (FailsAlone.oneOf_named (by decide)).map _

theorem fieldType (depth : Nat) :
    Confined (Front NoMark) (Reader.fieldType depth) (Ahead.ofText AfterType) := by
  have hmark : ∀ {m r}, Front AfterType m r → Front NoMark m r := fun hm =>
    hm.mono fun hm' => hm'.noMark
  induction depth with
  | zero => exact stop _
  | succ depth ih =>
      have hnamed : Confined (Front AfterType) (Reader.namedType <|> Reader.fail)
          (Ahead.ofText AfterType) := orElse_fail namedType
      have hbase : Confined (Front AfterType) (Reader.baseType <|> Reader.namedType <|> Reader.fail)
          (Ahead.ofText AfterType) :=
        orElse baseType hnamed (fun hm => hm) (failsAlone_baseType.mono fun hm => hm.1)
      exact orElse ((containerType ih).mono (fun hm => hm.front (by decide)) fun hm => hm) hbase
        hmark fun v r hv _ => containerType_failed hv.2

theorem definitionType (depth : Nat) :
    Confined (Front NoMark) (Reader.definitionType (Reader.fieldType depth))
      (Ahead.ofText AfterType) := by
  have hfront : ∀ {m r}, Begins ["map", "set", "list"] (Ahead.ofText NoMark).spaced m r →
      Front NoMark m r := fun hm => hm.front (by decide)
  exact orElse (baseType.mono (fun hm => hm) fun hm => hm.noMark)
    (orElse_fail (containerType (fieldType depth))) hfront
    (failsAlone_baseType.mono fun hm => (hfront hm).1)

theorem returnType (depth : Nat) :
    Confined (Front NoMark) (Reader.returnType (Reader.fieldType depth))
      (Ahead.ofText AfterType) := by
  have hvoid : Confined (Front NoMark) (do Reader.word "void"; return ReturnType.void)
      (Ahead.ofText AfterType) :=
    Confined.map ((word_front (by decide)).mono (fun hm => hm) fun hm => hm.noMark) _
  exact orElse hvoid (orElse_fail ((fieldType depth).map _)) (fun hm => hm)
    (((FailsAlone.word_named (by decide)).mono fun hm => hm.1).map _)

/-! ## Constants -/

/-- A separator, which may be missing. -/
theorem separator (hsep : ∀ {m r}, Ahead.startsWith (fun c => c == ',' || c == ';') m r → R m r)
    (hQ : ∀ {m r}, Q m r → R m r) : Confined R Reader.separator Q := by
  have hstart : StartsIn (Reader.lexeme Pattern.separator) fun c => c == ',' || c == ';' := by
    refine StartsIn.lexeme fun {cs} h => ?_
    cases cs with
    | nil => rfl
    | cons c cs =>
        have hc := notAhead_cons.1 h
        simp only [Pattern.separator, Pattern.separatorLength, hc, Bool.false_eq_true, if_false]
  have hlexeme : Confined R (Reader.lexeme Pattern.separator) Q :=
    ((lexeme Pattern.isLocal_separatorLength Pattern.fits_separator).startsWith hstart).mono hsep
      fun hm => hm
  exact (optional hlexeme hQ (.lexeme Pattern.isLocal_separatorLength)).map _

theorem separator_always : Confined Ahead.always Reader.separator Q :=
  separator (fun _ => trivial) fun _ => trivial

/-- Items in front of the mark that closes them. -/
theorem many_closed {p : PartReader α} {c : Char} (hp : Confined Ahead.always p Ahead.always)
    (hend : FailsAlone p (Ahead.startsWith (· == c))) :
    Confined Ahead.always (Reader.many p) (Ahead.startsWith (· == c)) :=
  (many hp (fun _ => trivial) (fun _ => trivial) hend).mono (fun _ => trivial) fun hm => hm

/-- Constants do not start with the mark that closes a list or map of them. -/
theorem failsAlone_constant (depth : Nat) {c : Char} (hc : StartsIn.isConstantStart c = false)
    (f : ConstValue → PartReader β) :
    FailsAlone (Reader.constant depth >>= f) (Ahead.startsWith (· == c)) := by
  cases depth with
  | zero => exact fun _ _ _ hfailed => by cases hfailed
  | succ depth =>
      exact .of_startsIn ((StartsIn.constant depth).bind f) fun hm => hm.notAhead_of_mark hc

theorem identifier_always : Confined Ahead.always Reader.identifier Q :=
  (identifier (P := fun _ => True)).mono (fun _ => trivial) fun _ => trivial

theorem constant (depth : Nat) : Confined Ahead.always (Reader.constant depth) Q := by
  suffices h : Confined Ahead.always (Reader.constant depth) Ahead.always from
    h.mono (fun _ => trivial) fun _ => trivial
  induction depth with
  | zero => exact stop _
  | succ depth ih =>
      have hitem : Confined Ahead.always (Reader.listItem (Reader.constant depth)) Ahead.always :=
        ih.bind fun _ => separator_always.bind fun _ => pure _
      have hentry : Confined Ahead.always (Reader.mapEntry (Reader.constant depth))
          Ahead.always :=
        ih.bind fun _ => (symbol ":").bind fun _ => ih.bind fun _ =>
          separator_always.bind fun _ => pure _
      have hlist : Confined Ahead.always (Reader.constantList (Reader.constant depth))
          Ahead.always :=
        (symbol "[").bind fun _ =>
          (many_closed hitem (failsAlone_constant depth (c := ']') (by decide) _)).bind fun _ =>
          (mark (by decide)).bind fun _ => pure _
      have hmap : Confined (Ahead.startsWith (· == '\x7b'))
          (Reader.constantMap (Reader.constant depth)) Ahead.always :=
        (mark (by decide)).bind fun _ =>
          (many_closed hentry (failsAlone_constant depth (c := '\x7d') (by decide) _)).bind
          fun _ => (mark (by decide)).bind fun _ => pure _
      have hnotList : FailsAlone (Reader.constantList (Reader.constant depth))
          (Ahead.startsWith (· == '\x7b')) :=
        .of_startsIn ((StartsIn.symbol_of_head (C := (· == '[')) (by decide)).bind _)
          fun hm => hm.notAhead_of_mark (by decide)
      have hblocks := orElse hlist (orElse_fail hmap) (fun _ => trivial) hnotList
      exact orElse (hexadecimal.map _) (orElse (double.map _) (orElse (integer.map _)
        (orElse (literal.map _) (orElse (identifier_always.map _) hblocks (fun hm => hm)
          (FailsAlone.identifier.map _)) (fun hm => hm) (FailsAlone.literal.map _))
        (fun hm => hm) (FailsAlone.integer.map _)) (fun hm => hm) (FailsAlone.double.map _))
        (fun hm => hm) (FailsAlone.hexadecimal.map _)

end Confined

end ThriftSchema
