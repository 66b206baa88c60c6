import ThriftSchema.Proofs.Expectation.Outlook

set_option autoImplicit false

/-! # The tokens of the recognizer

The heads that the recognizer decides by, and what their tokens are called. The recognizer looks
for several heads at one place; whatever one of them asks for, each of the others takes or
refuses, so that a token that is put there is read by the first head that takes it.

* `Form.pool`: the heads of the recognizer, which are all that a walk looks for.
* `IsTokenOf`: the texts that a label stands for.
* `Head.takes_or_refuses`: what the heads do with the tokens.
-/

namespace ThriftSchema

/-! ## Heads -/

namespace Form

/-- The heads of a form, and what is left of a pair behind its first token. -/
def heads : Form → List Head
  | lead (.choice ts) => [.choice ts]
  | lead (.pair first second) => [.pair first second, .choice [second]]
  | done | never | ref _ => []
  | seq first rest | alt first rest => first.heads ++ rest.heads
  | star body | opt body => body.heads

/-- The heads of the recognizer. -/
def pool : List Head :=
  header.heads ++ definition.heads ++
    names.flatMap fun name => (named? name).elim [] heads

theorem mem_pool_of_named {name : String} {form : Form} (h : named? name = some form) :
    ∀ head ∈ form.heads, head ∈ pool := by
  intro head hhead
  refine List.mem_append_right _ (List.mem_flatMap.2 ⟨name, mem_names h, ?_⟩)
  rwa [h]

end Form

/-- Tokens are looked for with the heads of the recognizer. -/
theorem Walks.mem_pool {depth : Nat} {form : Form} {input : List Char}
    {left : Option (List Char)} {notes : List Note} (h : Walks depth form input left notes)
    (hheads : ∀ head ∈ form.heads, head ∈ Form.pool) :
    ∀ note ∈ notes, note.head ∈ Form.pool ∧ note.terminal ∈ note.head.terminals := by
  have hchoice : ∀ {ts input}, Head.choice ts ∈ Form.pool →
      ∀ note ∈ ((Head.choice ts).attempt input).2,
        note.head ∈ Form.pool ∧ note.terminal ∈ note.head.terminals := by
    intro ts input hpool note hnote
    obtain ⟨hterminal, hhead, -⟩ := Head.mem_tryEach hnote
    rw [hhead]
    exact ⟨hpool, hterminal⟩
  induction h with
  | @lead _ head input _ _ h =>
      obtain rfl := (congrArg Prod.snd h).symm
      cases head with
      | choice ts => exact hchoice (hheads _ (List.mem_singleton_self _))
      | pair first second =>
          cases hread : first.read input with
          | none =>
              rw [Head.attempt_pair_of_read_none hread]
              intro note hnote
              rw [List.mem_singleton.1 hnote]
              exact ⟨hheads _ (List.mem_cons_self ..), List.mem_singleton_self _⟩
          | some middle =>
              rw [Head.attempt_pair_of_read hread]
              exact hchoice (hheads _ (List.mem_cons_of_mem _ (List.mem_singleton_self _)))
  | done | never => exact fun note hnote => absurd hnote List.not_mem_nil
  | seq _ _ ihFirst ihRest | altRest _ _ ihFirst ihRest =>
      obtain ⟨hfirst, hrest⟩ := List.forall_mem_append.1 hheads
      exact List.forall_mem_append.2 ⟨ihFirst hfirst, ihRest hrest⟩
  | seqFailed _ ih | alt _ ih =>
      obtain ⟨hfirst, -⟩ := List.forall_mem_append.1 hheads
      exact ih hfirst
  | starNext _ _ _ ih ihNext => exact List.forall_mem_append.2 ⟨ih hheads, ihNext hheads⟩
  | starDone _ ih | opt _ ih | optAbsent _ ih => exact ih hheads
  | ref hfind _ ih => exact ih (Form.mem_pool_of_named hfind)

/-! ## Labels -/

/-- What a lexeme of a kind is called. -/
def LexemeKind.label : LexemeKind → String
  | identifier | dashedIdentifier => "identifier"
  | literal => "literal"
  | integer => "integer"
  | hexadecimal => "hex integer"
  | decimal => "double"

/-- The classes of words, and what a word of a class is called. -/
def wordClasses : List (String × List String) :=
  [("base type", Production.baseTypeNames), ("requiredness", ["required", "optional"]),
    ("namespace scope", Production.namespaceScopes)]

/-- The texts that a label stands for: the word or the mark that it quotes, or any of those that
it names. -/
inductive IsTokenOf : String → List Char → Prop
  | word {x : List Char} (h : isPlainWord x = true) :
      IsTokenOf (Text.quote (String.ofList x)) x
  | mark {c : Char} (h : isMarkChar c = true) : IsTokenOf (Text.quote (String.ofList [c])) [c]
  | identifier {x : List Char} (h : IsName x) : IsTokenOf "identifier" x
  | literal {x content : List Char} (h : IsQuoted x content) : IsTokenOf "literal" x
  | integer {x : List Char} {value : Int} (h : IsInteger x value) : IsTokenOf "integer" x
  | hexadecimal {x : List Char} {value : Int} (h : IsHexadecimal x value) :
      IsTokenOf "hex integer" x
  | decimal {x : List Char} (h : IsDecimal x) : IsTokenOf "double" x
  | oneOf {label text : String} {words : List String} (hwords : (label, words) ∈ wordClasses)
      (h : text ∈ words) : IsTokenOf label text.toList
  | separator {c : Char} (h : c = ',' ∨ c = ';') : IsTokenOf "',' or ';'" [c]

theorem LexemeKind.isTokenOf_sample (kind : LexemeKind) : IsTokenOf kind.label kind.sample := by
  have hzero : IsRun Char.isDigit ['0'] := ⟨by simp, by decide⟩
  have hhexZero : IsRun Pattern.isHexDigit ['0'] := ⟨by simp, by decide⟩
  have hfive : IsRun Char.isDigit ['5'] := ⟨by simp, by decide⟩
  cases kind with
  | identifier | dashedIdentifier => exact .identifier (by decide)
  | literal => exact .literal (.intro (.inl rfl) List.not_mem_nil)
  | integer => exact .integer (.intro .absent hzero)
  | hexadecimal => exact .hexadecimal (.intro .absent (.inl rfl) hhexZero)
  | decimal =>
      exact .decimal (.fraction .absent (fun c hc => absurd hc List.not_mem_nil) hfive (.inl rfl))

namespace Terminal

/-- Whether a token is called by its kind. -/
def isLabelled : Terminal → Bool
  | word _ | mark _ => true
  | lexeme label kind => label == kind.label
  | oneOf label words => (label, words) ∈ wordClasses
  | separator label => label == "',' or ';'"

/-- The sample of a token is one of the texts that its label stands for. -/
theorem isTokenOf_sample {t : Terminal} (hfits : t.fits = true) (h : t.isLabelled = true) :
    IsTokenOf t.label t.sample := by
  cases t with
  | word text =>
      have hword : IsTokenOf (Text.quote (String.ofList text.toList)) text.toList := .word hfits
      rwa [String.ofList_toList] at hword
  | mark text =>
      simp only [fits, Bool.and_eq_true, beq_iff_eq, ← String.length_toList] at hfits
      obtain ⟨c, hc⟩ := List.length_eq_one_iff.1 hfits.1
      have hchar : isMarkChar c = true := by simpa [hc] using hfits.2
      have hmark : IsTokenOf (Text.quote (String.ofList [c])) [c] := .mark hchar
      rw [← hc, String.ofList_toList] at hmark
      exact hmark
  | lexeme label kind =>
      obtain rfl : label = kind.label := beq_iff_eq.1 h
      exact kind.isTokenOf_sample
  | oneOf label words =>
      have hwords : (label, words) ∈ wordClasses := of_decide_eq_true h
      have hhead : words.headD "" ∈ words := by
        simp only [wordClasses, List.mem_cons, Prod.mk.injEq, List.not_mem_nil, or_false] at hwords
        rcases hwords with ⟨-, rfl⟩ | ⟨-, rfl⟩ | ⟨-, rfl⟩ <;> exact List.mem_cons_self ..
      exact .oneOf hwords hhead
  | separator label =>
      obtain rfl : label = "',' or ';'" := beq_iff_eq.1 h
      exact .separator (.inr rfl)

theorem quote_ne (text : String) : Text.quote text ≠ "end of input" := by
  intro heq
  have hlist := congrArg String.toList heq
  rw [Text.quote, String.toList_ofList, Text.quoteChars, List.cons_append] at hlist
  have hhead : Text.quoteMark text.toList = 'e' := (List.cons.inj hlist).1
  rw [Text.quoteMark] at hhead
  split at hhead <;> exact absurd hhead (by decide)

/-- The end of the text is no token. -/
theorem label_ne {t : Terminal} (h : t.isLabelled = true) : t.label ≠ "end of input" := by
  cases t with
  | word text | mark text => exact quote_ne text
  | lexeme label kind =>
      obtain rfl : label = kind.label := beq_iff_eq.1 h
      cases kind <;> decide
  | oneOf label words =>
      have hwords : (label, words) ∈ wordClasses := of_decide_eq_true h
      have hlabels : ∀ c ∈ wordClasses, c.1 ≠ "end of input" := by decide
      exact hlabels _ hwords
  | separator label =>
      obtain rfl : label = "',' or ';'" := beq_iff_eq.1 h
      decide

end Terminal

/-! ## What heads do with the tokens -/

/-- Texts of the tokens that heads start with, each once. -/
def samples (heads : List Head) : List (List Char) :=
  (heads.flatMap fun head => head.terminals.map Terminal.sample).eraseDups

namespace Head

/-- Whether the tokens that a head starts with can be spelled and are called by their kinds, and
the head takes each of them. -/
def isSound (head : Head) : Bool :=
  head.fits && head.terminals.all fun t => t.isSampled && t.isLabelled && head.takes t.sample

theorem isSound_of_mem {head : Head} (h : head ∈ Form.pool) : head.isSound = true := by
  have hall : (Form.pool.all isSound) = true := by decide +kernel
  exact List.all_eq_true.1 hall head h

theorem fits_of_mem {head : Head} (h : head ∈ Form.pool) : head.fits = true := by
  have hsound := isSound_of_mem h
  rw [isSound, Bool.and_eq_true] at hsound
  exact hsound.1

theorem isSampled_of_mem {head : Head} (h : head ∈ Form.pool) {t : Terminal}
    (ht : t ∈ head.terminals) :
    t.isSampled = true ∧ t.isLabelled = true ∧ head.takes t.sample = true := by
  have hsound := isSound_of_mem h
  rw [isSound, Bool.and_eq_true, List.all_eq_true] at hsound
  simpa [and_assoc] using hsound.2 t ht

/-- Every head takes or refuses what a head starts with. -/
theorem takes_or_refuses {head other : Head} (hhead : head ∈ Form.pool)
    (hother : other ∈ Form.pool) {t : Terminal} (ht : t ∈ other.terminals) :
    head.takes t.sample = true ∨ head.Refuses t.sample := by
  -- the kernel goes through all pairs of a head and a text
  have hall : (Form.pool.all fun head => (samples Form.pool).all fun x =>
      head.takes x || head.rejects x) = true := by decide +kernel
  have hmem : t.sample ∈ samples Form.pool :=
    List.mem_eraseDups.2 (List.mem_flatMap.2 ⟨other, hother, List.mem_map_of_mem ht⟩)
  have hboth := List.all_eq_true.1 (List.all_eq_true.1 hall head hhead) _ hmem
  rw [Bool.or_eq_true] at hboth
  have hsample := Terminal.isSample (isSampled_of_mem hother ht).1
  exact hboth.imp_right (refuses_of_rejects (fits_of_mem hhead) hsample)

end Head

end ThriftSchema
