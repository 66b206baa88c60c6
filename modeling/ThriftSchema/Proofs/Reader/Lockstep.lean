import ThriftSchema.Proofs.Expectation.Depth
import ThriftSchema.Proofs.Expectation.Matcher

set_option autoImplicit false

/-! # Readers in lockstep

Two texts that are not the same may be read in the same way. Let two texts be related in such a
way that every token is read off both of them or off neither, as the same lexeme, and leaves texts
that are related again. Then every reader does the same on both: it fails, breaks off for the same
reason, or reads the same value. The relation may count the brackets that are open, so that a
bracket which closes is looked for only where one is open.

* `Attempt.Alike`: two attempts that end in the same way.
* `Alongside`: a reader that does the same on related texts.
* `Lockstep`: tokens are read alongside, but for those that a header or a definition may begin
  with.
* `Alongside.field`, `Alongside.definition`, `Alongside.header` and the others: so are the parts of
  a document, where the other tokens are read alongside as well.
* `Alongside.document`: and so is the document.
-/

namespace ThriftSchema

open Reader (skipLayout)

/-! ## Attempts that end in the same way -/

/-- What is left of two texts: no more than there was, and less of both or of neither. -/
structure Passed (x y x' y' : List Char) : Prop where
  left : x'.length ≤ x.length
  right : y'.length ≤ y.length
  both : x'.length = x.length ↔ y'.length = y.length

theorem Passed.refl (x y : List Char) : Passed x y x y :=
  ⟨Nat.le_refl _, Nat.le_refl _, iff_of_true rfl rfl⟩

theorem Passed.trans {x y x' y' x'' y'' : List Char} (h : Passed x y x' y')
    (h' : Passed x' y' x'' y'') : Passed x y x'' y'' := by
  obtain ⟨hleft, hright, hboth⟩ := h
  obtain ⟨hleft', hright', hboth'⟩ := h'
  exact ⟨by omega, by omega, by omega⟩

/-- Two attempts, on `x` and on `y`, that both fail, break off for one reason, or read one value
and leave related texts. -/
inductive Attempt.Alike {α : Type} (R : List Char → List Char → Prop) (x y : List Char) :
    Attempt BuildError α → Attempt BuildError α → Prop
  | failed : Alike R x y .failed .failed
  | stopped (stop : Stop BuildError) : Alike R x y (.stopped stop) (.stopped stop)
  | read {a : α} {x' y' : List Char} (h : R x' y') (hpassed : Passed x y x' y') :
      Alike R x y (.read a x') (.read a y')

namespace Attempt.Alike

variable {α β : Type} {R S : List Char → List Char → Prop} {x y : List Char}
  {r r' : Attempt BuildError α}

theorem andThen {f g : α → Reader BuildError β} (h : Alike R x y r r')
    (hnext : ∀ a x' y', R x' y' → Passed x y x' y' → Alike S x' y' (f a x') (g a y')) :
    Alike S x y (r.andThen f) (r'.andThen g) := by
  cases h with
  | failed => exact .failed
  | stopped why => exact .stopped why
  | @read a x' y' hrest hpassed =>
      have hmore := hnext a x' y' hrest hpassed
      show Alike S x y (f a x') (g a y')
      generalize f a x' = q at hmore ⊢
      generalize g a y' = q' at hmore ⊢
      cases hmore with
      | failed => exact .failed
      | stopped why => exact .stopped why
      | read hlast hmoved => exact .read hlast (hpassed.trans hmoved)

theorem orElse {q q' : Attempt BuildError α} (h : Alike R x y r r') (hother : Alike R x y q q') :
    Alike R x y (r.orElse q) (r'.orElse q') := by
  cases h with
  | failed => exact hother
  | stopped why => exact .stopped why
  | read hrest hpassed => exact .read hrest hpassed

end Attempt.Alike

variable {α β : Type} {P Q S : List Char → List Char → Prop}

/-- The reader does the same on texts that `P` relates, and leaves texts that `Q` relates. -/
def Alongside (P : List Char → List Char → Prop) (p : PartReader α)
    (Q : List Char → List Char → Prop) : Prop :=
  ∀ ⦃x y⦄, P x y → Attempt.Alike Q x y (p x) (p y)

namespace Alongside

variable {p q : PartReader α} {f : α → PartReader β}

/-! ## Putting readers together -/

theorem of_imp (hp : Alongside P p Q) (h : ∀ ⦃x y⦄, S x y → P x y) : Alongside S p Q :=
  fun _ _ hxy => hp (h hxy)

theorem pure (a : α) : Alongside P (Pure.pure a) P := fun _ _ h => .read h (.refl _ _)

theorem fail : Alongside P (Reader.fail : PartReader α) Q := fun _ _ _ => .failed

theorem stop (why : Stop BuildError) : Alongside P (Reader.stop why : PartReader α) Q :=
  fun _ _ _ => .stopped why

theorem bind (hp : Alongside P p Q) (hf : ∀ a, Alongside Q (f a) S) : Alongside P (p >>= f) S := by
  intro x y h
  rw [Reader.bind_apply, Reader.bind_apply]
  exact (hp h).andThen fun _ _ _ hrest _ => hf _ hrest

theorem map (hp : Alongside P p Q) (g : α → β) :
    Alongside P (p >>= fun a => Pure.pure (g a)) Q := hp.bind fun _ => pure _

theorem orElse (hp : Alongside P p Q) (hq : Alongside P q Q) : Alongside P (p <|> q) Q := by
  intro x y h
  rw [Reader.orElse_apply, Reader.orElse_apply]
  exact (hp h).orElse (hq h)

theorem optional (hp : Alongside P p P) : Alongside P (Reader.optional p) P := by
  intro x y h
  rw [Reader.optional, Reader.optional]
  refine ((hp h).andThen fun a x' y' hrest _ => ?_).orElse (.read h (.refl _ _))
  exact .read hrest (.refl _ _)

/-- The rounds on both texts, whatever bounds them, if that is enough. -/
theorem manyWithin (hp : Alongside P p P) {x y : List Char} (h : P x y)
    {bound bound' : List Char} (hbound : x.length < bound.length)
    (hbound' : y.length < bound'.length) :
    Attempt.Alike P x y (Reader.manyWithin p bound x) (Reader.manyWithin p bound' y) := by
  induction bound generalizing x y bound' with
  | nil => cases hbound
  | cons c bound ih =>
      obtain ⟨c', bound', rfl⟩ := List.exists_cons_of_length_pos (Nat.zero_lt_of_lt hbound')
      rw [List.length_cons] at hbound hbound'
      rw [Reader.manyWithin, Reader.manyWithin]
      refine ((hp h).andThen fun a x' y' hrest hpassed => ?_).orElse (.read h (.refl _ _))
      by_cases hstall : x'.length = x.length
      · rw [if_pos hstall, if_pos (hpassed.both.1 hstall)]
        exact .read hrest (.refl _ _)
      · -- what is left is shorter, and so is what bounds the rounds
        have hleft := hpassed.left
        have hright := hpassed.right
        have hother : y'.length ≠ y.length := mt hpassed.both.2 hstall
        rw [if_neg hstall, if_neg hother]
        exact (ih hrest (by omega) (by omega)).andThen fun _ _ _ hlast _ => .read hlast (.refl _ _)

theorem many (hp : Alongside P p P) : Alongside P (Reader.many p) P := fun x y h =>
  hp.manyWithin h (by simp only [List.length_cons]; omega) (by simp only [List.length_cons]; omega)

end Alongside

/-! ## Tokens -/

/-- Reads a token and the layout behind it. -/
def Reader.terminal (t : Terminal) : PartReader (List Char) := fun input =>
  match t.measure input with
  | none => .failed
  | some count => .read (input.take count) (skipLayout (input.drop count))

namespace Reader

theorem spaced_measured {α : Type} (p : PartReader α) (t : Terminal) (f : List Char → α)
    (h : ∀ input, p input = match t.measure input with
      | none => .failed
      | some count => .read (f (input.take count)) (input.drop count)) :
    spaced p = terminal t >>= fun lexeme => pure (f lexeme) := by
  funext input
  rw [spaced, bind_apply, bind_apply, h, terminal]
  cases t.measure input <;> rfl

theorem word_eq (text : String) : word text = terminal (.word text) >>= fun _ => pure () :=
  spaced_measured _ _ _ fun input => by
    rw [keyword, Terminal.measure, Terminal.wordMeasure]
    split <;> rfl

theorem symbol_eq (text : String) : symbol text = terminal (.mark text) >>= fun _ => pure () :=
  spaced_measured _ _ _ fun input => by
    rw [characters, Terminal.measure]
    split <;> rfl

theorem lexeme_eq (label : String) (kind : LexemeKind) :
    lexeme kind.pattern = terminal (.lexeme label kind) :=
  (spaced_measured _ (.lexeme label kind) id fun _ => rfl).trans (bind_pure _)

theorem lexeme_separator_eq (label : String) :
    lexeme Pattern.separator = terminal (.separator label) :=
  (spaced_measured _ (.separator label) id fun _ => rfl).trans (bind_pure _)

theorem oneOf_eq (label : String) (words : List String) :
    oneOf words = terminal (.oneOf label words) >>= fun lexeme => pure (String.ofList lexeme) := by
  refine spaced_measured _ _ _ fun input => ?_
  rw [Terminal.measure]
  induction words with
  | nil => rfl
  | cons text words ih =>
      rw [firstKeyword, orElse_apply, bind_apply, keyword, List.findSome?_cons,
        Terminal.wordMeasure]
      split
      · next hword =>
        obtain ⟨rest, rfl, -⟩ := startsWithWord_iff.1 hword
        simp [Attempt.andThen, Attempt.orElse, ← String.length_toList]
      · exact ih

end Reader

/-- The token is read off both texts or off neither, as one lexeme, and leaves texts that `Q`
relates. -/
def TokenStep (P : List Char → List Char → Prop) (t : Terminal)
    (Q : List Char → List Char → Prop) : Prop :=
  ∀ ⦃x y⦄, P x y → t.measure x = t.measure y ∧ ∀ count, t.measure x = some count →
    x.take count = y.take count ∧ Q (skipLayout (x.drop count)) (skipLayout (y.drop count))

theorem Terminal.length_skipLayout_drop_lt {t : Terminal} (ht : t.fits = true) {x : List Char}
    {count : Nat} (h : t.measure x = some count) :
    (skipLayout (x.drop count)).length < x.length :=
  length_lt_of_read ht (by rw [read, h, Option.map_some])

namespace TokenStep

theorem terminal {t : Terminal} (h : TokenStep P t Q) (ht : t.fits = true) :
    Alongside P (Reader.terminal t) Q := by
  intro x y hxy
  obtain ⟨hsame, hread⟩ := h hxy
  rw [Reader.terminal, Reader.terminal, ← hsame]
  cases hmeasure : t.measure x with
  | none => exact .failed
  | some count =>
      obtain ⟨hlexeme, hrest⟩ := hread count hmeasure
      have hleft := Terminal.length_skipLayout_drop_lt ht hmeasure
      have hright := Terminal.length_skipLayout_drop_lt ht (hsame ▸ hmeasure)
      simp only [hlexeme]
      exact .read hrest ⟨by omega, by omega, by omega⟩

theorem word {text : String} (h : TokenStep P (.word text) Q)
    (htext : isPlainWord text.toList = true) : Alongside P (Reader.word text) Q := by
  rw [Reader.word_eq]
  exact (h.terminal htext).map _

theorem symbol {text : String} (h : TokenStep P (.mark text) Q)
    (htext : (Terminal.mark text).fits = true) : Alongside P (Reader.symbol text) Q := by
  rw [Reader.symbol_eq]
  exact (h.terminal htext).map _

theorem lexeme {kind : LexemeKind} (h : TokenStep P (.lexeme "" kind) Q) :
    Alongside P (Reader.lexeme kind.pattern) Q := by
  rw [Reader.lexeme_eq ""]
  exact h.terminal rfl

theorem identifier (h : TokenStep P (.lexeme "" .identifier) Q) :
    Alongside P Reader.identifier Q := h.lexeme.map _

theorem dashedIdentifier (h : TokenStep P (.lexeme "" .dashedIdentifier) Q) :
    Alongside P Reader.dashedIdentifier Q := h.lexeme.map _

end TokenStep

/-! ## Open brackets -/

/-- Relations of texts, by the number of brackets that are open. -/
abbrev Levels := Nat → List Char → List Char → Prop

variable {R : Levels} {n : Nat}

/-- The token is read alongside, however many brackets are open; one that closes is only looked for
where one is open. -/
def Steps (R : Levels) (t : Terminal) : Prop :=
  ∀ n, (t.closes = true → 0 < n) → TokenStep (R n) t (R (t.level n))

/-- The words that headers begin with. -/
def headerWords : List String :=
  ["include", "cpp_include", "namespace", "php_namespace", "xsd_namespace"]

/-- The words that definitions begin with. -/
def definitionWords : List String :=
  ["const", "typedef", "enum", "senum", "struct", "union", "exception", "service"]

/-- The characters in front that a name can be spelled with. -/
def wordAhead (cs : List Char) : List Char := cs.takeWhile Pattern.isNameChar

/-- Whether a text begins with one of the words that headers and definitions begin with. -/
def isLead (cs : List Char) : Bool :=
  (headerWords ++ definitionWords).any fun text => text.toList == wordAhead cs

/-- Whether a token may be read where a header or a definition begins: a name, or one of the words
that they begin with. -/
def Terminal.leads : Terminal → Bool
  | word text => isLead text.toList
  | lexeme _ kind => kind == .identifier || kind == .dashedIdentifier
  | oneOf _ words => words.any fun text => isLead text.toList
  | mark _ | separator _ => false

/-- All tokens are read alongside but those that a header or a definition may begin with. -/
def Lockstep (R : Levels) : Prop := ∀ ⦃t⦄, t.fits = true → t.leads = false → Steps R t

/-- The tokens that a header or a definition may begin with are read alongside. -/
def LeadStep (R : Levels) : Prop := ∀ ⦃t⦄, t.fits = true → t.leads = true → Steps R t

namespace Alongside

section Inner

variable (hR : Lockstep R)

include hR

theorem word {text : String}
    (h : isPlainWord text.toList = true ∧ isLead text.toList = false) :
    Alongside (R n) (Reader.word text) (R n) := (hR (t := .word text) h.1 h.2 n nofun).word h.1

theorem oneOf {words : List String} (h : (words.all fun text => isPlainWord text.toList) = true ∧
    (words.any fun text => isLead text.toList) = false) :
    Alongside (R n) (Reader.oneOf words) (R n) := by
  rw [Reader.oneOf_eq ""]
  exact ((hR (t := .oneOf "" words) h.1 h.2 n nofun).terminal h.1).map _

/-- A mark that leaves `m` brackets open. -/
theorem mark {text : String} {m : Nat} (h : (Terminal.mark text).fits = true ∧
    ((Terminal.mark text).closes = true → 0 < n) ∧ (Terminal.mark text).level n = m) :
    Alongside (R n) (Reader.symbol text) (R m) := by
  obtain ⟨hfits, hcloses, rfl⟩ := h
  exact (hR hfits rfl n hcloses).symbol hfits

theorem symbol {text : String} (h : (Terminal.mark text).fits = true ∧
    (Terminal.mark text).opens = false ∧ (Terminal.mark text).closes = false) :
    Alongside (R n) (Reader.symbol text) (R n) :=
  mark hR ⟨h.1, by simp [h.2.2], by simp [Terminal.level, h.2.1, h.2.2]⟩

theorem opening {text : String} (h : (Terminal.mark text).fits = true ∧
    (Terminal.mark text).opens = true ∧ (Terminal.mark text).closes = false) :
    Alongside (R n) (Reader.symbol text) (R (n + 1)) :=
  mark hR ⟨h.1, by simp [h.2.2], by simp [Terminal.level, h.2.1]⟩

theorem closing {text : String} (h : (Terminal.mark text).fits = true ∧
    (Terminal.mark text).opens = false ∧ (Terminal.mark text).closes = true) :
    Alongside (R (n + 1)) (Reader.symbol text) (R n) :=
  mark hR ⟨h.1, fun _ => Nat.succ_pos n, by simp [Terminal.level, h.2.1, h.2.2]⟩

theorem flag {text : String} (h : isPlainWord text.toList = true ∧ isLead text.toList = false) :
    Alongside (R n) (Reader.flag text) (R n) := (word hR h).optional.map _

theorem literal : Alongside (R n) Reader.literal (R n) :=
  (hR (t := .lexeme "" .literal) rfl rfl n nofun).lexeme.map _

theorem integer : Alongside (R n) Reader.integer (R n) := by
  refine (hR (t := .lexeme "" .integer) rfl rfl n nofun).lexeme.bind fun cs => ?_
  unfold Reader.decimalValue
  split
  · exact pure _
  · exact stop _
  · exact fail

theorem hexadecimal : Alongside (R n) Reader.hexadecimal (R n) := by
  refine (hR (t := .lexeme "" .hexadecimal) rfl rfl n nofun).lexeme.bind fun cs => ?_
  unfold Reader.hexadecimalValue
  split
  · exact pure _
  · exact fail

theorem double : Alongside (R n) Reader.double (R n) := by
  refine (hR (t := .lexeme "" .decimal) rfl rfl n nofun).lexeme.bind fun cs => ?_
  unfold Reader.doubleValue
  split
  · exact pure _
  · exact fail

theorem separator : Alongside (R n) Reader.separator (R n) := by
  have hmark : Alongside (R n) (Reader.lexeme Pattern.separator) (R n) := by
    rw [Reader.lexeme_separator_eq ""]
    exact (hR (t := .separator "") rfl rfl n nofun).terminal rfl
  exact hmark.optional.map _

/-! ## Types -/

theorem hint : Alongside (R n) Reader.hint (R n) :=
  optional ((word hR (by decide)).bind fun _ => literal hR)

section Types

variable {type : PartReader FieldType} (h : Alongside (R (n + 1)) type (R (n + 1)))

include h

theorem containerType : Alongside (R n) (Reader.containerType type) (R n) := by
  have hopen : Alongside (R n) (Reader.symbol "<") (R (n + 1)) := opening hR (by decide)
  have hclose : Alongside (R (n + 1)) (Reader.symbol ">") (R n) := closing hR (by decide)
  have hmap : Alongside (R n) (Reader.mapType type) (R n) :=
    (word hR (by decide)).bind fun _ => (hint hR).bind fun _ => hopen.bind fun _ => h.bind fun _ =>
      (symbol hR (by decide)).bind fun _ => h.bind fun _ => hclose.map _
  have hset : Alongside (R n) (Reader.setType type) (R n) :=
    (word hR (by decide)).bind fun _ => (hint hR).bind fun _ => hopen.bind fun _ => h.bind fun _ =>
      hclose.map _
  have hlist : Alongside (R n) (Reader.listType type) (R n) :=
    (word hR (by decide)).bind fun _ => hopen.bind fun _ => h.bind fun _ => hclose.bind fun _ =>
      (hint hR).map _
  exact hmap.orElse (hset.orElse (hlist.orElse fail))

omit h in
theorem baseType : Alongside (R n) Reader.baseType (R n) := (oneOf hR (by decide)).map _

theorem definitionType : Alongside (R n) (Reader.definitionType type) (R n) :=
  (baseType hR).orElse ((containerType hR h).orElse fail)

end Types

/-- A type, by what is known of names where it begins. -/
theorem fieldType_succ {depth : Nat} (hP : ∀ ⦃x y⦄, P x y → R n x y)
    (hname : Alongside P Reader.identifier (R n))
    (h : Alongside (R (n + 1)) (Reader.fieldType depth) (R (n + 1))) :
    Alongside P (Reader.fieldType (depth + 1)) (R n) :=
  ((containerType hR h).of_imp hP).orElse <| ((baseType hR).of_imp hP).orElse <|
    (hname.map _).orElse fail

/-! ## Constants -/

section Constants

variable {value : PartReader ConstValue} (h : Alongside (R (n + 1)) value (R (n + 1)))

include h

theorem constantList : Alongside (R n) (Reader.constantList value) (R n) :=
  (opening hR (by decide)).bind fun _ => (h.bind fun _ => (separator hR).map _).many.bind fun _ =>
    (closing hR (by decide)).map _

theorem constantMap : Alongside (R n) (Reader.constantMap value) (R n) := by
  have hentry : Alongside (R (n + 1)) (Reader.mapEntry value) (R (n + 1)) :=
    h.bind fun _ => (symbol hR (by decide)).bind fun _ => h.bind fun _ => (separator hR).map _
  exact (opening hR (by decide)).bind fun _ => hentry.many.bind fun _ =>
    (closing hR (by decide)).map _

end Constants

/-- A constant, by what is known of names where it begins. -/
theorem constant_succ {depth : Nat} (hP : ∀ ⦃x y⦄, P x y → R n x y)
    (hname : Alongside P Reader.identifier (R n))
    (h : Alongside (R (n + 1)) (Reader.constant depth) (R (n + 1))) :
    Alongside P (Reader.constant (depth + 1)) (R n) :=
  (((hexadecimal hR).map _).of_imp hP).orElse <| (((double hR).map _).of_imp hP).orElse <|
    (((integer hR).map _).of_imp hP).orElse <| (((literal hR).map _).of_imp hP).orElse <|
    (hname.map _).orElse <| ((constantList hR h).of_imp hP).orElse <|
    ((constantMap hR h).of_imp hP).orElse fail

/-! ## Parts of fields and definitions -/

theorem requiredness : Alongside (R n) Reader.requiredness (R n) := by
  refine (oneOf hR (by decide)).bind fun text => ?_
  unfold Reader.requirednessOf
  split
  · exact pure _
  · exact pure _
  · exact fail

theorem fieldId : Alongside (R n) Reader.fieldId (R n) :=
  (integer hR).bind fun _ => (symbol hR (by decide)).map _

theorem assigned {value : PartReader α} (h : Alongside (R n) value (R n)) :
    Alongside (R n) (Reader.assigned value) (R n) := (symbol hR (by decide)).bind fun _ => h

theorem braceOpening (n : Nat) : Alongside (R n) (Reader.symbol "\x7b") (R (n + 1)) :=
  opening hR (by decide)

theorem braceClosing (n : Nat) : Alongside (R (n + 1)) (Reader.symbol "\x7d") (R n) :=
  closing hR (by decide)

theorem parenOpening (n : Nat) : Alongside (R n) (Reader.symbol "(") (R (n + 1)) :=
  opening hR (by decide)

theorem parenClosing (n : Nat) : Alongside (R (n + 1)) (Reader.symbol ")") (R n) :=
  closing hR (by decide)

theorem block {text opener closer : String}
    (htext : isPlainWord text.toList = true ∧ isLead text.toList = false)
    (hopening : ∀ n, Alongside (R n) (Reader.symbol opener) (R (n + 1)))
    (hclosing : ∀ n, Alongside (R (n + 1)) (Reader.symbol closer) (R n)) {field : PartReader Field}
    (h : Alongside (R (n + 1)) field (R (n + 1))) :
    Alongside (R n) (Reader.block text opener closer field) (R n) :=
  (word hR htext).bind fun _ => (hopening n).bind fun _ => h.many.bind fun _ => (hclosing n).map _

theorem literalItem : Alongside (R n) Reader.literalItem (R n) :=
  (literal hR).bind fun _ => (separator hR).map _

/-- The parts of a definition between its brackets. -/
theorem body {items : PartReader α} {make : List α → Definition}
    (h : Alongside (R (n + 1)) items (R (n + 1))) :
    Alongside (R n) (do
      Reader.symbol "\x7b"
      let parts ← Reader.many items
      Reader.symbol "\x7d"
      return make parts) (R n) :=
  (braceOpening hR n).bind fun _ => h.many.bind fun _ => (braceClosing hR n).map _

end Inner

/-! ## Parts with names -/

section Names

variable (hlead : LeadStep R)

include hlead

theorem leadWord {text : String} (h : isPlainWord text.toList = true ∧ isLead text.toList = true) :
    Alongside (R n) (Reader.word text) (R n) :=
  (hlead (t := .word text) h.1 h.2 n nofun).word h.1

theorem identifier : Alongside (R n) Reader.identifier (R n) :=
  TokenStep.identifier (hlead rfl rfl n nofun)

theorem dashedIdentifier : Alongside (R n) Reader.dashedIdentifier (R n) :=
  TokenStep.dashedIdentifier (hlead rfl rfl n nofun)

variable (hR : Lockstep R)

include hR

theorem fieldType (depth : Nat) : Alongside (R n) (Reader.fieldType depth) (R n) := by
  induction depth generalizing n with
  | zero => exact stop _
  | succ depth ih => exact fieldType_succ hR (fun _ _ h => h) (identifier hlead) ih

theorem returnType (depth : Nat) :
    Alongside (R n) (Reader.returnType (Reader.fieldType depth)) (R n) :=
  ((word hR (by decide)).map _).orElse (((fieldType hlead hR depth).map _).orElse fail)

theorem constant (depth : Nat) : Alongside (R n) (Reader.constant depth) (R n) := by
  induction depth generalizing n with
  | zero => exact stop _
  | succ depth ih => exact constant_succ hR (fun _ _ h => h) (identifier hlead) ih

theorem field (options : BuildOptions) (depth : Nat) :
    Alongside (R n) (Reader.field options depth) (R n) := by
  induction depth generalizing n with
  | zero => exact stop _
  | succ depth ih =>
      have hattributes : Alongside (R n) (Reader.attributes (Reader.field options depth)) (R n) :=
        block hR (by decide) (braceOpening hR) (braceClosing hR) ih
      exact (fieldId hR).optional.bind fun _ => (requiredness hR).optional.bind fun _ =>
        (fieldType hlead hR depth).bind fun _ => (identifier hlead).bind fun _ =>
        (assigned hR (constant hlead hR depth)).optional.bind fun _ =>
        (flag hR (by decide)).bind fun _ => (flag hR (by decide)).bind fun _ =>
        hattributes.optional.bind fun _ => (separator hR).map _

theorem function (options : BuildOptions) (depth : Nat) :
    Alongside (R n) (Reader.function (Reader.fieldType depth) (Reader.field options depth))
      (R n) := by
  have hfield : Alongside (R (n + 1)) (Reader.field options depth) (R (n + 1)) :=
    field hlead hR options depth
  have hthrows : Alongside (R n) (Reader.throws (Reader.field options depth)) (R n) :=
    block hR (by decide) (parenOpening hR) (parenClosing hR) hfield
  exact (flag hR (by decide)).bind fun _ => (returnType hlead hR depth).bind fun _ =>
    (identifier hlead).bind fun _ => (parenOpening hR n).bind fun _ => hfield.many.bind fun _ =>
    (parenClosing hR n).bind fun _ => hthrows.optional.bind fun _ => (separator hR).map _

theorem enumValue : Alongside (R n) Reader.enumValue (R n) :=
  (identifier hlead).bind fun _ =>
    (assigned hR ((hexadecimal hR).orElse ((integer hR).orElse fail))).optional.bind
      fun _ => (separator hR).map _

/-! ## Definitions and headers -/

theorem definition (options : BuildOptions) (depth : Nat) :
    Alongside (R n) (Reader.definition options depth) (R n) := by
  have hfield : Alongside (R (n + 1)) (Reader.field options depth) (R (n + 1)) :=
    field hlead hR options depth
  have hconst : Alongside (R n) (Reader.const depth) (R n) :=
    (leadWord hlead (by decide)).bind fun _ => (fieldType hlead hR depth).bind fun _ =>
      (identifier hlead).bind fun _ => (symbol hR (by decide)).bind fun _ =>
      (constant hlead hR depth).bind fun _ => (separator hR).map _
  have htypedef : Alongside (R n) (Reader.typedef depth) (R n) :=
    (leadWord hlead (by decide)).bind fun _ =>
      (definitionType hR (fieldType hlead hR depth)).bind fun _ =>
      (identifier hlead).bind fun _ => (separator hR).map _
  have henum : Alongside (R n) (Reader.enum options) (R n) :=
    (leadWord hlead (by decide)).bind fun _ => (identifier hlead).bind fun _ =>
      body hR (enumValue hlead hR)
  have hsenum : Alongside (R n) Reader.senum (R n) :=
    (leadWord hlead (by decide)).bind fun _ => (identifier hlead).bind fun _ =>
      body hR (literalItem hR)
  have hflagged : ∀ {text : String} {make : String → List Field → Bool → Definition},
      isPlainWord text.toList = true ∧ isLead text.toList = true →
      Alongside (R n) (Reader.flaggedFields text make options depth) (R n) := fun htext =>
    (leadWord hlead htext).bind fun _ => (identifier hlead).bind fun _ =>
      (flag hR (by decide)).bind fun _ => body hR hfield
  have hexception : Alongside (R n) (Reader.exception options depth) (R n) :=
    (leadWord hlead (by decide)).bind fun _ => (identifier hlead).bind fun _ => body hR hfield
  have hservice : Alongside (R n) (Reader.service options depth) (R n) :=
    (leadWord hlead (by decide)).bind fun _ => (identifier hlead).bind fun _ =>
      (optional ((word hR (by decide)).bind fun _ => identifier hlead)).bind fun _ =>
      body hR (function hlead hR options depth)
  exact hconst.orElse <| htypedef.orElse <| henum.orElse <| hsenum.orElse <|
    (hflagged (by decide)).orElse <| (hflagged (by decide)).orElse <| hexception.orElse <|
    hservice.orElse fail

theorem literalHeader {text : String}
    (h : isPlainWord text.toList = true ∧ isLead text.toList = true) (make : String → Header) :
    Alongside (R n) (Reader.literalHeader text make) (R n) :=
  (leadWord hlead h).bind fun _ => (literal hR).map _

theorem header : Alongside (R n) Reader.header (R n) := by
  have hcategory : Alongside (R n) Reader.smalltalkCategory (R n) :=
    (word hR (by decide)).bind fun _ => (dashedIdentifier hlead).map _
  have hclass : Alongside (R n) Reader.smalltalkPrefix (R n) :=
    (word hR (by decide)).bind fun _ => (identifier hlead).map _
  have hscoped : Alongside (R n) Reader.scopedName (R n) :=
    (oneOf hR (by decide)).bind fun _ => (identifier hlead).map _
  have htarget : Alongside (R n) Reader.targetNamespace (R n) :=
    (leadWord hlead (by decide)).bind fun _ =>
      hcategory.orElse (hclass.orElse (hscoped.orElse fail))
  exact (literalHeader hlead hR (by decide) _).orElse <|
    (literalHeader hlead hR (by decide) _).orElse <| htarget.orElse <|
    (literalHeader hlead hR (by decide) _).orElse <|
    (literalHeader hlead hR (by decide) _).orElse fail

/-- A document, behind the layout at its start; both texts end together. -/
theorem document (hend : ∀ {x y}, R 0 x y → (x = [] ↔ y = [])) (options : BuildOptions)
    (depth : Nat) {x y : List Char} (h : R 0 (skipLayout x) (skipLayout y)) :
    Attempt.Alike (R 0) (skipLayout x) (skipLayout y) (Reader.document options depth x)
      (Reader.document options depth y) := by
  have hfinish : Alongside (R 0) Reader.finish (R 0) := by
    intro x y hxy
    have hboth := hend hxy
    cases x with
    | nil =>
        obtain rfl := hboth.1 rfl
        exact .read hxy (.refl _ _)
    | cons c x =>
        obtain ⟨d, y, rfl⟩ := List.exists_cons_of_ne_nil (mt hboth.2 (List.cons_ne_nil c x))
        exact .failed
  have hbody : Alongside (R 0) (do
      let headers ← Reader.many Reader.header
      let definitions ← Reader.many (Reader.definition options depth)
      Reader.finish
      return (⟨headers, definitions⟩ : Document)) (R 0) :=
    (header hlead hR).many.bind fun _ => (definition hlead hR options depth).many.bind fun _ =>
      hfinish.map _
  exact hbody h

end Names

end Alongside

end ThriftSchema
