import ThriftSchema.Proofs.Confined.Part
import ThriftSchema.Proofs.Merging.Junction

set_option autoImplicit false

/-! # Headers and definitions in front of another text

A header or a definition that is read off a text is read in the same way when another text is
appended behind a break, be it the last one and without its separator: it ends in a bracket, or what
may still follow does not look like the beginning of a header or a definition. Failures need not be
the same, since a name may be missing at the end of the first text that the other one has; but there
is only one header or definition that begins with a word.

* `Carried`: what is read off the first text is read off the second.
* `Led`: readers that begin with one of some words.
* `Carried.definition`, `Carried.header`: definitions and headers.
-/

namespace ThriftSchema

open Reader (skipLayout)

variable {α β : Type}

/-! ## Readers that begin with a word -/

theorem wordAhead_of_word {text : String} {input rest : List Char}
    (h : Reader.word text input = .read () rest) :
    wordAhead input = wordAhead text.toList ∧ text.toList <+: input := by
  obtain ⟨middle, hkeyword, -⟩ := Reader.spaced_eq_read.1 h
  obtain ⟨rfl, hmiddle⟩ := Reader.keyword_eq_read.1 hkeyword
  exact ⟨wordAhead_append hmiddle, List.prefix_append ..⟩

/-- The reader fails on a text that begins with none of the words. -/
def Led (words : List String) (p : PartReader α) : Prop :=
  ∀ ⦃input⦄, (∀ text ∈ words, Reader.word text input = .failed) → p input = .failed

namespace Led

variable {words others : List String} {p q : PartReader α} {input rest : List Char} {a : α}

theorem word_bind (text : String) (f : Unit → PartReader β) :
    Led [text] (Reader.word text >>= f) :=
  fun _ h => Reader.bind_of_failed (h text (List.mem_singleton_self _))

theorem orElse (hp : Led words p) (hq : Led others q) : Led (words ++ others) (p <|> q) := by
  intro input h
  rw [Reader.orElse_of_failed (hp fun text ht => h text (List.mem_append_left _ ht))]
  exact hq fun text ht => h text (List.mem_append_right _ ht)

theorem fail : Led [] (Reader.fail : PartReader α) := fun _ _ => rfl

theorem oneOf (words : List String) : Led words (Reader.oneOf words) := by
  intro input h
  rw [Reader.oneOf, Reader.spaced_eq_failed]
  induction words with
  | nil => rfl
  | cons text words ih =>
      have hfirst := Reader.spaced_eq_failed.1 (h text (List.mem_cons_self ..))
      rw [Reader.firstKeyword, Reader.orElse_of_failed (Reader.bind_of_failed hfirst)]
      exact ih fun other hother => h other (List.mem_cons_of_mem _ hother)

theorem bind (hp : Led words p) (f : α → PartReader β) : Led words (p >>= f) :=
  fun _ h => Reader.bind_of_failed (hp h)

/-- What is read begins with one of the words. -/
theorem exists_word (h : Led words p) (hread : p input = .read a rest) :
    ∃ text ∈ words, ∃ behind, Reader.word text input = .read () behind := by
  by_contra hnone
  have hfailed : p input = .failed := h fun text htext => by
    refine (Reader.word_cases text input).resolve_right fun hword => hnone ⟨text, htext, hword⟩
  rw [hfailed] at hread
  cases hread

/-- What is read begins with no other word. -/
theorem word_failed (h : Led words p) (hread : p input = .read a rest) {text : String}
    (hnot : ∀ other ∈ words, wordAhead other.toList ≠ wordAhead text.toList) :
    Reader.word text input = .failed := by
  obtain ⟨other, hother, _, hword⟩ := h.exists_word hread
  refine (Reader.word_cases text input).resolve_right ?_
  rintro ⟨_, htext⟩
  exact hnot other hother ((wordAhead_of_word hword).1.symm.trans (wordAhead_of_word htext).1)

theorem ne_nil (h : Led words p) (hwords : ∀ text ∈ words, text.toList ≠ [])
    (hread : p input = .read a rest) : input ≠ [] := by
  obtain ⟨text, htext, _, hword⟩ := h.exists_word hread
  rintro rfl
  exact hwords text htext (List.prefix_nil.1 (wordAhead_of_word hword).2)

end Led

/-! ## What is read in front of another text -/

variable {P Q S : List Char → List Char → Prop}

/-- What is read off a text is read off every related one. -/
def Carried (P : List Char → List Char → Prop) (p : PartReader α)
    (Q : List Char → List Char → Prop) : Prop :=
  ∀ ⦃x y⦄, P x y → ∀ ⦃a x'⦄, p x = .read a x' → ∃ y', p y = .read a y' ∧ Q x' y'

namespace Alongside

variable {p : PartReader α}

theorem carried (h : Alongside P p Q) : Carried P p Q := by
  intro x y hxy a x' hread
  have halike := h hxy
  rw [hread] at halike
  generalize p y = other at halike
  cases halike with
  | read hrest => exact ⟨_, rfl, hrest⟩

theorem failed (h : Alongside P p Q) {x y : List Char} (hxy : P x y) (hfailed : p x = .failed) :
    p y = .failed := by
  have halike := h hxy
  rw [hfailed] at halike
  generalize p y = other at halike
  cases halike
  rfl

end Alongside

namespace Carried

variable {p q : PartReader α} {f : α → PartReader β}

theorem bind (hp : Carried P p Q) (hf : ∀ a, Carried Q (f a) S) : Carried P (p >>= f) S := by
  intro x y hxy b x' hread
  obtain ⟨a, middle, hfirst, hsecond⟩ := Reader.bind_eq_read.1 hread
  obtain ⟨middle', hother, hmiddle⟩ := hp hxy hfirst
  rw [Reader.bind_of_read hother]
  exact hf a hmiddle hsecond

theorem map (hp : Carried P p Q) (g : α → β) : Carried P (p >>= fun a => Pure.pure (g a)) Q :=
  hp.bind fun _ => (Alongside.pure _).carried

section Joined

variable {r : List Char} (hbreak : ∀ c ∈ r.head?, isBreak c = true)

/-- At the end of the first text nothing is read. -/
theorem of_ahead (h : Alongside (JoinedAhead r) p Q) (hnil : ∀ a rest, p [] ≠ .read a rest) :
    Carried (Joined r 0) p Q := by
  intro x y hxy a x' hread
  have hne : x ≠ [] := by
    rintro rfl
    exact hnil a x' hread
  exact h.carried ⟨hxy, hne⟩ hread

theorem of_startsIn {C : Char → Bool} (h : Alongside (JoinedAhead r) p Q) (hstart : StartsIn p C) :
    Carried (Joined r 0) p Q :=
  of_ahead h fun a rest hread => by
    rw [hstart (notAhead_nil C)] at hread
    cases hread

include hbreak

theorem word_ahead {text : String} (h : isPlainWord text.toList = true) :
    Alongside (JoinedAhead r) (Reader.word text) (Joined r 0) :=
  (tokenStep_ahead hbreak (t := .word text) h rfl).word h

theorem identifier_ahead : Alongside (JoinedAhead r) Reader.identifier (Joined r 0) :=
  TokenStep.identifier (tokenStep_ahead hbreak rfl rfl)

theorem word {text : String} (h : isPlainWord text.toList = true) :
    Carried (Joined r 0) (Reader.word text) (Joined r 0) :=
  of_startsIn (word_ahead hbreak h) (.word (ne_nil_of_isPlainWord h))

theorem identifier : Carried (Joined r 0) Reader.identifier (Joined r 0) :=
  of_startsIn (identifier_ahead hbreak) .identifier

theorem dashedIdentifier : Carried (Joined r 0) Reader.dashedIdentifier (Joined r 0) :=
  of_startsIn (TokenStep.dashedIdentifier (tokenStep_ahead hbreak rfl rfl)) .dashedIdentifier

/-! ## Between brackets -/

variable {depth : Nat} {options : BuildOptions}

theorem lockstep_inside : Lockstep fun n => Joined r (n + 1) := fun _ ht _ => steps_inside hbreak ht

theorem leadStep_inside : LeadStep fun n => Joined r (n + 1) := fun _ ht _ => steps_inside hbreak ht

theorem fieldType_inside : Alongside (Joined r 1) (Reader.fieldType depth) (Joined r 1) :=
  Alongside.fieldType (n := 0) (leadStep_inside hbreak) (lockstep_inside hbreak) depth

theorem constant_inside : Alongside (Joined r 1) (Reader.constant depth) (Joined r 1) :=
  Alongside.constant (n := 0) (leadStep_inside hbreak) (lockstep_inside hbreak) depth

theorem field_inside : Alongside (Joined r 1) (Reader.field options depth) (Joined r 1) :=
  Alongside.field (n := 0) (leadStep_inside hbreak) (lockstep_inside hbreak) options depth

theorem function_inside :
    Alongside (Joined r 1) (Reader.function (Reader.fieldType depth) (Reader.field options depth))
      (Joined r 1) :=
  Alongside.function (n := 0) (leadStep_inside hbreak) (lockstep_inside hbreak) options depth

theorem enumValue_inside : Alongside (Joined r 1) Reader.enumValue (Joined r 1) :=
  Alongside.enumValue (n := 0) (leadStep_inside hbreak) (lockstep_inside hbreak)

theorem literalItem_inside : Alongside (Joined r 1) Reader.literalItem (Joined r 1) :=
  Alongside.literalItem (n := 0) (lockstep_inside hbreak)

/-! ## Types and constants -/

variable (hnext : skipLayout r = [] ∨ isLead (skipLayout r) = true)

include hnext

theorem lockstep_joined : Lockstep (Joined r) :=
  fun _ ht hleads => steps_joined hbreak ht hnext hleads

theorem symbol {text : String} (h : (Terminal.mark text).fits = true ∧
    (Terminal.mark text).opens = false ∧ (Terminal.mark text).closes = false) :
    Carried (Joined r 0) (Reader.symbol text) (Joined r 0) :=
  (Alongside.symbol (lockstep_joined hbreak hnext) h).carried

theorem literal : Carried (Joined r 0) Reader.literal (Joined r 0) :=
  (Alongside.literal (lockstep_joined hbreak hnext)).carried

theorem separator : Carried (Joined r 0) Reader.separator (Joined r 0) :=
  (Alongside.separator (lockstep_joined hbreak hnext)).carried

theorem fieldType (depth : Nat) : Carried (Joined r 0) (Reader.fieldType depth) (Joined r 0) := by
  cases depth with
  | zero => exact (Alongside.stop _).carried
  | succ depth =>
      exact of_startsIn (Alongside.fieldType_succ (lockstep_joined hbreak hnext)
        (fun _ _ h => h.1) (identifier_ahead hbreak) (fieldType_inside hbreak)) (.fieldType depth)

theorem constant (depth : Nat) : Carried (Joined r 0) (Reader.constant depth) (Joined r 0) := by
  cases depth with
  | zero => exact (Alongside.stop _).carried
  | succ depth =>
      exact of_startsIn (Alongside.constant_succ (lockstep_joined hbreak hnext)
        (fun _ _ h => h.1) (identifier_ahead hbreak) (constant_inside hbreak)) (.constant depth)

/-! ## Definitions -/

/-- The parts of a definition between its brackets. -/
theorem body {items : PartReader α} {make : List α → Definition}
    (h : Alongside (Joined r 1) items (Joined r 1)) :
    Carried (Joined r 0) (do
      Reader.symbol "\x7b"
      let parts ← Reader.many items
      Reader.symbol "\x7d"
      return make parts) (Joined r 0) :=
  (Alongside.body (lockstep_joined hbreak hnext) h).carried

theorem const : Carried (Joined r 0) (Reader.const depth) (Joined r 0) :=
  (word hbreak (by decide)).bind fun _ => (fieldType hbreak hnext depth).bind fun _ =>
    (identifier hbreak).bind fun _ => (symbol hbreak hnext (by decide)).bind fun _ =>
    (constant hbreak hnext depth).bind fun _ => (separator hbreak hnext).map _

theorem typedef : Carried (Joined r 0) (Reader.typedef depth) (Joined r 0) := by
  have htype : Alongside (Joined r 0) (Reader.definitionType (Reader.fieldType depth))
      (Joined r 0) :=
    Alongside.definitionType (lockstep_joined hbreak hnext) (fieldType_inside hbreak)
  exact (word hbreak (by decide)).bind fun _ => htype.carried.bind fun _ =>
    (identifier hbreak).bind fun _ => (separator hbreak hnext).map _

theorem enum : Carried (Joined r 0) (Reader.enum options) (Joined r 0) :=
  (word hbreak (by decide)).bind fun _ => (identifier hbreak).bind fun _ =>
    body hbreak hnext (enumValue_inside hbreak)

theorem senum : Carried (Joined r 0) Reader.senum (Joined r 0) :=
  (word hbreak (by decide)).bind fun _ => (identifier hbreak).bind fun _ =>
    body hbreak hnext (literalItem_inside hbreak)

theorem flaggedFields {text : String} (h : isPlainWord text.toList = true)
    (make : String → List Field → Bool → Definition) :
    Carried (Joined r 0) (Reader.flaggedFields text make options depth) (Joined r 0) :=
  (word hbreak h).bind fun _ => (identifier hbreak).bind fun _ =>
    (Alongside.flag (lockstep_joined hbreak hnext) (by decide)).carried.bind fun _ =>
    body hbreak hnext (field_inside hbreak)

theorem exception : Carried (Joined r 0) (Reader.exception options depth) (Joined r 0) :=
  (word hbreak (by decide)).bind fun _ => (identifier hbreak).bind fun _ =>
    body hbreak hnext (field_inside hbreak)

theorem service : Carried (Joined r 0) (Reader.service options depth) (Joined r 0) := by
  refine (word hbreak (by decide)).bind fun _ => (identifier hbreak).bind fun name => ?_
  have hparent : Carried (Joined r 0) Reader.parent (Joined r 0) :=
    (word hbreak (by decide)).bind fun _ => identifier hbreak
  intro x y hxy definition x' hread
  obtain ⟨parent, middle, hfirst, hbody⟩ := Reader.bind_eq_read.1 hread
  rcases Reader.optional_eq_read.1 hfirst with ⟨other, rfl, hother⟩ | ⟨rfl, -, rfl⟩
  · obtain ⟨middle', hother', hmiddle⟩ := hparent hxy hother
    rw [Reader.bind_of_read (Reader.optional_of_read hother')]
    exact body hbreak hnext (function_inside hbreak) hmiddle hbody
  · -- the brace is next, so that there is no word in front of it in the other text either
    obtain ⟨_, _, hbrace, -⟩ := Reader.bind_eq_read.1 hbody
    have hne : x ≠ [] := by
      rintro rfl
      cases hbrace
    have hword : Reader.word "extends" x = .failed := by
      refine StartsIn.word_of_head (C := Pattern.isNameStart) (by decide) ?_
      obtain ⟨after, hcharacters, -⟩ := Reader.spaced_eq_read.1 hbrace
      rw [Reader.characters_eq_read.1 hcharacters]
      exact notAhead_cons.2 (by decide)
    have hword' := (word_ahead hbreak (by decide)).failed ⟨hxy, hne⟩ hword
    have hnone : Reader.parent y = .failed := Reader.bind_of_failed hword'
    rw [Reader.bind_of_read (Reader.optional_of_failed hnone)]
    exact body hbreak hnext (function_inside hbreak) hxy hbody

end Joined

end Carried

/-! ## Choices by the first word -/

/-- A choice between parts that begin with words of their own, each of which is carried. -/
structure ByWord (r : List Char) (words : List String) (p : PartReader α) : Prop where
  led : Led words p
  carried : Carried (Joined r 0) p (Joined r 0)

namespace ByWord

variable {r : List Char}

theorem fail : ByWord r [] (Reader.fail : PartReader α) := ⟨.fail, Alongside.fail.carried⟩

theorem orElse_fail {words : List String} {p : PartReader α} (h : ByWord r words p) :
    ByWord r words (p <|> Reader.fail) := by
  refine ⟨by simpa using h.led.orElse .fail, fun x y hxy a x' hread => ?_⟩
  obtain hread | ⟨-, hfail⟩ := Reader.orElse_eq_read.1 hread
  · obtain ⟨y', hother, hrest⟩ := h.carried hxy hread
    exact ⟨y', Reader.orElse_of_read hother, hrest⟩
  · cases hfail

variable (hbreak : ∀ c ∈ r.head?, isBreak c = true)

include hbreak

theorem orElse {text : String} {words : List String} {f : Unit → PartReader α} {q : PartReader α}
    (h : isPlainWord text.toList = true ∧ ∀ other ∈ words, other.toList ≠ [] ∧
      wordAhead other.toList ≠ wordAhead text.toList)
    (hp : Carried (Joined r 0) (Reader.word text >>= f) (Joined r 0)) (hq : ByWord r words q) :
    ByWord r (text :: words) ((Reader.word text >>= f) <|> q) := by
  refine ⟨(Led.word_bind text f).orElse hq.led, fun x y hxy a x' hread => ?_⟩
  rcases Reader.orElse_eq_read.1 hread with hread | ⟨-, hread⟩
  · obtain ⟨y', hother, hrest⟩ := hp hxy hread
    exact ⟨y', Reader.orElse_of_read hother, hrest⟩
  · have hne := hq.led.ne_nil (fun other hother => (h.2 other hother).1) hread
    have hfailed := hq.led.word_failed hread fun other hother => (h.2 other hother).2
    obtain ⟨y', hother, hrest⟩ := hq.carried hxy hread
    refine ⟨y', ?_, hrest⟩
    rw [Reader.orElse_of_failed (Reader.bind_of_failed
      ((Carried.word_ahead hbreak h.1).failed ⟨hxy, hne⟩ hfailed)), hother]

variable (hnext : skipLayout r = [] ∨ isLead (skipLayout r) = true)

include hnext

theorem definition (options : BuildOptions) (depth : Nat) :
    ByWord r definitionWords (Reader.definition options depth) :=
  orElse hbreak (by decide) (Carried.const hbreak hnext) <|
    orElse hbreak (by decide) (Carried.typedef hbreak hnext) <|
    orElse hbreak (by decide) (Carried.enum hbreak hnext) <|
    orElse hbreak (by decide) (Carried.senum hbreak hnext) <|
    orElse hbreak (by decide) (Carried.flaggedFields hbreak hnext (by decide) _) <|
    orElse hbreak (by decide) (Carried.flaggedFields hbreak hnext (by decide) _) <|
    orElse hbreak (by decide) (Carried.exception hbreak hnext) <|
    orElse hbreak (by decide) (Carried.service hbreak hnext) fail

theorem literalHeader {text : String} (h : isPlainWord text.toList = true)
    (make : String → Header) :
    Carried (Joined r 0) (Reader.literalHeader text make) (Joined r 0) :=
  (Carried.word hbreak h).bind fun _ => (Carried.literal hbreak hnext).map _

theorem targetNamespace : Carried (Joined r 0) Reader.targetNamespace (Joined r 0) := by
  have hcategory : Carried (Joined r 0) Reader.smalltalkCategory (Joined r 0) :=
    (Carried.word hbreak (by decide)).bind fun _ => (Carried.dashedIdentifier hbreak).map _
  have hclass : Carried (Joined r 0) Reader.smalltalkPrefix (Joined r 0) :=
    (Carried.word hbreak (by decide)).bind fun _ => (Carried.identifier hbreak).map _
  have hscope : Carried (Joined r 0) (Reader.oneOf Production.namespaceScopes) (Joined r 0) :=
    (Alongside.oneOf (Carried.lockstep_joined hbreak hnext) (by decide)).carried
  have hscoped : ByWord r Production.namespaceScopes (Reader.scopedName <|> Reader.fail) :=
    .orElse_fail ⟨(Led.oneOf _).bind _,
      hscope.bind fun _ => (Carried.identifier hbreak).map _⟩
  exact (Carried.word hbreak (by decide)).bind fun _ =>
    (orElse hbreak (by decide) hcategory <| orElse hbreak (by decide) hclass hscoped).carried

theorem header : ByWord r headerWords Reader.header :=
  orElse hbreak (by decide) (literalHeader hbreak hnext (by decide) _) <|
    orElse hbreak (by decide) (literalHeader hbreak hnext (by decide) _) <|
    orElse hbreak (by decide) (targetNamespace hbreak hnext) <|
    orElse hbreak (by decide) (literalHeader hbreak hnext (by decide) _) <|
    orElse hbreak (by decide) (literalHeader hbreak hnext (by decide) _) fail

end ByWord

end ThriftSchema
