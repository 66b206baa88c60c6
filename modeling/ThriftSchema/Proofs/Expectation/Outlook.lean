import ThriftSchema.Proofs.Expectation.Depth
import ThriftSchema.Proofs.Expectation.Seam

set_option autoImplicit false

/-! # What forms begin and end with

A form can be brought to its end by tokens that are spelled out. Where the tokens end, more of
them may be looked for, by a repetition or an option; the form ends there if they are not found.

* `Head.takes`, `Head.rejects`: what a head does with a text of a token.
* `Form.first`, `Form.last`: the heads that a form begins with, and those that it looks for behind
  its tokens.
* `Form.completion`: tokens that are a form.
* `Form.passes`, `Form.completes`: the walks on such texts.

References are followed to a depth, since the forms refer to themselves.
-/

namespace ThriftSchema

open Pattern (isLayout isNameChar)
open Reader (skipLayout)

/-! ## Texts of tokens -/

/-- A text that is read as it is, with a blank behind it. -/
structure IsSample (x : List Char) : Prop where
  ne_nil : x ≠ []
  plain : Plain x
  solid : ∀ c ∈ x, isLayout c = false

namespace IsSample

variable {x y : List Char}

theorem skipLayout_append (h : IsSample x) (rest : List Char) :
    skipLayout (x ++ rest) = x ++ rest := by
  obtain ⟨c, cs, rfl⟩ := List.exists_cons_of_ne_nil h.ne_nil
  exact List.dropWhile_cons_of_neg (by simp [h.solid c (List.mem_cons_self ..)])

/-- The rest of such a text, if there is any, is one. -/
theorem of_append (h : IsSample (x ++ y)) (hx : Plain x) (hy : y ≠ []) : IsSample y where
  ne_nil := hy
  plain := hx.of_append h.plain
  solid c hc := h.solid c (List.mem_append_right _ hc)

/-- What follows the blank makes no difference to a token. -/
theorem measure_append (h : IsSample x) {t : Terminal} (ht : t.fits = true) (rest : List Char) :
    t.measure (x ++ ' ' :: rest) = t.measure x := by
  have hnil : ∀ p : Char → Bool, NotAhead p [] := fun p c hc => nomatch hc
  have hseam : Seam x [] := ⟨h.plain, hnil _, .inl (hnil _)⟩
  have hother : SetOff (' ' :: rest) := fun c hc => (Option.some.inj hc).symm
  have hend : SetOff [] := fun c hc => nomatch hc
  have hsame := Terminal.measure_setOff hseam h.ne_nil hother ht
    fun n hn => Terminal.le_of_setOff ht h.plain hend hn
  rwa [List.append_nil] at hsame

/-- A token that is all of such a text is read. -/
theorem read_append (h : IsSample x) {t : Terminal} (ht : t.fits = true)
    (hmeasure : t.measure x = some x.length) (rest : List Char) :
    t.read (x ++ ' ' :: rest) = some (skipLayout rest) := by
  rw [Terminal.read, h.measure_append ht, hmeasure, Option.map_some, List.drop_left]
  exact congrArg some (List.dropWhile_cons_of_pos rfl)

end IsSample

namespace Terminal

/-- Whether the text of a token is one that it reads. -/
def isSampled (t : Terminal) : Bool :=
  t.fits && t.measure t.sample == some t.sample.length && t.sample.all fun c => !isLayout c

variable {t : Terminal}

theorem fits_of_isSampled (h : t.isSampled = true) : t.fits = true := by
  simp only [isSampled, Bool.and_eq_true] at h
  exact h.1.1

theorem measure_sample (h : t.isSampled = true) : t.measure t.sample = some t.sample.length := by
  simp only [isSampled, Bool.and_eq_true, beq_iff_eq] at h
  exact h.1.2

theorem isSample (h : t.isSampled = true) : IsSample t.sample := by
  obtain ⟨lexeme, rest, heq, hlength, hshape⟩ :=
    exists_shape (fits_of_isSampled h) (measure_sample h)
  obtain rfl : rest = [] := by
    have hboth := congrArg List.length heq
    rw [List.length_append, hlength] at hboth
    exact List.eq_nil_of_length_eq_zero (by omega)
  rw [List.append_nil] at heq
  have hsolid : ∀ c ∈ t.sample, isLayout c = false := by
    simp only [isSampled, Bool.and_eq_true, List.all_eq_true, Bool.not_eq_true'] at h
    exact h.2
  exact ⟨heq ▸ hshape.ne_nil, heq ▸ hshape.plain, hsolid⟩

theorem read_sample (h : t.isSampled = true) (rest : List Char) :
    t.read (t.sample ++ ' ' :: rest) = some (skipLayout rest) :=
  (isSample h).read_append (fits_of_isSampled h) (measure_sample h) rest

/-- At the end of the text there is no token. -/
theorem read_nil (h : t.fits = true) : t.read [] = none := by
  cases hread : t.read [] with
  | none => rfl
  | some rest => exact absurd (length_lt_of_read h hread) (Nat.not_lt_zero _)

end Terminal

/-- The texts of some tokens, with a blank behind each. -/
def spell (tokens : List Terminal) : List Char := tokens.flatMap fun t => t.sample ++ [' ']

theorem spell_cons (t : Terminal) (tokens : List Terminal) (rest : List Char) :
    spell (t :: tokens) ++ rest = t.sample ++ ' ' :: (spell tokens ++ rest) := by
  simp [spell]

theorem spell_append (tokens others : List Terminal) (rest : List Char) :
    spell (tokens ++ others) ++ rest = spell tokens ++ (spell others ++ rest) := by
  simp [spell]

/-- Texts of tokens hide the layout that may follow them. -/
theorem skipLayout_spell {tokens : List Terminal} (h : ∀ t ∈ tokens, t.isSampled = true)
    {rest : List Char} (hrest : skipLayout rest = rest) :
    skipLayout (spell tokens ++ rest) = spell tokens ++ rest := by
  cases tokens with
  | nil => exact hrest
  | cons t tokens =>
      rw [spell_cons]
      exact (Terminal.isSample (h t (List.mem_cons_self ..))).skipLayout_append _

theorem plain_spell {tokens : List Terminal} (h : ∀ t ∈ tokens, t.isSampled = true) :
    Plain (spell tokens) := by
  induction tokens with
  | nil => exact .nil
  | cons t tokens ih =>
      have hrest := ih fun u hu => h u (List.mem_cons_of_mem _ hu)
      rw [← List.append_nil (spell _), spell_cons, List.append_nil]
      exact (Terminal.isSample (h t (List.mem_cons_self ..))).plain.append (.cons (by decide) hrest)

/-! ## What heads do with them -/

namespace Head

/-- Whether a head goes on with a text; a pair does with its first token. -/
def takes : Head → List Char → Bool
  | choice ts, x => ts.findSome? (fun t => t.measure x) == some x.length
  | pair first _, x => first.measure x == some x.length

/-- Whether a head fails on a text, whatever follows it. -/
def rejects : Head → List Char → Bool
  | choice ts, x => ts.all fun t => (t.measure x).isNone
  | pair first second, x =>
    match first.measure x with
    | none => true
    | some n => n < x.length && (second.measure (x.drop n)).isNone

/-- A head fails on a text and a blank, whatever follows them. -/
def Refuses (head : Head) (x : List Char) : Prop := ∀ rest, head.Quits (x ++ ' ' :: rest)

variable {head : Head}

theorem tryEach_eq_none {ts : List Terminal} {input : List Char}
    (h : ∀ t ∈ ts, t.read input = none) : (head.tryEach ts input).1 = none := by
  cases htried : (head.tryEach ts input).1 with
  | none => rfl
  | some rest =>
      obtain ⟨t, ht, hread⟩ := exists_read_of_tryEach htried
      rw [h t ht] at hread
      cases hread

theorem quits_nil (hfits : head.fits = true) : head.Quits [] := by
  cases head with
  | choice ts =>
      simp only [fits, Bool.and_eq_true, List.all_eq_true] at hfits
      exact tryEach_eq_none fun t ht => Terminal.read_nil (hfits.2 t ht)
  | pair first second =>
      simp only [fits, Bool.and_eq_true] at hfits
      rw [Quits, attempt, Terminal.read_nil hfits.1]

theorem refuses_of_rejects (hfits : head.fits = true) {x : List Char} (hx : IsSample x)
    (h : head.rejects x = true) : head.Refuses x := by
  intro rest
  cases head with
  | choice ts =>
      simp only [fits, Bool.and_eq_true, List.all_eq_true] at hfits
      refine tryEach_eq_none fun t ht => ?_
      rw [Terminal.read_eq_none, hx.measure_append (hfits.2 t ht)]
      exact Option.isNone_iff_eq_none.1 (List.all_eq_true.1 h t ht)
  | pair first second =>
      simp only [fits, Bool.and_eq_true] at hfits
      rw [Quits, attempt]
      cases hread : first.read (x ++ ' ' :: rest) with
      | none => rfl
      | some middle =>
          obtain ⟨n, hn, rfl⟩ := Option.map_eq_some_iff.1 hread
          rw [hx.measure_append hfits.1] at hn
          rw [rejects, hn] at h
          simp only [Bool.and_eq_true, decide_eq_true_eq] at h
          obtain ⟨lexeme, behind, rfl, rfl, hshape⟩ := Terminal.exists_shape hfits.1 hn
          rw [List.drop_left, List.length_append] at h
          have hbehind : IsSample behind := by
            refine hx.of_append hshape.plain ?_
            rintro rfl
            simp at h
          have hnone : second.read (behind ++ ' ' :: rest) = none := by
            rw [Terminal.read_eq_none, hbehind.measure_append hfits.2]
            exact Option.isNone_iff_eq_none.1 h.2
          rw [List.append_assoc, List.drop_left, hbehind.skipLayout_append]
          simp only [hnone]

/-- A choice that takes a text leaves what follows it. -/
theorem tryEach_of_takes {ts : List Terminal} (hfits : ∀ t ∈ ts, t.fits = true) {x : List Char}
    (hx : IsSample x) (h : ts.findSome? (fun t => t.measure x) = some x.length)
    (rest : List Char) :
    (head.tryEach ts (x ++ ' ' :: rest)).1 = some (skipLayout rest) := by
  induction ts with
  | nil => cases h
  | cons t ts ih =>
      have ht : t.fits = true := hfits t (List.mem_cons_self ..)
      rw [List.findSome?_cons] at h
      rw [tryEach]
      cases hmeasure : t.measure x with
      | some n =>
          rw [hmeasure] at h
          rw [hx.read_append ht (hmeasure.trans h)]
      | none =>
          rw [hmeasure] at h
          have hnone : t.read (x ++ ' ' :: rest) = none := by
            rw [Terminal.read_eq_none, hx.measure_append ht, hmeasure]
          rw [hnone]
          exact ih (fun u hu => hfits u (List.mem_cons_of_mem _ hu)) h

end Head

/-! ## What forms begin and end with -/

namespace Form

/-- The heads that a form begins with, where it is known what references begin with. -/
def firstWith (call : String → Option (List Head)) : Form → Option (List Head)
  | lead head => some [head]
  | done | never => some []
  | seq first rest => do
    let heads ← firstWith call first
    if first.nullable then return heads ++ (← firstWith call rest) else return heads
  | alt first rest => return (← firstWith call first) ++ (← firstWith call rest)
  | star body | opt body => firstWith call body
  | ref name => call name

/-- The heads that a form looks for behind its tokens, where it is known what references look
for. -/
def lastWith (first : Form → Option (List Head)) (call : String → Option (List Head)) :
    Form → Option (List Head)
  | lead _ | done | never => some []
  | seq front rest => do
    let heads ← lastWith first call rest
    if rest.nullable then return heads ++ (← lastWith first call front) else return heads
  | alt front rest => return (← lastWith first call front) ++ (← lastWith first call rest)
  | star body | opt body => return (← first body) ++ (← lastWith first call body)
  | ref name => call name

/-- The heads that a form begins with, to a depth of references. -/
def first : Nat → Form → Option (List Head)
  | 0 => firstWith fun _ => none
  | k + 1 => firstWith fun name => (named? name).bind (first k)

/-- The heads that a form looks for behind its tokens, to a depth of references. -/
def last : Nat → Form → Option (List Head)
  | 0 => lastWith (first 0) fun _ => none
  | k + 1 => lastWith (first (k + 1)) fun name => (named? name).bind (last k)

/-- Whether some heads are known and reject the first of some tokens. -/
def stopsAt (heads : Option (List Head)) : List Terminal → Bool
  | [] => false
  | t :: _ => heads.any fun heads => heads.all fun head => head.fits && head.rejects t.sample

/-- Whether a form can be ended by some tokens where others are looked for in front of it: there
are no tokens, or the others are not found. -/
def joins (heads : Option (List Head)) (rest : Form) (tokens : List Terminal) : Bool :=
  tokens.isEmpty && rest.nullable || stopsAt heads tokens

/-- Tokens that are a form, where such tokens are known for references. -/
def completionWith (first last : Form → Option (List Head))
    (call : String → Option (List Terminal)) : Form → Option (List Terminal)
  | lead (.choice (t :: _)) => if t.isSampled then some [t] else none
  | lead (.choice []) | never => none
  | lead (.pair t u) => if t.isSampled && u.isSampled then some [t, u] else none
  | done | star _ | opt _ => some []
  | seq front rest => do
    let tokens ← completionWith first last call front
    let others ← completionWith first last call rest
    if rest.joins (last front) others then return tokens ++ others else none
  | alt front rest =>
    match completionWith first last call front with
    | some tokens => some tokens
    | none => do
      let tokens ← completionWith first last call rest
      if !front.nullable && stopsAt (first front) tokens then return tokens else none
  | ref name => call name

/-- Tokens that are a form, to a depth of references. -/
def completion : Nat → Form → Option (List Terminal)
  | 0 => completionWith (first 0) (last 0) fun _ => none
  | k + 1 => completionWith (first (k + 1)) (last (k + 1)) fun name =>
      (named? name).bind (completion k)

/-! ## Walks of forms that are not there -/

/-- A form whose heads are not there fails, or goes past. -/
theorem passesWith {depth : Nat} {call : String → Option (List Head)} {input : List Char}
    (hcall : ∀ name heads, call name = some heads → (∀ head ∈ heads, head.Quits input) →
      ∃ notes, Walks depth (.ref name) input none notes)
    {form : Form} (hform : form.wellFormed = true) {heads : List Head}
    (hfirst : form.firstWith call = some heads) (hquits : ∀ head ∈ heads, head.Quits input) :
    ∃ notes, Walks depth form input (if form.nullable then some input else none) notes := by
  induction form generalizing heads with
  | lead head =>
      cases hfirst
      exact (hquits head (List.mem_cons_self ..)).walks depth
  | done => exact ⟨_, .done⟩
  | never => exact ⟨_, .never⟩
  | seq front rest ihFront ihRest =>
      simp only [wellFormed, Bool.and_eq_true] at hform
      simp only [firstWith, Option.bind_eq_bind, Option.bind_eq_some_iff] at hfirst
      obtain ⟨fronts, hfronts, hfirst⟩ := hfirst
      -- the first part goes past to the second one, or fails for both
      cases hnullable : front.nullable with
      | true =>
          simp only [hnullable, if_true, Option.bind_eq_some_iff] at hfirst
          obtain ⟨rests, hrests, heq⟩ := hfirst
          cases heq
          obtain ⟨hnoFronts, hnoRests⟩ := List.forall_mem_append.1 hquits
          obtain ⟨notes, hwalk⟩ := ihFront hform.1 hfronts hnoFronts
          obtain ⟨more, hmore⟩ := ihRest hform.2 hrests hnoRests
          rw [hnullable] at hwalk
          rw [nullable, hnullable, Bool.true_and]
          exact ⟨_, .seq hwalk hmore⟩
      | false =>
          simp only [hnullable] at hfirst
          cases hfirst
          obtain ⟨notes, hwalk⟩ := ihFront hform.1 hfronts hquits
          rw [hnullable] at hwalk
          rw [nullable, hnullable, Bool.false_and]
          exact ⟨_, .seqFailed hwalk⟩
  | alt front rest ihFront ihRest =>
      simp only [wellFormed, Bool.and_eq_true] at hform
      simp only [firstWith, Option.bind_eq_bind, Option.bind_eq_some_iff] at hfirst
      obtain ⟨fronts, hfronts, rests, hrests, heq⟩ := hfirst
      cases heq
      obtain ⟨hnoFronts, hnoRests⟩ := List.forall_mem_append.1 hquits
      obtain ⟨notes, hwalk⟩ := ihFront hform.1 hfronts hnoFronts
      cases hnullable : front.nullable with
      | true =>
          rw [hnullable] at hwalk
          rw [nullable, hnullable, Bool.true_or]
          exact ⟨_, .alt hwalk⟩
      | false =>
          obtain ⟨more, hmore⟩ := ihRest hform.2 hrests hnoRests
          rw [hnullable] at hwalk
          rw [nullable, hnullable, Bool.false_or]
          exact ⟨_, .altRest hwalk hmore⟩
  | star body ih =>
      simp only [wellFormed, Bool.and_eq_true, Bool.not_eq_true'] at hform
      obtain ⟨notes, hwalk⟩ := ih hform.1 hfirst hquits
      rw [hform.2] at hwalk
      exact ⟨_, .starDone hwalk⟩
  | opt body ih =>
      simp only [wellFormed, Bool.and_eq_true, Bool.not_eq_true'] at hform
      obtain ⟨notes, hwalk⟩ := ih hform.1 hfirst hquits
      rw [hform.2] at hwalk
      exact ⟨_, .optAbsent hwalk⟩
  | ref name => exact hcall name heads hfirst hquits

theorem passes {k depth : Nat} (hdepth : k ≤ depth) {input : List Char} {form : Form}
    (hform : form.wellFormed = true) {heads : List Head} (hfirst : form.first k = some heads)
    (hquits : ∀ head ∈ heads, head.Quits input) :
    ∃ notes, Walks depth form input (if form.nullable then some input else none) notes := by
  induction k generalizing depth form heads with
  | zero =>
      refine passesWith (fun name heads h => ?_) hform hfirst hquits
      exact absurd h.symm (Option.some_ne_none _)
  | succ k ih =>
      obtain ⟨depth, rfl⟩ := Nat.exists_eq_add_of_le' (Nat.le_trans (Nat.succ_pos _) hdepth)
      refine passesWith (fun name heads h hquits => ?_) hform hfirst hquits
      obtain ⟨body, hfind, hbody⟩ := Option.bind_eq_some_iff.1 h
      obtain ⟨hwell, hnullable, -⟩ := wellFormed_named hfind
      obtain ⟨notes, hwalk⟩ := ih (Nat.le_of_succ_le_succ hdepth) hwell hbody hquits
      rw [hnullable] at hwalk
      exact ⟨notes, .ref hfind hwalk⟩

/-! ## Walks of tokens that are a form -/

/-- Tokens are a form, in front of a text in which the form looks for nothing more. -/
structure Completes (depth : Nat) (form : Form) (heads : List Head) (tokens : List Terminal) :
    Prop where
  sampled : ∀ t ∈ tokens, t.isSampled = true
  walks : ∀ {rest}, skipLayout rest = rest → (∀ head ∈ heads, head.Quits rest) →
    ∃ notes, Walks depth form (spell tokens ++ rest) (some rest) notes

theorem quits_of_stopsAt {known : Option (List Head)} {tokens : List Terminal}
    (h : stopsAt known tokens = true) (hsampled : ∀ t ∈ tokens, t.isSampled = true) :
    ∃ heads, known = some heads ∧
      ∀ rest, ∀ head ∈ heads, head.Quits (spell tokens ++ rest) := by
  cases tokens with
  | nil => cases h
  | cons t tokens =>
      obtain ⟨heads, rfl, hall⟩ := (Option.any_eq_true _ _).1 h
      refine ⟨heads, rfl, fun rest head hmem => ?_⟩
      have hboth := List.all_eq_true.1 hall head hmem
      rw [Bool.and_eq_true] at hboth
      have hsample := Terminal.isSample (hsampled t (List.mem_cons_self ..))
      rw [spell_cons]
      exact Head.refuses_of_rejects hboth.1 hsample hboth.2 _

section Last

variable {first : Form → Option (List Head)} {callLast : String → Option (List Head)}
  {front rest body : Form} {heads : List Head}

theorem lastWith_seq (h : (seq front rest).lastWith first callLast = some heads) :
    ∃ rests, rest.lastWith first callLast = some rests ∧ (∀ head ∈ rests, head ∈ heads) ∧
      (rest.nullable = true → ∃ fronts, front.lastWith first callLast = some fronts ∧
        ∀ head ∈ fronts, head ∈ heads) := by
  simp only [lastWith, Option.bind_eq_bind, Option.bind_eq_some_iff] at h
  obtain ⟨rests, hrests, h⟩ := h
  cases hnullable : rest.nullable with
  | true =>
      simp only [hnullable, if_true, Option.bind_eq_some_iff] at h
      obtain ⟨fronts, hfronts, heq⟩ := h
      cases heq
      exact ⟨rests, hrests, fun head => List.mem_append_left _,
        fun _ => ⟨fronts, hfronts, fun head => List.mem_append_right _⟩⟩
  | false =>
      simp only [hnullable] at h
      cases h
      exact ⟨heads, hrests, fun head => id, fun hrest => nomatch hrest⟩

theorem lastWith_alt (h : (alt front rest).lastWith first callLast = some heads) :
    ∃ fronts rests, front.lastWith first callLast = some fronts ∧
      rest.lastWith first callLast = some rests ∧ heads = fronts ++ rests := by
  simp only [lastWith, Option.bind_eq_bind, Option.bind_eq_some_iff] at h
  obtain ⟨fronts, hfronts, rests, hrests, heq⟩ := h
  exact ⟨fronts, rests, hfronts, hrests, (Option.some.inj heq).symm⟩

theorem lastWith_star (h : (star body).lastWith first callLast = some heads) :
    ∃ begins ends, first body = some begins ∧ body.lastWith first callLast = some ends ∧
      heads = begins ++ ends := by
  simp only [lastWith, Option.bind_eq_bind, Option.bind_eq_some_iff] at h
  obtain ⟨begins, hbegins, ends, hends, heq⟩ := h
  exact ⟨begins, ends, hbegins, hends, (Option.some.inj heq).symm⟩

/-- What is looked for behind the first part of a sequence is not found in the tokens of the
second one, or behind them. -/
theorem quits_of_joins {tokens : List Terminal}
    (h : rest.joins (front.lastWith first callLast) tokens = true)
    (hlast : (seq front rest).lastWith first callLast = some heads)
    (hsampled : ∀ t ∈ tokens, t.isSampled = true) :
    ∃ fronts, front.lastWith first callLast = some fronts ∧
      ∀ {text}, (∀ head ∈ heads, head.Quits text) →
        ∀ head ∈ fronts, head.Quits (spell tokens ++ text) := by
  rw [joins, Bool.or_eq_true, Bool.and_eq_true] at h
  rcases h with ⟨hempty, hnullable⟩ | hstops
  · obtain rfl := List.isEmpty_iff.1 hempty
    obtain ⟨-, -, -, hfronts⟩ := lastWith_seq hlast
    obtain ⟨fronts, hfronts, hmem⟩ := hfronts hnullable
    exact ⟨fronts, hfronts, fun hquits head hhead => hquits head (hmem head hhead)⟩
  · obtain ⟨fronts, hfronts, hquits⟩ := quits_of_stopsAt hstops hsampled
    exact ⟨fronts, hfronts, fun _ => hquits _⟩

theorem exists_last (k : Nat) : ∃ call, last k = lastWith (Form.first k) call := by
  cases k <;> exact ⟨_, rfl⟩

theorem last_alt {k : Nat} (h : (alt front rest).last k = some heads) :
    ∃ fronts rests, front.last k = some fronts ∧ rest.last k = some rests ∧
      heads = fronts ++ rests := by
  obtain ⟨call, hcall⟩ := exists_last k
  rw [hcall] at h ⊢
  exact lastWith_alt h

theorem last_star {k : Nat} (h : (star body).last k = some heads) :
    ∃ begins ends, body.first k = some begins ∧ body.last k = some ends ∧
      heads = begins ++ ends := by
  obtain ⟨call, hcall⟩ := exists_last k
  rw [hcall] at h ⊢
  exact lastWith_star h

/-- An option looks for what a repetition looks for. -/
theorem last_opt {k : Nat} (h : (opt body).last k = some heads) :
    ∃ begins ends, body.first k = some begins ∧ body.last k = some ends ∧
      heads = begins ++ ends := by
  obtain ⟨call, hcall⟩ := exists_last k
  rw [hcall] at h ⊢
  exact lastWith_star h

end Last

theorem completesWith {k depth : Nat} (hdepth : k ≤ depth)
    {callLast : String → Option (List Head)} {call : String → Option (List Terminal)}
    (hcall : ∀ name tokens heads, call name = some tokens → callLast name = some heads →
      Completes depth (.ref name) heads tokens)
    {form : Form} (hform : form.wellFormed = true) {tokens : List Terminal} {heads : List Head}
    (htokens : form.completionWith (first k) (lastWith (first k) callLast) call = some tokens)
    (hlast : form.lastWith (first k) callLast = some heads) :
    Completes depth form heads tokens := by
  induction form generalizing tokens heads with
  | lead head =>
      rcases head with (_ | ⟨t, ts⟩) | ⟨t, u⟩
      · cases htokens
      · rw [completionWith] at htokens
        split at htokens
        · next ht =>
          cases htokens
          refine ⟨by simpa using ht, fun {rest} hrest _ => ⟨[], .lead ?_⟩⟩
          rw [spell_cons, Head.attempt, Head.tryEach, Terminal.read_sample ht]
          exact congrArg (fun rest => (some rest, [])) hrest
        · cases htokens
      · rw [completionWith] at htokens
        split at htokens
        · next hboth =>
          rw [Bool.and_eq_true] at hboth
          cases htokens
          refine ⟨by simpa using hboth, fun {rest} hrest _ => ⟨[], .lead ?_⟩⟩
          have hskip : skipLayout (spell [u] ++ rest) = u.sample ++ ' ' :: rest := by
            rw [spell_cons]
            exact (Terminal.isSample hboth.2).skipLayout_append _
          rw [spell_cons, Head.attempt, Terminal.read_sample hboth.1, hskip]
          simp only [Terminal.read_sample hboth.2, hrest]
        · cases htokens
  | done =>
      cases htokens
      exact ⟨by simp, fun _ _ => ⟨_, .done⟩⟩
  | never => cases htokens
  | seq front rest ihFront ihRest =>
      simp only [wellFormed, Bool.and_eq_true] at hform
      simp only [completionWith, Option.bind_eq_bind, Option.bind_eq_some_iff] at htokens
      obtain ⟨tokens, hfront, others, hrest, heq⟩ := htokens
      split at heq
      · next hjoins =>
        cases heq
        obtain ⟨rests, hrests, hmem, -⟩ := lastWith_seq hlast
        have hothers := ihRest hform.2 hrest hrests
        -- behind its tokens the first part finds nothing that it looks for
        obtain ⟨fronts, hfronts, hquits⟩ := quits_of_joins hjoins hlast hothers.sampled
        have hboth := ihFront hform.1 hfront hfronts
        refine ⟨List.forall_mem_append.2 ⟨hboth.sampled, hothers.sampled⟩,
          fun {rest} hskip hrest => ?_⟩
        obtain ⟨notes, hwalk⟩ :=
          hboth.walks (skipLayout_spell hothers.sampled hskip) (hquits hrest)
        obtain ⟨more, hmore⟩ :=
          hothers.walks hskip fun head hhead => hrest head (hmem head hhead)
        rw [spell_append]
        exact ⟨_, .seq hwalk hmore⟩
      · cases heq
  | alt front rest ihFront ihRest =>
      simp only [wellFormed, Bool.and_eq_true] at hform
      obtain ⟨fronts, rests, hfronts, hrests, rfl⟩ := lastWith_alt hlast
      rw [completionWith] at htokens
      split at htokens
      · next hfront =>
        cases htokens
        have hboth := ihFront hform.1 hfront hfronts
        refine ⟨hboth.sampled, fun hskip hquits => ?_⟩
        obtain ⟨notes, hwalk⟩ := hboth.walks hskip (List.forall_mem_append.1 hquits).1
        exact ⟨_, .alt hwalk⟩
      · simp only [Option.bind_eq_bind, Option.bind_eq_some_iff] at htokens
        obtain ⟨tokens, hrest, heq⟩ := htokens
        split at heq
        · next hguard =>
          cases heq
          simp only [Bool.and_eq_true, Bool.not_eq_true'] at hguard
          have hboth := ihRest hform.2 hrest hrests
          -- the first part of the choice fails on the tokens of the second one
          obtain ⟨begins, hbegins, hnone⟩ := quits_of_stopsAt hguard.2 hboth.sampled
          refine ⟨hboth.sampled, fun {rest} hskip hquits => ?_⟩
          obtain ⟨notes, hwalk⟩ := passes hdepth hform.1 hbegins (hnone rest)
          obtain ⟨more, hmore⟩ := hboth.walks hskip (List.forall_mem_append.1 hquits).2
          rw [hguard.1] at hwalk
          exact ⟨_, .altRest hwalk hmore⟩
        · cases heq
  | star body =>
      cases htokens
      simp only [wellFormed, Bool.and_eq_true, Bool.not_eq_true'] at hform
      obtain ⟨begins, ends, hbegins, -, rfl⟩ := lastWith_star hlast
      refine ⟨by simp, fun _ hquits => ?_⟩
      obtain ⟨notes, hwalk⟩ := passes hdepth hform.1 hbegins (List.forall_mem_append.1 hquits).1
      rw [hform.2] at hwalk
      exact ⟨_, .starDone hwalk⟩
  | opt body =>
      cases htokens
      simp only [wellFormed, Bool.and_eq_true, Bool.not_eq_true'] at hform
      obtain ⟨begins, ends, hbegins, -, rfl⟩ := lastWith_star hlast
      refine ⟨by simp, fun _ hquits => ?_⟩
      obtain ⟨notes, hwalk⟩ := passes hdepth hform.1 hbegins (List.forall_mem_append.1 hquits).1
      rw [hform.2] at hwalk
      exact ⟨_, .optAbsent hwalk⟩
  | ref name => exact hcall name tokens heads htokens hlast

theorem completes {k depth : Nat} (hdepth : k ≤ depth) {form : Form}
    (hform : form.wellFormed = true) {tokens : List Terminal} {heads : List Head}
    (htokens : form.completion k = some tokens) (hlast : form.last k = some heads) :
    Completes depth form heads tokens := by
  induction k generalizing depth form tokens heads with
  | zero =>
      refine completesWith hdepth (fun name tokens heads h => ?_) hform htokens hlast
      exact absurd h.symm (Option.some_ne_none _)
  | succ k ih =>
      obtain ⟨depth, rfl⟩ := Nat.exists_eq_add_of_le' (Nat.le_trans (Nat.succ_pos _) hdepth)
      refine completesWith hdepth (fun name tokens heads h hheads => ?_) hform htokens hlast
      obtain ⟨body, hfind, hbody⟩ := Option.bind_eq_some_iff.1 h
      rw [hfind] at hheads
      have hcomplete := ih (Nat.le_of_succ_le_succ hdepth) (wellFormed_named hfind).1 hbody hheads
      refine ⟨hcomplete.sampled, fun hskip hquits => ?_⟩
      obtain ⟨notes, hwalk⟩ := hcomplete.walks hskip hquits
      exact ⟨notes, .ref hfind hwalk⟩

end Form

end ThriftSchema
