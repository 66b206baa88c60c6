import ThriftSchema.Proofs.Expectation.Shape
import ThriftSchema.Proofs.Expectation.Walk
import ThriftSchema.Proofs.Reader.Nesting
import ThriftSchema.Proofs.Text.Balance

set_option autoImplicit false

/-! # Every text is walked

A form goes one reference deeper only behind a bracket that opens, or where it refers to a form
of a lower rank. So a walk needs no more references than brackets nest in the text, and rounds of
a repetition, which move on, are over at the end of the text.

* `Form.wellFormed`: heads fit, and what is repeated is not empty.
* `Form.levelled`: brackets are opened in front of references.
* `Form.exists_walk`: the walk of a text.
-/

namespace ThriftSchema

open Reader (skipLayout)

/-! ## Forms that move on -/

namespace Form

/-- Whether a form may match without reading a token; forms that are referred to may not. -/
def nullable : Form → Bool
  | lead _ | never | ref _ => false
  | done | star _ | opt _ => true
  | seq first rest => first.nullable && rest.nullable
  | alt first rest => first.nullable || rest.nullable

/-- Whether a form that fails misses a token. -/
def missing : Form → Bool
  | never => false
  | seq first rest => first.missing && rest.missing
  | alt first rest => first.missing || rest.missing
  | lead _ | done | star _ | opt _ | ref _ => true

/-- Whether heads fit, repetitions and options are not empty, and names are known. -/
def wellFormed : Form → Bool
  | lead head => head.fits
  | done | never => true
  | seq first rest | alt first rest => first.wellFormed && rest.wellFormed
  | star body | opt body => body.wellFormed && !body.nullable
  | ref name => (named? name).isSome

theorem wellFormed_named {name : String} {form : Form} (h : named? name = some form) :
    form.wellFormed = true ∧ form.nullable = false ∧ form.missing = true := by
  have hall := of_names (p := fun _ form => form.wellFormed && !form.nullable && form.missing)
    (by decide +kernel) h
  simpa [and_assoc] using hall

end Form

/-! ## Brackets -/

namespace Terminal

/-- Whether a token is a bracket that opens. -/
def opens : Terminal → Bool
  | mark text => text.toList.any fun c => c ∈ openings
  | _ => false

/-- Whether a token is a bracket that closes. -/
def closes : Terminal → Bool
  | mark text => text.toList.any fun c => c ∈ closings
  | _ => false

/-- How many brackets are open behind a token. -/
def level (t : Terminal) (level : Nat) : Nat :=
  if t.opens then level + 1 else if t.closes then level - 1 else level

theorem isUnmarked_of_isPlainWord {cs : List Char} (h : isPlainWord cs = true) :
    ∀ c ∈ cs, IsUnmarked c :=
  fun c hc => isUnmarked_of_class (by decide) ((isPlainWord_iff.1 h).1 c hc)

/-- A lexeme leaves open what was. -/
theorem climbs_lexeme {lexeme rest : List Char} (h : LexemeShape lexeme rest) (n : Nat) :
    Climbs n lexeme n := by
  cases h with
  | name h _ =>
      have hspelled : ∀ c ∈ lexeme, isSpelled c = true :=
        isSpelled_of_isWord (fun _ => isSpelled_of_isDashedNameChar) h
      exact .unmarked fun c hc => isUnmarked_of_isSpelled (hspelled c hc)
  | quoted h => exact .quoted h
  | numeral _ h =>
      exact .unmarked fun c hc => isUnmarked_of_isSpelled (isSpelled_of_isNumeralChar (h c hc))

theorem climbs_word {text : String} (h : isPlainWord text.toList = true) {cs : List Char}
    {count : Nat} (hmeasure : wordMeasure text cs = some count) (n : Nat) :
    Climbs n (cs.take count) n := by
  obtain ⟨rest, rfl, -, rfl⟩ := wordMeasure_eq_some.1 hmeasure
  rw [List.take_left]
  exact .unmarked (isUnmarked_of_isPlainWord h)

/-- A mark opens a bracket, closes one or does neither. -/
theorem climbs_mark {c : Char} (hmark : isMarkChar c = true) {n : Nat}
    (hpos : c ∈ closings → 0 < n) :
    Climbs n [c] (if c ∈ openings then n + 1 else if c ∈ closings then n - 1 else n) := by
  split
  · next hopens => exact .opening hopens
  · next hopens =>
    split
    · next hcloses =>
      obtain ⟨n, rfl⟩ := Nat.exists_eq_succ_of_ne_zero (Nat.pos_iff_ne_zero.1 (hpos hcloses))
      exact .closing hcloses
    · next hcloses =>
      have hquotes : ∀ d ∈ quotes, isMarkChar d = false := by decide
      refine .unmarked fun d hd => ?_
      obtain rfl := List.mem_singleton.1 hd
      simp only [IsUnmarked, List.mem_append, not_or]
      refine ⟨⟨fun hquote => ?_, hopens⟩, hcloses⟩
      rw [hquotes d hquote] at hmark
      cases hmark

/-- A token opens a bracket, closes one or does neither. -/
theorem climbs {t : Terminal} (ht : t.fits = true) {cs : List Char} {count : Nat}
    (h : t.measure cs = some count) {n : Nat} (hlevel : t.closes = true → 0 < n) :
    Climbs n (cs.take count) (t.level n) := by
  cases t with
  | word text => exact climbs_word ht h n
  | oneOf label words =>
      obtain ⟨text, htext, hmeasure⟩ := List.exists_of_findSome?_eq_some h
      exact climbs_word (List.all_eq_true.1 ht text htext) hmeasure n
  | lexeme label kind =>
      obtain ⟨lexeme, rest, rfl, rfl, hshape⟩ := LexemeKind.exists_shape h
      rw [List.take_left]
      exact climbs_lexeme hshape n
  | separator label =>
      obtain ⟨c, rest, rfl, hc, rfl⟩ := separator_eq_some h
      refine .unmarked fun d hd => ?_
      obtain rfl := List.mem_singleton.1 hd
      rcases hc with rfl | rfl <;> decide
  | mark text =>
      obtain ⟨c, rest, htext, hmark, rfl, rfl⟩ := mark_eq_some ht h
      show Climbs n [c] _
      simp only [Terminal.level, opens, closes, htext, List.any_cons, List.any_nil,
        Bool.or_false, decide_eq_true_eq] at hlevel ⊢
      exact climbs_mark hmark hlevel

/-- What nests behind a token, together with the brackets that are open there, is no more than in
front of it. -/
theorem nesting_read {t : Terminal} (ht : t.fits = true) {input rest : List Char}
    (h : t.read input = some rest) {level : Nat} (hlevel : t.closes = true → 0 < level) :
    nesting rest + t.level level ≤ nesting input + level := by
  obtain ⟨n, hn, rfl⟩ := Option.map_eq_some_iff.1 h
  rw [nesting_skipLayout]
  have hnesting := (climbs ht hn hlevel).nesting_add_le (input.drop n)
  rwa [List.take_append_drop] at hnesting

end Terminal

/-! ## Levels -/

namespace Head

/-- How many brackets are open behind a head. -/
def level : Head → Nat → Nat
  | choice [t], level => t.level level
  | _, level => level

/-- Whether a head closes no bracket that is not open; only single tokens are brackets. -/
def levelled (level : Nat) : Head → Bool
  | choice [t] => !t.closes || 0 < level
  | choice ts => ts.all fun t => !t.opens && !t.closes
  | pair first second =>
    !first.opens && !first.closes && !second.opens && !second.closes

theorem nesting_attempt {head : Head} (hfits : head.fits = true) {level : Nat}
    (hlevel : head.levelled level = true) {input rest : List Char} {notes : List Note}
    (h : head.attempt input = (some rest, notes)) :
    nesting rest + head.level level ≤ nesting input + level := by
  -- a token that is no bracket leaves as many
  have hneutral : ∀ {t : Terminal} {input rest : List Char}, t.fits = true →
      t.opens = false → t.closes = false → t.read input = some rest →
      nesting rest + level ≤ nesting input + level := by
    intro t input rest ht hopens hcloses hread
    have hnesting : nesting rest + t.level level ≤ nesting input + level :=
      Terminal.nesting_read ht hread (by simp [hcloses])
    simpa [Terminal.level, hopens, hcloses] using hnesting
  cases head with
  | choice ts =>
      have hread : ∃ t ∈ ts, t.read input = some rest :=
        exists_read_of_tryEach (congrArg Prod.fst h)
      simp only [fits, Bool.and_eq_true, List.all_eq_true] at hfits
      rcases ts with _ | ⟨u, _ | ⟨v, ts⟩⟩
      · obtain ⟨t, ht, -⟩ := hread
        cases ht
      · obtain ⟨t, ht, hrest⟩ := hread
        obtain rfl := List.mem_singleton.1 ht
        refine Terminal.nesting_read (hfits.2 t ht) hrest fun hcloses => ?_
        simpa [levelled, hcloses] using hlevel
      · obtain ⟨t, ht, hrest⟩ := hread
        have hmark : t.opens = false ∧ t.closes = false := by
          simpa using List.all_eq_true.1 hlevel t ht
        exact hneutral (hfits.2 t ht) hmark.1 hmark.2 hrest
  | pair first second =>
      obtain ⟨middle, hfirst, hsecond⟩ := attempt_pair_eq_some h
      simp only [fits, Bool.and_eq_true] at hfits
      simp only [levelled, Bool.and_eq_true, Bool.not_eq_true'] at hlevel
      have hto := hneutral hfits.1 hlevel.1.1.1 hlevel.1.1.2 hfirst
      have hfrom := hneutral hfits.2 hlevel.1.2 hlevel.2 hsecond
      exact Nat.le_trans hfrom hto

end Head

namespace Form

/-- How many brackets are open behind a form; only in sequences there may be others than in front
of it. -/
def level : Form → Nat → Nat
  | lead head, level => head.level level
  | seq first rest, level => rest.level (first.level level)
  | _, level => level

/-- The rank of a name: a field refers to types and constants. -/
def rank (name : String) : Nat := if name = "field" then 1 else 0

/-- Whether a form with so many open brackets closes no others, and refers to forms of a lower
rank, or of a higher one where brackets are open. -/
def levelled (rankHere : Nat) : Nat → Form → Bool
  | level, lead head => head.levelled level
  | _, done | _, never => true
  | level, seq first rest =>
    first.levelled rankHere level && rest.levelled rankHere (first.level level)
  | level, alt first rest =>
    first.levelled rankHere level && rest.levelled rankHere level &&
      first.level level == level && rest.level level == level
  | level, star body | level, opt body =>
    body.levelled rankHere level && body.level level == level
  | level, ref name => rank name + 1 ≤ level + rankHere

theorem levelled_named {name : String} {form : Form} (h : named? name = some form) :
    form.levelled (rank name) 0 = true ∧ form.level 0 = 0 := by
  have hall := of_names (p := fun name form => form.levelled (rank name) 0 && form.level 0 == 0)
    (by decide +kernel) h
  simpa using hall

end Form

/-! ## Walks -/

theorem Head.length_lt_of_attempt {head : Head} (hfits : head.fits = true)
    {input rest : List Char} {notes : List Note} (h : head.attempt input = (some rest, notes)) :
    rest.length < input.length := by
  cases head with
  | choice ts =>
      obtain ⟨t, ht, hread⟩ := exists_read_of_tryEach (congrArg Prod.fst h)
      simp only [fits, Bool.and_eq_true, List.all_eq_true] at hfits
      exact Terminal.length_lt_of_read (hfits.2 t ht) hread
  | pair first second =>
      obtain ⟨middle, hfirst, hsecond⟩ := attempt_pair_eq_some h
      simp only [fits, Bool.and_eq_true] at hfits
      exact Nat.lt_trans (Terminal.length_lt_of_read hfits.2 hsecond)
        (Terminal.length_lt_of_read hfits.1 hfirst)

/-- A form that is not empty moves on. -/
theorem Walks.length_lt {depth : Nat} {form : Form} {input rest : List Char} {notes : List Note}
    (h : Walks depth form input (some rest) notes) (hform : form.wellFormed = true)
    (hnullable : form.nullable = false) : rest.length < input.length := by
  generalize hleft : some rest = left at h
  induction h generalizing rest with
  | lead h =>
      subst hleft
      exact Head.length_lt_of_attempt hform h
  | done | starDone | starNext | opt | optAbsent => cases hnullable
  | never | seqFailed => cases hleft
  | seq hfirst hrest ihFirst ihRest =>
      subst hleft
      simp only [Form.wellFormed, Bool.and_eq_true] at hform
      simp only [Form.nullable, Bool.and_eq_false_iff] at hnullable
      rcases hnullable with hnullable | hnullable
      · exact Nat.lt_of_le_of_lt (hrest.within.left _ rfl) (ihFirst hform.1 hnullable rfl)
      · exact Nat.lt_of_lt_of_le (ihRest hform.2 hnullable rfl) (hfirst.within.left _ rfl)
  | alt _ ih =>
      simp only [Form.wellFormed, Bool.and_eq_true] at hform
      simp only [Form.nullable, Bool.or_eq_false_iff] at hnullable
      exact ih hform.1 hnullable.1 hleft
  | altRest _ _ _ ih =>
      simp only [Form.wellFormed, Bool.and_eq_true] at hform
      simp only [Form.nullable, Bool.or_eq_false_iff] at hnullable
      exact ih hform.2 hnullable.2 hleft
  | ref hfind _ ih =>
      obtain ⟨hbody, hempty, -⟩ := Form.wellFormed_named hfind
      exact ih hbody hempty hleft

/-- A text in which no more than `bound` brackets nest, `level` of them in front of it, is walked,
and so is what is left. -/
theorem Form.exists_walk {depth rankHere level bound : Nat} {form : Form} {input : List Char}
    (hform : form.wellFormed = true) (hlevel : form.levelled rankHere level = true)
    (hnesting : nesting input + level ≤ bound) (hdepth : bound + rankHere ≤ depth) :
    ∃ left notes, Walks depth form input left notes ∧
      ∀ rest, left = some rest → nesting rest + form.level level ≤ bound := by
  induction depth using Nat.strong_induction_on generalizing rankHere level bound form input with
  | _ depth ihDepth =>
    induction form generalizing level input with
    | lead head =>
        cases h : head.attempt input with
        | mk left notes =>
            refine ⟨left, notes, .lead h, fun rest hrest => ?_⟩
            rw [hrest] at h
            exact Nat.le_trans (Head.nesting_attempt hform hlevel h) hnesting
    | done => exact ⟨_, _, .done, fun rest hrest => Option.some.inj hrest ▸ hnesting⟩
    | never => exact ⟨_, _, .never, fun rest hrest => nomatch hrest⟩
    | seq first rest ihFirst ihRest =>
        simp only [wellFormed, Bool.and_eq_true] at hform
        simp only [levelled, Bool.and_eq_true] at hlevel
        obtain ⟨left, notes, hfirst, hleaves⟩ := ihFirst hform.1 hlevel.1 hnesting
        cases left with
        | none => exact ⟨_, _, .seqFailed hfirst, fun rest hrest => nomatch hrest⟩
        | some middle =>
            obtain ⟨left, more, hrest, hlast⟩ := ihRest hform.2 hlevel.2 (hleaves middle rfl)
            exact ⟨_, _, .seq hfirst hrest, hlast⟩
    | alt first rest ihFirst ihRest =>
        simp only [wellFormed, Bool.and_eq_true] at hform
        simp only [levelled, Bool.and_eq_true, beq_iff_eq] at hlevel
        obtain ⟨⟨⟨hfirst, hrest⟩, hsame⟩, hother⟩ := hlevel
        obtain ⟨left, notes, hwalk, hleaves⟩ := ihFirst hform.1 hfirst hnesting
        rw [hsame] at hleaves
        cases left with
        | some last => exact ⟨_, _, .alt hwalk, hleaves⟩
        | none =>
            obtain ⟨left, more, hmore, hlast⟩ := ihRest hform.2 hrest hnesting
            rw [hother] at hlast
            exact ⟨_, _, .altRest hwalk hmore, hlast⟩
    | star body ihBody =>
        simp only [wellFormed, Bool.and_eq_true, Bool.not_eq_true'] at hform
        simp only [levelled, Bool.and_eq_true, beq_iff_eq] at hlevel
        -- every round leaves less
        obtain ⟨last, notes, hwalk, hlast⟩ : ∃ last notes,
            Walks depth (.star body) input (some last) notes ∧ nesting last + level ≤ bound := by
          induction hn : input.length using Nat.strong_induction_on generalizing input with
          | _ n ihLength =>
            obtain ⟨left, notes, hwalk, hleaves⟩ := ihBody hform.1 hlevel.1 hnesting
            rw [hlevel.2] at hleaves
            cases left with
            | none => exact ⟨input, notes, .starDone hwalk, hnesting⟩
            | some middle =>
                have hmoves := hwalk.length_lt hform.1 hform.2
                obtain ⟨last, more, hmore, hlast⟩ :=
                  ihLength middle.length (hn ▸ hmoves) (hleaves middle rfl) rfl
                exact ⟨last, _, .starNext hwalk hmoves hmore, hlast⟩
        exact ⟨_, _, hwalk, fun rest hrest => Option.some.inj hrest ▸ hlast⟩
    | opt body ihBody =>
        simp only [wellFormed, Bool.and_eq_true] at hform
        simp only [levelled, Bool.and_eq_true, beq_iff_eq] at hlevel
        obtain ⟨left, notes, hwalk, hleaves⟩ := ihBody hform.1 hlevel.1 hnesting
        rw [hlevel.2] at hleaves
        cases left with
        | none => exact ⟨_, _, .optAbsent hwalk, fun rest hrest => Option.some.inj hrest ▸ hnesting⟩
        | some last => exact ⟨_, _, .opt hwalk, hleaves⟩
    | ref name =>
        simp only [levelled, decide_eq_true_eq] at hlevel
        obtain ⟨form, hfind⟩ := Option.isSome_iff_exists.1 hform
        obtain ⟨hbody, hsame⟩ := levelled_named hfind
        obtain ⟨depth, rfl⟩ : ∃ n, depth = n + 1 := ⟨depth - 1, by omega⟩
        -- behind the brackets that are open, less of them nest
        have hless : nesting input + 0 ≤ bound - level := by omega
        have henough : bound - level + rank name ≤ depth := by omega
        obtain ⟨left, notes, hwalk, hleaves⟩ := ihDepth depth (Nat.lt_succ_self _)
          (wellFormed_named hfind).1 hbody hless henough
        refine ⟨left, notes, .ref hfind hwalk, fun rest hrest => ?_⟩
        have hlast := hleaves rest hrest
        show nesting rest + level ≤ bound
        omega

end ThriftSchema
