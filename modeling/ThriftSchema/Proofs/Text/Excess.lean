import ThriftSchema.Proofs.Text.Nesting
import ThriftSchema.Proofs.Text.Scan

set_option autoImplicit false

/-! # By how many the brackets that open are more

How deep a text nests can be counted in front of each of its places: there are so many more
brackets that open than brackets that close, outside of strings. A text nests no deeper than this
excess goes; where a quote without its like stands, it may nest less deep.

* `unquoted`: a text without its strings.
* `ExceedsBy`: the excess of the brackets that open.
* `nesting_le_of_exceedsBy`: it bounds the nesting.
-/

namespace ThriftSchema

open Comment (Token)

/-- The characters of a text outside of its strings. -/
def unquoted (cs : List Char) : List Char :=
  (Token.scan cs).flatMap fun token => if token.kind = .string then [] else token.chars

/-- In front of no place outside of strings there are more than `bound` brackets that open in excess
of those that close. -/
def ExceedsBy (bound : Nat) (cs : List Char) : Prop :=
  ∀ before, before <+: unquoted cs →
    before.countP (· ∈ openings) ≤ before.countP (· ∈ closings) + bound

/-! ## The greatest excess -/

/-- The greatest excess in front of a place of a text, all of which counts. -/
def rise : List Char → Nat
  | [] => 0
  | c :: cs =>
    if c ∈ openings then rise cs + 1 else if c ∈ closings then rise cs - 1 else rise cs

theorem rise_le {cs : List Char} {bound : Nat}
    (h : ∀ before, before <+: cs →
      before.countP (· ∈ openings) ≤ before.countP (· ∈ closings) + bound) : rise cs ≤ bound := by
  have hother : ∀ c ∈ openings, c ∉ closings := by decide
  induction cs generalizing bound with
  | nil => exact Nat.zero_le _
  | cons c cs ih =>
      have hnext : ∀ before, before <+: cs →
          (c :: before).countP (· ∈ openings) ≤ (c :: before).countP (· ∈ closings) + bound :=
        fun before hbefore => h _ ((List.cons_prefix_cons).2 ⟨rfl, hbefore⟩)
      simp only [List.countP_cons, decide_eq_true_eq] at hnext
      rw [rise]
      split_ifs with hopens hcloses
      · simp only [if_pos hopens, if_neg (hother c hopens)] at hnext
        have hfirst := hnext [] List.nil_prefix
        simp only [List.countP_nil] at hfirst
        have hrest : rise cs ≤ bound - 1 := ih fun before hbefore => by
          have hbound := hnext before hbefore
          omega
        omega
      · simp only [if_neg hopens, if_pos hcloses] at hnext
        have hrest : rise cs ≤ bound + 1 := ih fun before hbefore => by
          have hbound := hnext before hbefore
          omega
        omega
      · simp only [if_neg hopens, if_neg hcloses] at hnext
        exact ih hnext

/-- What is no quote counts for both alike. -/
theorem nesting_append_le_rise {run rest others : List Char} (hrun : ∀ c ∈ run, c ∉ quotes)
    (h : nesting rest ≤ rise others) : nesting (run ++ rest) ≤ rise (run ++ others) := by
  induction run with
  | nil => exact h
  | cons c run ih =>
      obtain ⟨hc, hmore⟩ := List.forall_mem_cons.1 hrun
      have hrest := ih hmore
      rw [nesting] at hrest
      rw [List.cons_append, List.cons_append, nesting, nestingFrom, if_neg hc, rise]
      split_ifs <;> omega

/-- Behind a quote without its like nothing counts. -/
theorem nestingFrom_of_notMem {quote : Char} {cs : List Char} (h : quote ∉ cs) :
    nestingFrom (some quote) cs = 0 := by
  induction cs with
  | nil => rfl
  | cons c cs ih =>
      rw [List.mem_cons, not_or] at h
      rw [nestingFrom, if_neg (Ne.symm h.1), ih h.2]

/-! ## Texts without comments -/

theorem unquoted_of_nextToken {cs rest : List Char} {token : Token}
    (h : Comment.NextToken cs token rest) :
    unquoted cs = (if token.kind = .string then [] else token.chars) ++ unquoted rest := by
  rw [unquoted, h.scan_eq, List.flatMap_cons, ← unquoted]

theorem nesting_le_rise {cs : List Char}
    (h : ∀ token ∈ Token.scan cs, token.kind.isComment = false) :
    nesting cs ≤ rise (unquoted cs) := by
  induction cs using Comment.scan_induction with
  | nil => exact Nat.zero_le _
  | token cs token rest hnext ih =>
      rw [hnext.scan_eq] at h
      obtain ⟨hkind, hrest⟩ := List.forall_mem_cons.1 h
      have ih := ih hrest
      rw [unquoted_of_nextToken hnext]
      have hplain : ∀ c, Comment.isOpener c = false → c ∉ quotes := fun c hc hmem => by
        have hquotes : ∀ c ∈ quotes, Comment.isOpener c = true := by decide
        rw [hquotes c hmem] at hc
        cases hc
      cases hnext with
      | @text c cs hc =>
          have hrun : ∀ d ∈ c :: cs.takeWhile fun d => !Comment.isOpener d, d ∉ quotes := by
            refine List.forall_mem_cons.2 ⟨hplain c hc, fun d hd => hplain d ?_⟩
            simpa using List.mem_takeWhile_imp hd
          have hboth := nesting_append_le_rise hrun ih
          rwa [List.cons_append, List.takeWhile_append_dropWhile] at hboth
      | block | line => cases hkind
      | @string mark content rest quote absent =>
          have hquoted : IsQuoted (mark :: (content ++ [mark])) content := .intro quote absent
          have hsame : nesting (mark :: (content ++ [mark]) ++ rest) = nesting rest :=
            nesting_quoted hquoted
          rw [List.cons_append, List.append_assoc, List.singleton_append] at hsame
          rw [hsame]
          exact ih
      | slash =>
          have hslash : ∀ c ∈ ['/'], c ∉ quotes := by decide
          exact nesting_append_le_rise hslash ih
      | @quote mark cs quote absent =>
          have hmem : mark ∈ quotes := by simpa [quotes, IsQuote] using quote
          rw [nesting, nestingFrom, if_pos hmem, nestingFrom_of_notMem absent]
          exact Nat.zero_le _

/-- A text without its comments nests no deeper than its brackets that open are more. -/
theorem nesting_le_of_exceedsBy {text : String} {bound : Nat}
    (h : ExceedsBy bound (stripComments text).toList) :
    nesting (stripComments text).toList ≤ bound := by
  have hkept : ∀ token ∈ Token.scan (stripComments text).toList, token.kind.isComment = false := by
    intro token htoken
    rw [stripComments, String.toList_ofList] at htoken
    exact Comment.isComment_of_mem_scan_strip htoken
  exact Nat.le_trans (nesting_le_rise hkept) (rise_le h)

end ThriftSchema
