import ThriftSchema.Proofs.Canonical.Roundtrip

set_option autoImplicit false

/-! # Integers that are too long to be read

A decimal integer has no limit in the grammar, but one on its way into a document. A text with a
longer one is neither read nor rejected: reading breaks off there, so that no other production is
tried and no place in the text is named.

* `Stops`: a reader that breaks off where tokens are ahead.
* `ofText_overlong`: a constant with such an integer.
-/

namespace ThriftSchema.Canonical

open Reader (constant)

variable {limit : Nat} {α β : Type} {p q : PartReader α} {f : α → PartReader β} {a : α}
  {why : Stop BuildError} {tokens middle left : List String} {s : Spelling} {depth : Nat}
  {options : BuildOptions}

/-- The reader breaks off at tokens. -/
def Stops (p : PartReader α) (tokens : List String) (why : Stop BuildError) : Prop :=
  p (ahead tokens) = .stopped why

theorem Stops.bind (h : Stops p tokens why) : Stops (p >>= f) tokens why := by
  rw [Stops, Reader.bind_apply, h, Attempt.andThen]

theorem Stops.bind_of_reads (h : Reads p tokens a middle) (hf : Stops (f a) middle why) :
    Stops (p >>= f) tokens why := by
  rw [Stops, Reader.bind_of_read h]
  exact hf

theorem Stops.orElse (h : Stops p tokens why) : Stops (p <|> q) tokens why := by
  rw [Stops, Reader.orElse_apply, h, Attempt.orElse]

theorem Stops.orElse_of_fails (h : Fails p tokens) (hq : Stops q tokens why) :
    Stops (p <|> q) tokens why := by
  rw [Stops, Reader.orElse_of_failed h]
  exact hq

theorem Stops.many (h : Stops p tokens why) : Stops (Reader.many p) tokens why := by
  rw [Stops, Reader.many, Reader.manyWithin, h]
  rfl

/-! ## Where an integer is too long -/

/-- How an integer with too many digits breaks reading off. -/
def overlong (n : Int) : Stop BuildError :=
  .raised (.integerTooLong (Nat.toDigits 10 n.natAbs).length)

variable {n : Int}

theorem stops_integer (h : Number.isWritable n = false) :
    Stops Reader.integer (toString n :: left) (overlong n) := by
  have hread : Reader.measured Pattern.integer ((toString n).toList ++ behind left)
      = .read (toString n).toList (behind left) :=
    Reader.integer_measured.2
      ⟨rfl, ⟨n, Number.isInteger_toString n⟩, notAhead_behind (by decide) _⟩
  refine .bind_of_reads (Reads.lexeme (visible_toString n) hread) ?_
  rw [Stops, Reader.decimalValue, Number.readDecimal_toString_of_not_isWritable h]
  rfl

theorem stops_constant (h : Number.isWritable n = false) :
    Stops (constant (depth + 1)) (toString n :: left) (overlong n) :=
  .orElse_of_fails (fails_hexadecimal_of_integer n).bind <|
    .orElse_of_fails (fails_double_of_integer n).bind <| .orElse (stops_integer h).bind

/-- The document of one constant with an integer. -/
def constantDocument (type : FieldType) (name : String) (n : Int) : Document :=
  ⟨[], [.const type name (.integer n)]⟩

variable {type : FieldType} {name : String}

theorem stops_const (htype : s.TypeFits (depth + 1) type) (hname : IsName name.toList)
    (h : Number.isWritable n = false) :
    Stops (Reader.const (depth + 1)) (s.definition (.const type name (.integer n)) ++ left)
      (overlong n) := by
  have hafter : AfterType (name :: "=" :: (toString n :: "," :: left)) :=
    afterType_name hname (notAhead_cons.2 (by decide))
  simp only [Spelling.definition, Spelling.constant, List.append_assoc, List.cons_append,
    List.nil_append]
  exact .bind_of_reads (reads_word (by decide)) <|
    .bind_of_reads (reads_fieldType htype _ hafter) <| .bind_of_reads (reads_identifier hname) <|
    .bind_of_reads (reads_symbol (by decide)) (stops_constant h).bind

theorem stops_document (htype : s.TypeFits (depth + 1) type) (hname : IsName name.toList)
    (h : Number.isWritable n = false) :
    Stops (Reader.document options (depth + 1)) (s.document (constantDocument type name n))
      (overlong n) := by
  have htokens : s.document (constantDocument type name n) =
      s.definition (.const type name (.integer n)) ++ [] := by
    simp [Spelling.document, constantDocument]
  have hlayout : ∀ tokens, Reads Reader.layout tokens () tokens := fun tokens => by
    rw [Reads, Reader.layout_eq, skipLayout_ahead]
  have hheaders : Reads (Reader.many Reader.header)
      (([] : List Header).flatMap s.header ++ (s.definition (.const type name (.integer n)) ++ []))
      [] (s.definition (.const type name (.integer n)) ++ []) :=
    Reads.many (by simp) (fails_header (by decide))
  rw [htokens]
  exact .bind_of_reads (hlayout _) <| .bind_of_reads hheaders <|
    .bind (.many (.orElse (stops_const htype hname h)))

theorem areTokens_constantDocument (htype : s.TypeFits depth type) (hname : IsName name.toList) :
    AreTokens (s.document (constantDocument type name n)) := by
  simp only [Spelling.document, constantDocument, List.flatMap_nil, List.flatMap_cons,
    List.nil_append, List.append_nil, Spelling.definition, Spelling.constant, List.cons_append]
  exact .word (by decide) <| (areTokens_type htype).append <| .cons (isToken_name hname) <|
    .word (by decide) <| .cons (isToken_integer n) <| .word (by decide) .nil

/-- Reading a constant with an integer that has too many digits breaks off. -/
theorem ofText_overlong (htype : s.TypeFits limit type) (hname : IsName name.toList)
    (h : Number.isWritable n = false) (source : Option String) :
    Document.ofText limit options (s.text (constantDocument type name n)) source =
      .error (.stopped (overlong n)) := by
  have hstops : Reader.document options limit (ahead (s.document (constantDocument type name n)))
      = .stopped (overlong n) := by
    cases limit with
    | zero => cases htype
    | succ depth => exact stops_document htype hname h
  have hends := readingEnds_ofText limit options (s.text (constantDocument type name n)) source
  rw [stripComments_of_areTokens (areTokens_constantDocument htype hname), hstops] at hends
  generalize Document.ofText limit options _ source = r at hends ⊢
  cases hends
  rfl

end ThriftSchema.Canonical
