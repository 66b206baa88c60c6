set_option autoImplicit false

/-! # Comments

Before a text is matched its comments are taken out. A scan divides the text into tokens: block
comments, line comments, quoted strings, runs of other text, and single slashes and quotes that
open nothing. A string is opaque, so that what looks like a comment inside it is kept; a line
comment ends before its newline, so that lines keep their numbers after it.

* `Token`: a kind and the characters.
* `Token.next`: the token at the head of a text.
* `Token.scan`: all tokens of a text; their characters are the text.
* `stripComments`: the text without its comments.
-/

namespace ThriftSchema

namespace Comment

/-- The kinds of tokens. -/
inductive TokenKind where
  | block
  | line
  | string
  | text
  | stray
deriving DecidableEq, Repr

/-- Whether a kind is a comment. -/
def TokenKind.isComment : TokenKind → Bool
  | .block | .line => true
  | .string | .text | .stray => false

/-- A part of a text. -/
structure Token where
  kind : TokenKind
  chars : List Char
deriving DecidableEq, Repr

/-- The characters that can open something else than plain text. -/
def isOpener (c : Char) : Bool :=
  c == '/' || c == '\x22' || c == '\x27'

/-- What is in front of the first `*/` and what is behind it, if there is one. -/
def splitAtClose : List Char → Option (List Char × List Char)
  | '*' :: '/' :: rest => some ([], rest)
  | c :: cs => (splitAtClose cs).map fun (content, rest) => (c :: content, rest)
  | [] => none

/-- The token at the head of a text that starts with `c`, and the text behind it. A block
comment ends at the first `*/`, a string at the next equal quote; where they are missing, the
first character is a stray. -/
def Token.next (c : Char) (cs : List Char) : Token × List Char :=
  match c, cs with
  | '/', '*' :: after =>
    match splitAtClose after with
    | some (content, rest) => (⟨.block, '/' :: '*' :: (content ++ ['*', '/'])⟩, rest)
    | none => (⟨.stray, [c]⟩, cs)
  | '/', '/' :: after =>
    (⟨.line, '/' :: '/' :: after.takeWhile (· != '\n')⟩, after.dropWhile (· != '\n'))
  | _, _ =>
    if c == '/' then (⟨.stray, [c]⟩, cs)
    else if c == '\x22' || c == '\x27' then
      match cs.dropWhile (· != c) with
      | quote :: rest => (⟨.string, c :: (cs.takeWhile (· != c) ++ [quote])⟩, rest)
      | [] => (⟨.stray, [c]⟩, cs)
    else
      (⟨.text, c :: cs.takeWhile (fun d => !isOpener d)⟩, cs.dropWhile fun d => !isOpener d)

/-- What is behind a closing mark is shorter than the text. -/
theorem length_splitAtClose {cs content rest : List Char}
    (h : splitAtClose cs = some (content, rest)) : rest.length < cs.length := by
  fun_induction splitAtClose cs generalizing content with
  | case1 after =>
    obtain ⟨_, rfl⟩ := Prod.mk.inj (Option.some.inj h)
    simp only [List.length_cons]
    omega
  | case2 c cs _ ih =>
    obtain ⟨⟨content', rest'⟩, hs, heq⟩ := Option.map_eq_some_iff.1 h
    simp only [Prod.mk.injEq] at heq
    obtain ⟨_, rfl⟩ := heq
    have := ih hs
    simp only [List.length_cons]
    omega
  | case3 => simp at h

/-- Dropping a run makes no list longer. -/
theorem length_dropWhile_le {α : Type} (p : α → Bool) (l : List α) :
    (l.dropWhile p).length ≤ l.length := by
  induction l with
  | nil => simp
  | cons a l ih =>
    rw [List.dropWhile_cons]
    split
    · simp only [List.length_cons]; omega
    · simp

/-- A token takes at least one character. -/
theorem length_next_lt (c : Char) (cs : List Char) :
    (Token.next c cs).2.length ≤ cs.length := by
  unfold Token.next
  split
  · split
    · next h => have := length_splitAtClose h; simp only [List.length_cons]; omega
    · exact Nat.le_refl _
  · simp only [List.length_cons]
    exact Nat.le_succ_of_le (length_dropWhile_le _ _)
  · split
    · exact Nat.le_refl _
    · split
      · split
        · next h =>
          have := length_dropWhile_le (· != c) cs
          rw [h] at this
          simp only [List.length_cons] at this
          simp only
          omega
        · exact Nat.le_refl _
      · exact length_dropWhile_le _ _

/-- The tokens of a text. -/
def Token.scan : List Char → List Token
  | [] => []
  | c :: cs => (Token.next c cs).1 :: Token.scan (Token.next c cs).2
termination_by cs => cs.length
decreasing_by
  have := length_next_lt c cs
  simp only [List.length_cons]
  omega

/-- The characters of a text without its comments. -/
def strip (cs : List Char) : List Char :=
  (Token.scan cs).flatMap fun token => if token.kind.isComment then [] else token.chars

end Comment

/-- A text without its comments. -/
def stripComments (text : String) : String :=
  String.ofList (Comment.strip text.toList)

end ThriftSchema
