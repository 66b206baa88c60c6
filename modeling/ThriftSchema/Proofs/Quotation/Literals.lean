import ThriftSchema.Proofs.Text.Scan
import ThriftSchema.Schema.Document
import ThriftSchema.Text.Blank

set_option autoImplicit false

/-! # The literals of a document

A document has its literals in the order of its productions: the paths and names of headers, the
hints of containers, literal constants at every depth, the values of enumerations of literals. A
text shows them if they are what its quoted strings hold, one after the other, and no other
character opens anything. Such a text scans into its strings and what stands between them.

* `Document.literals`: the literals of a document.
* `Shows`: a text and the literals in it.
* `Shows.literals_of_scan`: what a scan of such a text finds.
-/

namespace ThriftSchema

open Comment (Token)

/-! ## Literals -/

/-- A literal of a document. -/
inductive Literal where
  /-- What stands between the quotes. -/
  | whole (text : String)
  /-- What stands between the quotes without the blanks around it. -/
  | trimmed (text : String)

/-- The literal is what is made of the content between two quotes. -/
def Literal.IsOf : Literal → String → Prop
  | whole text, content => content = text
  | trimmed text, content => Text.trim content = text

/-- The literal of a hint. -/
def hintLiterals (hint : Option String) : List Literal := hint.toList.map .whole

/-- The literals of a type. The hint of a list stands behind its element, the others stand in
front. -/
def FieldType.literals : FieldType → List Literal
  | named _ | base _ => []
  | map key value hint => hintLiterals hint ++ (key.literals ++ value.literals)
  | set element hint => hintLiterals hint ++ element.literals
  | list element hint => element.literals ++ hintLiterals hint

/-- The literals of what a function returns. -/
def ReturnType.literals : ReturnType → List Literal
  | .void => []
  | .type t => t.literals

mutual

/-- The literals of a constant. -/
def ConstValue.literals : ConstValue → List Literal
  | .integer _ | .double _ | .reference _ => []
  | .literal text => [.whole text]
  | .list values => itemLiterals values
  | .map entries => entryLiterals entries

/-- The literals of constants. -/
def itemLiterals : List ConstValue → List Literal
  | [] => []
  | value :: values => value.literals ++ itemLiterals values

/-- The literals of keys and their values. -/
def entryLiterals : List (ConstValue × ConstValue) → List Literal
  | [] => []
  | (key, value) :: entries => key.literals ++ value.literals ++ entryLiterals entries

end

mutual

/-- The literals of a field. -/
def Field.literals : Field → List Literal
  | ⟨type, _, _, default, _, exported⟩ =>
    type.literals ++ (default.toList.flatMap ConstValue.literals ++ exportedLiterals exported)

/-- The literals of export options, which stand in the attributes. -/
def exportedLiterals : Option (ExportOptions Field) → List Literal
  | none => []
  | some ⟨_, _, attributes⟩ => fieldLiterals attributes

/-- The literals of fields. -/
def fieldLiterals : List Field → List Literal
  | [] => []
  | f :: fs => f.literals ++ fieldLiterals fs

end

theorem itemLiterals_eq (values : List ConstValue) :
    itemLiterals values = values.flatMap ConstValue.literals := by
  induction values with
  | nil => rfl
  | cons value values ih => rw [itemLiterals, ih, List.flatMap_cons]

/-- The literals of a key and its value. -/
def entryOfLiterals (entry : ConstValue × ConstValue) : List Literal :=
  entry.1.literals ++ entry.2.literals

theorem entryLiterals_eq (entries : List (ConstValue × ConstValue)) :
    entryLiterals entries = entries.flatMap entryOfLiterals := by
  induction entries with
  | nil => rfl
  | cons entry entries ih => rw [entryLiterals, ih, List.flatMap_cons, entryOfLiterals]

theorem fieldLiterals_eq (fields : List Field) :
    fieldLiterals fields = fields.flatMap Field.literals := by
  induction fields with
  | nil => rfl
  | cons f fields ih => rw [fieldLiterals, ih, List.flatMap_cons]

/-- The literals of a function. -/
def Function.literals (f : Function) : List Literal :=
  f.returns.literals ++
    (f.arguments.flatMap Field.literals ++ (f.throws.getD []).flatMap Field.literals)

/-- The literals of a definition. -/
def Definition.literals : Definition → List Literal
  | const type _ value => type.literals ++ value.literals
  | typedef type _ => type.literals
  | enum _ _ => []
  | senum _ values => values.map .whole
  | struct _ fields _ | union _ fields _ | exception _ fields => fields.flatMap Field.literals
  | service _ _ functions => functions.flatMap Function.literals

/-- The literals of a header. -/
def Header.literals : Header → List Literal
  | .include path | .cppInclude path => [.whole path]
  | .phpNamespace name | .xsdNamespace name => [.trimmed name]
  | .targetNamespace _ _ | .smalltalkCategory _ | .smalltalkPrefix _ => []

/-- The literals of a document, in the order of the productions. -/
def Document.literals (d : Document) : List Literal :=
  d.headers.flatMap Header.literals ++ d.definitions.flatMap Definition.literals

/-! ## Texts that show literals -/

/-- The literals are what the quoted strings of the text hold; nothing between them opens a
string or a comment. -/
inductive Shows : List Char → List Literal → Prop
  | nil : Shows [] []
  | cons {c : Char} {cs : List Char} {literals : List Literal}
      (hc : Comment.isOpener c = false) (hcs : Shows cs literals) : Shows (c :: cs) literals
  | quoted {quoted content cs : List Char} {literal : Literal} {literals : List Literal}
      (hquoted : IsQuoted quoted content) (hliteral : literal.IsOf (String.ofList content))
      (hcs : Shows cs literals) : Shows (quoted ++ cs) (literal :: literals)

/-- What is in a token between its first and its last character. -/
def Comment.Token.content (token : Token) : String :=
  String.ofList (token.chars.drop 1).dropLast

/-- The tokens of a kind. -/
def Comment.ofKind (kind : TokenKind) (tokens : List Token) : List Token :=
  tokens.filter fun token => token.kind == kind

/-- The tokens of a kind, where a run of text may have been joined. -/
theorem Comment.ofKind_joinText {kind : TokenKind} (h : kind ≠ .text) (tokens : List Token) :
    ofKind kind (joinText tokens) = ofKind kind tokens :=
  filter_joinText (fun token htext => by simpa [htext] using h.symm) tokens

namespace Shows

variable {cs ds : List Char} {literals more : List Literal}

theorem append (hcs : Shows cs literals) (hds : Shows ds more) :
    Shows (cs ++ ds) (literals ++ more) := by
  induction hcs with
  | nil => exact hds
  | cons hc _ ih => exact .cons hc ih
  | quoted hquoted hliteral _ ih =>
      rw [List.append_assoc, List.cons_append]
      exact .quoted hquoted hliteral ih

theorem of_forall (h : ∀ c ∈ cs, Comment.isOpener c = false) : Shows cs [] := by
  induction cs with
  | nil => exact .nil
  | cons c cs ih =>
      exact .cons (h c (List.mem_cons_self ..)) (ih fun d hd => h d (List.mem_cons_of_mem _ hd))

/-- A character that opens nothing makes a run of text longer, or one of its own. -/
theorem ofKind_scan_cons {kind : Comment.TokenKind} (hkind : kind ≠ .text) {c : Char}
    (hc : Comment.isOpener c = false) (cs : List Char) :
    Comment.ofKind kind (Token.scan (c :: cs)) = Comment.ofKind kind (Token.scan cs) := by
  have hscan : Token.scan (c :: cs) = Token.joinTo ⟨.text, [c]⟩ (Token.scan cs) :=
    Comment.scan_run_append hc (List.forall_mem_nil _) cs
  rw [hscan, Comment.ofKind, Comment.filter_joinTo fun token htext => by
    simpa [htext] using hkind.symm]
  exact List.filter_cons_of_neg (by simpa using hkind.symm)

/-- Such a text scans into its strings and other text, and the strings hold the literals. -/
theorem literals_of_scan (h : Shows cs literals) :
    Comment.ofKind .stray (Token.scan cs) = [] ∧
      List.Forall₂ Literal.IsOf literals
        ((Comment.ofKind .string (Token.scan cs)).map Token.content) := by
  induction h with
  | nil =>
      rw [Token.scan]
      exact ⟨rfl, .nil⟩
  | cons hc _ ih =>
      rw [ofKind_scan_cons (by decide) hc, ofKind_scan_cons (by decide) hc]
      exact ih
  | @quoted quoted content cs literal literals hquoted hliteral _ ih =>
      cases hquoted with
      | @intro mark _ quote absent =>
          have hsplit : mark :: (content ++ [mark]) ++ cs = mark :: (content ++ mark :: cs) := by
            simp
          have hcontent : Token.content ⟨.string, mark :: (content ++ [mark])⟩ =
              String.ofList content := by simp [Token.content]
          rw [hsplit, (Comment.NextToken.string quote absent).scan_eq]
          refine ⟨ih.1, ?_⟩
          show List.Forall₂ _ _ (Token.content _ :: _)
          rw [hcontent]
          exact .cons hliteral ih.2

end Shows

end ThriftSchema
