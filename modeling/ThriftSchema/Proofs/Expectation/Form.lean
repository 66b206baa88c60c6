import ThriftSchema.Production
import ThriftSchema.Proofs.Reader.Production

set_option autoImplicit false

/-! # The recognizer as a grammar over tokens

The recognizer is a rule over characters. Its tokens take the layout behind them, so that it can
be read as a form: a rule of ordered choice over tokens. A failure is noted at a token, and what
can be said of a token that is expected is said of the form it stands in.

* `Terminal`: the tokens, with what they read.
* `Head`: the tokens that a form has to decide by: the first ones of a choice, or two in a row.
* `Form`: sequences, choices and repetitions of heads.
* `Form.ofRule`: the form of a rule; `Form.header`, `Form.definition` and `Form.named?` are those
  of the recognizer.
-/

namespace ThriftSchema

open Reader (skipLayout)

/-! ## Tokens -/

/-- The kinds of lexemes. -/
inductive LexemeKind where
  | identifier
  | dashedIdentifier
  | literal
  | integer
  | hexadecimal
  | decimal
deriving DecidableEq

namespace LexemeKind

/-- The pattern of a kind. -/
def pattern : LexemeKind → Pattern
  | identifier => Pattern.identifier
  | dashedIdentifier => Pattern.dashedIdentifier
  | literal => Pattern.literal
  | integer => Pattern.integer
  | hexadecimal => Pattern.hexadecimal
  | decimal => Pattern.decimal

/-- A lexeme of a kind. A decimal without digits in front of the point does not start with an
integer. -/
def sample : LexemeKind → List Char
  | identifier | dashedIdentifier => ['n']
  | literal => ['\x22', '\x22']
  | integer => ['0']
  | hexadecimal => ['0', 'x', '0']
  | decimal => ['.', '5']

/-- The kind of a pattern, which is told by its expression. -/
def ofPattern? (p : Pattern) : Option LexemeKind :=
  [identifier, dashedIdentifier, literal, integer, hexadecimal, decimal].find? fun kind =>
    kind.pattern.regex == p.regex

end LexemeKind

/-- The tokens of a grammar, each with the layout behind it. -/
inductive Terminal where
  | word (text : String)
  | mark (text : String)
  | lexeme (label : String) (kind : LexemeKind)
  | oneOf (label : String) (words : List String)
  | separator (label : String)
deriving DecidableEq

namespace Terminal

/-- What a token is called where it is expected. -/
def label : Terminal → String
  | word text | mark text => Text.quote text
  | lexeme label _ | oneOf label _ | separator label => label

/-- The rule of a token, without what it builds. -/
def rule : Terminal → Production
  | word text => Production.word text
  | mark text => Production.symbol text
  | lexeme label kind => Rule.token label (Production.spaced (.pattern label kind.pattern))
  | oneOf label words => Rule.token label (Production.spaced (.firstOf (words.map .keyword)))
  | separator label => Production.spaced (.pattern label Pattern.separator)

/-- The length of a word that does not run on into a name. -/
def wordMeasure (text : String) (cs : List Char) : Option Nat :=
  if startsWithWord text.toList cs then some text.length else none

/-- The length of a token at the head of a text, without the layout behind it. -/
def measure : Terminal → List Char → Option Nat
  | word text, cs => wordMeasure text cs
  | mark text, cs => if text.toList.isPrefixOf cs then some text.length else none
  | lexeme _ kind, cs => kind.pattern.measure cs
  | oneOf _ words, cs => words.findSome? fun text => wordMeasure text cs
  | separator _, cs => Pattern.separator.measure cs

/-- What is left of a text behind a token at its head. -/
def read (t : Terminal) (cs : List Char) : Option (List Char) :=
  (t.measure cs).map fun n => skipLayout (cs.drop n)

/-- A text of a token. -/
def sample : Terminal → List Char
  | word text | mark text => text.toList
  | lexeme _ kind => kind.sample
  | oneOf _ words => (words.headD "").toList
  | separator _ => [';']

end Terminal

/-! ## Forms -/

/-- The tokens that a form decides by: a choice of tokens, or two tokens in a row, which fail
together. -/
inductive Head where
  | choice (ts : List Terminal)
  | pair (first second : Terminal)
deriving DecidableEq

namespace Head

/-- The rule of a head in front of the rest of a choice. -/
def before : Head → Production → Production
  | choice ts, rest => ts.foldr (fun t rule => .alt t.rule rule) rest
  | pair first second, rest => .alt (.seq first.rule (.seq second.rule .done)) rest

/-- The rule of a head. -/
def rule : Head → Production
  | choice [t] => t.rule
  | choice ts => (choice ts).before .never
  | pair first second => .seq first.rule (.seq second.rule .done)

/-- The tokens that a head starts with. -/
def terminals : Head → List Terminal
  | choice ts => ts
  | pair first _ => [first]

end Head

/-- Rules of ordered choice over tokens. -/
inductive Form where
  | lead (head : Head)
  | done
  | seq (first rest : Form)
  | never
  | alt (first rest : Form)
  | star (body : Form)
  | opt (body : Form)
  | ref (name : String)
deriving DecidableEq

namespace Form

/-- The rule of a form. -/
def rule : Form → Production
  | lead head => head.rule
  | done => .done
  | seq first rest => .seq first.rule rest.rule
  | never => .never
  | alt (lead head) rest => head.before rest.rule
  | alt first rest => .alt first.rule rest.rule
  | star body => .star body.rule
  | opt body => .opt body.rule
  | ref name => .ref name

/-- A sequence; two tokens that are all of it make one head. -/
def followedBy : Form → Form → Form
  | lead (.choice [t]), seq (lead (.choice [u])) done => lead (.pair t u)
  | first, rest => seq first rest

/-- A choice; tokens in a row make one head. -/
def orElse : Form → Form → Form
  | lead (.choice ts), alt (lead (.choice us)) rest => alt (lead (.choice (ts ++ us))) rest
  | first, rest => alt first rest

/-- The words of a choice of words. -/
def wordsOf : Production → List String
  | .alt (.keyword text) rest => text :: wordsOf rest
  | _ => []

/-- The form of a rule. A rule that has none becomes a form that fails. -/
def ofRule : Production → Form
  | .seq (.keyword text) _ => lead (.choice [.word text])
  | .seq (.literal text) _ => lead (.choice [.mark text])
  | .seq (.pattern label _) _ => lead (.choice [.separator label])
  | Rule.token label (.seq (.pattern _ p) _) =>
    match LexemeKind.ofPattern? p with
    | some kind => lead (.choice [.lexeme label kind])
    | none => never
  | Rule.token label (.seq rule _) => lead (.choice [.oneOf label (wordsOf rule)])
  | .done => done
  | .seq first rest => (ofRule first).followedBy (ofRule rest)
  | .alt first rest => (ofRule first).orElse (ofRule rest)
  | .star body => star (ofRule body)
  | .opt body => opt (ofRule body)
  | .ref name => ref name
  | _ => never

/-! ## The forms of the recognizer -/

/-- A header of a document. -/
def header : Form := ofRule Production.header.bare

/-- A definition of a document. -/
def definition : Form := ofRule (Production.definition { }).bare

/-- The forms that are referred to by name. -/
def named? (name : String) : Option Form := (Production.find? { } name).map fun r => ofRule r.bare

/-- The names that are referred to. -/
def names : List String := ["field type", "constant value", "field"]

theorem mem_names {name : String} {form : Form} (h : named? name = some form) : name ∈ names := by
  unfold named? Production.find? at h
  split at h
  · simp [names]
  · simp [names]
  · simp [names]
  · cases h

/-- What is checked of all names holds of the forms that are referred to. -/
theorem of_names {p : String → Form → Bool}
    (h : (names.all fun name => (named? name).all (p name)) = true) {name : String} {form : Form}
    (hfind : named? name = some form) : p name form = true := by
  have hname := List.all_eq_true.1 h name (mem_names hfind)
  rwa [hfind] at hname

theorem rule_header : header.rule = Production.header.bare := rfl

theorem rule_definition : definition.rule = (Production.definition { }).bare := rfl

theorem find?_rules (name : String) :
    (Production.rules { }).bare.find? name = (named? name).map rule := by
  show (Production.find? { } name).map Rule.bare = _
  unfold named? Production.find?
  split <;> rfl

end Form

end ThriftSchema
