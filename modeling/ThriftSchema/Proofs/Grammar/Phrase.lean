import ThriftSchema.Production
import ThriftSchema.Proofs.Text.Numeral

set_option autoImplicit false

/-! # The grammar of the interface language

What the texts of the language stand for, said without an order of choice: a phrase relates a
value to a text and to the text behind it. Tokens are lexemes of their classes with any layout
behind them, a word ends where a name could not go on, and a phrase with parts is its parts one
after the other. The grammar is ambiguous: nothing says that a lexeme is as long as it can be,
nor which of several phrases a text is read as.

* `TypePhrase`, `ConstantPhrase`, `FieldPhrase`: the phrases that contain themselves.
* `HeaderPhrase`, `DefinitionPhrase`: what a document consists of.
* `DocumentPhrase`: a whole text.
-/

namespace ThriftSchema.Grammar

open Number (Double)

variable {α : Type}

/-- What a value is written as: a text that starts with it, and the text behind it. -/
abbrev Phrase (α : Type) := α → List Char → List Char → Prop

/-! ## Tokens -/

/-- Layout between two places, or none. -/
inductive Blanks : List Char → List Char → Prop
  | intro {blanks rest : List Char} (hlayout : ∀ c ∈ blanks, Pattern.isLayout c = true) :
      Blanks (blanks ++ rest) rest

/-- A word of the language, which does not run on into a name. -/
inductive Word (word : String) : List Char → List Char → Prop
  | intro {after rest : List Char} (hboundary : NotAhead Pattern.isNameChar after)
      (hblanks : Blanks after rest) : Word word (word.toList ++ after) rest

/-- A punctuation mark. -/
inductive Symbol (mark : String) : List Char → List Char → Prop
  | intro {after rest : List Char} (hblanks : Blanks after rest) :
      Symbol mark (mark.toList ++ after) rest

/-- One of some words. -/
inductive OneOf (words : List String) : Phrase String
  | intro {word : String} {input rest : List Char} (hlisted : word ∈ words)
      (hword : Word word input rest) : OneOf words word input rest

/-- A name. -/
inductive Name : Phrase String
  | intro {lexeme after rest : List Char} (hname : IsName lexeme) (hblanks : Blanks after rest) :
      Name (String.ofList lexeme) (lexeme ++ after) rest

/-- A name that may hold dashes. -/
inductive DashedName : Phrase String
  | intro {lexeme after rest : List Char} (hname : IsDashedName lexeme)
      (hblanks : Blanks after rest) : DashedName (String.ofList lexeme) (lexeme ++ after) rest

/-- A text between two quotes. -/
inductive Quoted : Phrase String
  | intro {lexeme content after rest : List Char} (hquoted : IsQuoted lexeme content)
      (hblanks : Blanks after rest) : Quoted (String.ofList content) (lexeme ++ after) rest

/-- An integer in decimal digits. -/
inductive Decimal : Phrase Int
  | intro {lexeme after rest : List Char} {value : Int} (hinteger : IsInteger lexeme value)
      (hblanks : Blanks after rest) : Decimal value (lexeme ++ after) rest

/-- An integer in hexadecimal digits. -/
inductive Hexadecimal : Phrase Int
  | intro {lexeme after rest : List Char} {value : Int} (hinteger : IsHexadecimal lexeme value)
      (hblanks : Blanks after rest) : Hexadecimal value (lexeme ++ after) rest

/-- A number with a fraction or an exponent, and the double that its spelling is read as. -/
inductive Number : Phrase Double
  | intro {lexeme after rest : List Char} {value : Double} (hdecimal : IsDecimal lexeme)
      (hvalue : Double.read lexeme = some value) (hblanks : Blanks after rest) :
      Number value (lexeme ++ after) rest

/-! ## Putting phrases together -/

/-- A comma or a semicolon, or nothing. -/
inductive Separator : List Char → List Char → Prop
  | absent {input : List Char} : Separator input input
  | comma {input rest : List Char} (hmark : Symbol "," input rest) : Separator input rest
  | semicolon {input rest : List Char} (hmark : Symbol ";" input rest) : Separator input rest

/-- A phrase or nothing. -/
inductive Maybe (P : Phrase α) : Phrase (Option α)
  | absent {input : List Char} : Maybe P none input input
  | present {a : α} {input rest : List Char} (hphrase : P a input rest) :
      Maybe P (some a) input rest

/-- Whether a word is there. -/
inductive Flag (word : String) : Phrase Bool
  | absent {input : List Char} : Flag word false input input
  | present {input rest : List Char} (hword : Word word input rest) : Flag word true input rest

/-- Phrases one after the other. -/
inductive Many (P : Phrase α) : Phrase (List α)
  | nil {input : List Char} : Many P [] input input
  | cons {a : α} {as : List α} {input middle rest : List Char} (hhead : P a input middle)
      (htail : Many P as middle rest) : Many P (a :: as) input rest

/-- A phrase and the separator behind it. -/
inductive Item (P : Phrase α) : Phrase α
  | intro {a : α} {input middle rest : List Char} (hphrase : P a input middle)
      (hseparator : Separator middle rest) : Item P a input rest

/-- A phrase behind an equals sign. -/
inductive Assigned (P : Phrase α) : Phrase α
  | intro {a : α} {input middle rest : List Char} (hmark : Symbol "=" input middle)
      (hphrase : P a middle rest) : Assigned P a input rest

/-! ## Types and constants -/

/-- A hint for the type that implements a container. -/
inductive HintPhrase : Phrase String
  | intro {hint : String} {input middle rest : List Char} (hword : Word "cpp_type" input middle)
      (htext : Quoted hint middle rest) : HintPhrase hint input rest

/-- A base type, a name, or a container with its hint. -/
inductive TypePhrase : Phrase FieldType
  | base {name : String} {input rest : List Char}
      (hword : OneOf Production.baseTypeNames name input rest) : TypePhrase (.base name) input rest
  | named {name : String} {input rest : List Char} (hname : Name name input rest) :
      TypePhrase (.named name) input rest
  | map {key value : FieldType} {hint : Option String} {input a b c d e f rest : List Char}
      (hword : Word "map" input a) (hhint : Maybe HintPhrase hint a b) (hopener : Symbol "<" b c)
      (hkey : TypePhrase key c d) (hcomma : Symbol "," d e) (hvalue : TypePhrase value e f)
      (hcloser : Symbol ">" f rest) : TypePhrase (.map key value hint) input rest
  | set {element : FieldType} {hint : Option String} {input a b c d rest : List Char}
      (hword : Word "set" input a) (hhint : Maybe HintPhrase hint a b) (hopener : Symbol "<" b c)
      (helement : TypePhrase element c d) (hcloser : Symbol ">" d rest) :
      TypePhrase (.set element hint) input rest
  | list {element : FieldType} {hint : Option String} {input a b c d rest : List Char}
      (hword : Word "list" input a) (hopener : Symbol "<" a b) (helement : TypePhrase element b c)
      (hcloser : Symbol ">" c d) (hhint : Maybe HintPhrase hint d rest) :
      TypePhrase (.list element hint) input rest

/-- A type that is not a mere name. -/
inductive DefinitionTypePhrase : Phrase FieldType
  | intro {type : FieldType} {input rest : List Char} (hphrase : TypePhrase type input rest)
      (hbuiltIn : ∀ name, type ≠ .named name) : DefinitionTypePhrase type input rest

/-- What a function returns. -/
inductive ReturnPhrase : Phrase ReturnType
  | void {input rest : List Char} (hword : Word "void" input rest) :
      ReturnPhrase .void input rest
  | type {type : FieldType} {input rest : List Char} (hphrase : TypePhrase type input rest) :
      ReturnPhrase (.type type) input rest

/-- A key and its value. -/
inductive PairPhrase (P : Phrase ConstValue) : Phrase (ConstValue × ConstValue)
  | intro {key value : ConstValue} {input a b rest : List Char} (hkey : P key input a)
      (hcolon : Symbol ":" a b) (hvalue : P value b rest) : PairPhrase P (key, value) input rest

/-- A constant. -/
inductive ConstantPhrase : Phrase ConstValue
  | hexadecimal {value : Int} {input rest : List Char} (hnumber : Hexadecimal value input rest) :
      ConstantPhrase (.integer value) input rest
  | double {value : Double} {input rest : List Char} (hnumber : Number value input rest) :
      ConstantPhrase (.double value) input rest
  | decimal {value : Int} {input rest : List Char} (hnumber : Decimal value input rest) :
      ConstantPhrase (.integer value) input rest
  | literal {text : String} {input rest : List Char} (htext : Quoted text input rest) :
      ConstantPhrase (.literal text) input rest
  | reference {name : String} {input rest : List Char} (hname : Name name input rest) :
      ConstantPhrase (.reference name) input rest
  | list {values : List ConstValue} {input a b rest : List Char} (hopener : Symbol "[" input a)
      (hvalues : Many (Item ConstantPhrase) values a b) (hcloser : Symbol "]" b rest) :
      ConstantPhrase (.list values) input rest
  | map {entries : List (ConstValue × ConstValue)} {input a b rest : List Char}
      (hopener : Symbol "\x7b" input a)
      (hentries : Many (Item (PairPhrase ConstantPhrase)) entries a b)
      (hcloser : Symbol "\x7d" b rest) : ConstantPhrase (.map entries) input rest

/-! ## Fields and functions -/

/-- The number of a field. -/
inductive IdPhrase : Phrase Int
  | intro {id : Int} {input middle rest : List Char} (hnumber : Decimal id input middle)
      (hcolon : Symbol ":" middle rest) : IdPhrase id input rest

/-- Whether a field is required. -/
inductive RequirednessPhrase : Phrase Requiredness
  | required {input rest : List Char} (hword : Word "required" input rest) :
      RequirednessPhrase .required input rest
  | optional {input rest : List Char} (hword : Word "optional" input rest) :
      RequirednessPhrase .optional input rest

/-- A word and phrases for fields between two marks. -/
inductive BlockPhrase (word opener closer : String) (P : Phrase Field) : Phrase (List Field)
  | intro {fields : List Field} {input a b c rest : List Char} (hword : Word word input a)
      (hopener : Symbol opener a b) (hfields : Many P fields b c) (hcloser : Symbol closer c rest) :
      BlockPhrase word opener closer P fields input rest

/-- The export options that the words and the block of a field stand for: there are some if any
of the three is there, and a block without fields counts only for that. -/
def exportOptions (isOptional isNillable : Bool) (attributes : Option (List Field)) :
    Option (ExportOptions Field) :=
  if isOptional || isNillable || attributes.isSome then
    some ⟨isOptional, isNillable, attributes.getD []⟩
  else none

/-- A field. -/
inductive FieldPhrase : Phrase Field
  | intro {id : Option Int} {requiredness : Option Requiredness} {type : FieldType}
      {name : String} {default : Option ConstValue} {isOptional isNillable : Bool}
      {attributes : Option (List Field)} {input a b c d e f g h rest : List Char}
      (hid : Maybe IdPhrase id input a)
      (hrequiredness : Maybe RequirednessPhrase requiredness a b) (htype : TypePhrase type b c)
      (hname : Name name c d) (hdefault : Maybe (Assigned ConstantPhrase) default d e)
      (hisOptional : Flag "xsd_optional" isOptional e f)
      (hisNillable : Flag "xsd_nillable" isNillable f g)
      (hattributes : Maybe (BlockPhrase "xsd_attrs" "\x7b" "\x7d" FieldPhrase) attributes g h)
      (hseparator : Separator h rest) :
      FieldPhrase ⟨type, name, id, default, requiredness,
        exportOptions isOptional isNillable attributes⟩ input rest

/-- A function. -/
inductive FunctionPhrase : Phrase Function
  | intro {oneway : Bool} {returns : ReturnType} {name : String} {arguments : List Field}
      {throws : Option (List Field)} {input a b c d e f g rest : List Char}
      (honeway : Flag "oneway" oneway input a) (hreturns : ReturnPhrase returns a b)
      (hname : Name name b c) (hopener : Symbol "(" c d)
      (harguments : Many FieldPhrase arguments d e) (hcloser : Symbol ")" e f)
      (hthrows : Maybe (BlockPhrase "throws" "(" ")" FieldPhrase) throws f g)
      (hseparator : Separator g rest) :
      FunctionPhrase ⟨returns, name, arguments, throws, oneway⟩ input rest

/-! ## Definitions -/

/-- The number of a value of an enumeration. -/
inductive NumberPhrase : Phrase Int
  | hexadecimal {value : Int} {input rest : List Char} (hnumber : Hexadecimal value input rest) :
      NumberPhrase value input rest
  | decimal {value : Int} {input rest : List Char} (hnumber : Decimal value input rest) :
      NumberPhrase value input rest

/-- A value of an enumeration. -/
inductive EnumValuePhrase : Phrase EnumValue
  | intro {name : String} {value : Option Int} {input a b rest : List Char}
      (hname : Name name input a) (hvalue : Maybe (Assigned NumberPhrase) value a b)
      (hseparator : Separator b rest) : EnumValuePhrase ⟨name, value, false⟩ input rest

/-- A parent of a service. -/
inductive ParentPhrase : Phrase String
  | intro {name : String} {input middle rest : List Char} (hword : Word "extends" input middle)
      (hname : Name name middle rest) : ParentPhrase name input rest

/-- A definition. -/
inductive DefinitionPhrase : Phrase Definition
  | const {type : FieldType} {name : String} {value : ConstValue}
      {input a b c d e rest : List Char} (hword : Word "const" input a)
      (htype : TypePhrase type a b) (hname : Name name b c) (hequals : Symbol "=" c d)
      (hvalue : ConstantPhrase value d e) (hseparator : Separator e rest) :
      DefinitionPhrase (.const type name value) input rest
  | typedef {type : FieldType} {name : String} {input a b c rest : List Char}
      (hword : Word "typedef" input a) (htype : DefinitionTypePhrase type a b)
      (hname : Name name b c) (hseparator : Separator c rest) :
      DefinitionPhrase (.typedef type name) input rest
  | enum {name : String} {values : List EnumValue} {input a b c d rest : List Char}
      (hword : Word "enum" input a) (hname : Name name a b) (hopener : Symbol "\x7b" b c)
      (hvalues : Many EnumValuePhrase values c d) (hcloser : Symbol "\x7d" d rest) :
      DefinitionPhrase (.enum name values) input rest
  | senum {name : String} {values : List String} {input a b c d rest : List Char}
      (hword : Word "senum" input a) (hname : Name name a b) (hopener : Symbol "\x7b" b c)
      (hvalues : Many (Item Quoted) values c d) (hcloser : Symbol "\x7d" d rest) :
      DefinitionPhrase (.senum name values) input rest
  | struct {name : String} {fields : List Field} {exportAll : Bool}
      {input a b c d e rest : List Char} (hword : Word "struct" input a) (hname : Name name a b)
      (hexportAll : Flag "xsd_all" exportAll b c) (hopener : Symbol "\x7b" c d)
      (hfields : Many FieldPhrase fields d e) (hcloser : Symbol "\x7d" e rest) :
      DefinitionPhrase (.struct name fields exportAll) input rest
  | union {name : String} {fields : List Field} {exportAll : Bool}
      {input a b c d e rest : List Char} (hword : Word "union" input a) (hname : Name name a b)
      (hexportAll : Flag "xsd_all" exportAll b c) (hopener : Symbol "\x7b" c d)
      (hfields : Many FieldPhrase fields d e) (hcloser : Symbol "\x7d" e rest) :
      DefinitionPhrase (.union name fields exportAll) input rest
  | exception {name : String} {fields : List Field} {input a b c d rest : List Char}
      (hword : Word "exception" input a) (hname : Name name a b) (hopener : Symbol "\x7b" b c)
      (hfields : Many FieldPhrase fields c d) (hcloser : Symbol "\x7d" d rest) :
      DefinitionPhrase (.exception name fields) input rest
  | service {name : String} {parent : Option String} {functions : List Function}
      {input a b c d e rest : List Char} (hword : Word "service" input a) (hname : Name name a b)
      (hparent : Maybe ParentPhrase parent b c) (hopener : Symbol "\x7b" c d)
      (hfunctions : Many FunctionPhrase functions d e) (hcloser : Symbol "\x7d" e rest) :
      DefinitionPhrase (.service name parent functions) input rest

/-! ## Headers and documents -/

/-- A header. -/
inductive HeaderPhrase : Phrase Header
  | include {path : String} {input a rest : List Char} (hword : Word "include" input a)
      (hpath : Quoted path a rest) : HeaderPhrase (.include path) input rest
  | cppInclude {path : String} {input a rest : List Char} (hword : Word "cpp_include" input a)
      (hpath : Quoted path a rest) : HeaderPhrase (.cppInclude path) input rest
  | scoped {scope name : String} {input a b rest : List Char} (hword : Word "namespace" input a)
      (hscope : OneOf Production.namespaceScopes scope a b) (hname : Name name b rest) :
      HeaderPhrase (.targetNamespace scope name) input rest
  | smalltalkCategory {name : String} {input a b rest : List Char}
      (hword : Word "namespace" input a) (hcategory : Word "smalltalk.category" a b)
      (hname : DashedName name b rest) : HeaderPhrase (.smalltalkCategory name) input rest
  | smalltalkPrefix {name : String} {input a b rest : List Char}
      (hword : Word "namespace" input a) (hmark : Word "smalltalk.prefix" a b)
      (hname : Name name b rest) : HeaderPhrase (.smalltalkPrefix name) input rest
  | phpNamespace {name : String} {input a rest : List Char}
      (hword : Word "php_namespace" input a) (hname : Quoted name a rest) :
      HeaderPhrase (.phpNamespace (Text.trim name)) input rest
  | xsdNamespace {name : String} {input a rest : List Char}
      (hword : Word "xsd_namespace" input a) (hname : Quoted name a rest) :
      HeaderPhrase (.xsdNamespace (Text.trim name)) input rest

/-- A document: layout, headers, definitions, and nothing behind them. -/
inductive DocumentPhrase : Document → List Char → Prop
  | intro {headers : List Header} {definitions : List Definition} {input a b : List Char}
      (hblanks : Blanks input a) (hheaders : Many HeaderPhrase headers a b)
      (hdefinitions : Many DefinitionPhrase definitions b []) :
      DocumentPhrase ⟨headers, definitions⟩ input

end ThriftSchema.Grammar
