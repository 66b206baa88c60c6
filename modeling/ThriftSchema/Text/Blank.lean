set_option autoImplicit false

/-! # Blank characters and trimming

A leaf of the grammar keeps the text it matched without the blanks around it, and a `php` or
`xsd` namespace keeps its literal the same way. What counts as blank is the property of
Unicode white space together with the four ASCII separators `1C` to `1F`.

* `isBlank`: the class.
* `trimBlanks`: a text without the blanks at its two ends.
* `wordsOf`: the runs of other characters.
-/

namespace ThriftSchema.Text

/-- A character is blank if Unicode calls it white space or ASCII calls it a separator. -/
def isBlank (c : Char) : Bool :=
  let n := c.toNat
  (9 ≤ n && n ≤ 13) || (28 ≤ n && n ≤ 32) || n == 0x85 || n == 0xA0 || n == 0x1680
    || (0x2000 ≤ n && n ≤ 0x200A) || n == 0x2028 || n == 0x2029 || n == 0x202F
    || n == 0x205F || n == 0x3000

/-- The characters of a text without the blanks at its end. -/
def dropBlanksRight (cs : List Char) : List Char :=
  (cs.reverse.dropWhile isBlank).reverse

/-- The characters of a text without the blanks at its two ends. -/
def trimBlanks (cs : List Char) : List Char :=
  dropBlanksRight (cs.dropWhile isBlank)

/-- A text without the blanks at its two ends. -/
def trim (text : String) : String :=
  String.ofList (trimBlanks text.toList)

/-- The runs of characters that are not blank, in front of which some were read already, the last
one of them first. -/
def wordsFrom : List Char → List Char → List String
  | [], [] => []
  | word, [] => [String.ofList word.reverse]
  | word, c :: cs =>
    if isBlank c then
      if word.isEmpty then wordsFrom [] cs else String.ofList word.reverse :: wordsFrom [] cs
    else wordsFrom (c :: word) cs

/-- The runs of characters that are not blank. -/
def wordsOf (cs : List Char) : List String := wordsFrom [] cs

end ThriftSchema.Text
