import ThriftSchema.Number.Integer
import ThriftSchema.Text.LowerCase

set_option autoImplicit false

/-! # Colours

A colour is a name, six hexadecimal digits behind a hash sign, a number of the palette, or three
components. It is known by its text in lower case.

* `readColor`: whether a text is a colour.
-/

namespace ThriftSchema.Teletype

open Text

/-! ## Names -/

/-- The names of colours besides the shades of grey. -/
def colorNames : List String := [
  "black", "red", "green", "yellow", "blue", "magenta", "cyan", "white", "bright_black",
  "bright_red", "bright_green", "bright_yellow", "bright_blue", "bright_magenta", "bright_cyan",
  "bright_white", "navy_blue", "dark_blue", "blue3", "blue1", "dark_green", "deep_sky_blue4",
  "dodger_blue3", "dodger_blue2", "green4", "spring_green4", "turquoise4", "deep_sky_blue3",
  "dodger_blue1", "green3", "spring_green3", "dark_cyan", "light_sea_green", "deep_sky_blue2",
  "deep_sky_blue1", "spring_green2", "cyan3", "dark_turquoise", "turquoise2", "green1",
  "spring_green1", "medium_spring_green", "cyan2", "cyan1", "dark_red", "deep_pink4", "purple4",
  "purple3", "blue_violet", "orange4", "medium_purple4", "slate_blue3", "royal_blue1",
  "chartreuse4", "dark_sea_green4", "pale_turquoise4", "steel_blue", "steel_blue3",
  "cornflower_blue", "chartreuse3", "cadet_blue", "sky_blue3", "steel_blue1", "pale_green3",
  "sea_green3", "aquamarine3", "medium_turquoise", "chartreuse2", "sea_green2", "sea_green1",
  "aquamarine1", "dark_slate_gray2", "dark_magenta", "dark_violet", "purple", "light_pink4",
  "plum4", "medium_purple3", "slate_blue1", "yellow4", "wheat4", "light_slate_grey",
  "light_slate_gray", "medium_purple", "light_slate_blue", "dark_olive_green3",
  "dark_sea_green", "light_sky_blue3", "sky_blue2", "dark_sea_green3", "dark_slate_gray3",
  "sky_blue1", "chartreuse1", "light_green", "pale_green1", "dark_slate_gray1", "red3",
  "medium_violet_red", "magenta3", "dark_orange3", "indian_red", "hot_pink3", "medium_orchid3",
  "medium_orchid", "medium_purple2", "dark_goldenrod", "light_salmon3", "rosy_brown",
  "medium_purple1", "gold3", "dark_khaki", "navajo_white3", "light_steel_blue3",
  "light_steel_blue", "yellow3", "light_cyan3", "light_sky_blue1", "green_yellow",
  "dark_olive_green2", "dark_sea_green2", "dark_sea_green1", "pale_turquoise1", "deep_pink3",
  "magenta2", "hot_pink2", "orchid", "medium_orchid1", "orange3", "light_pink3", "pink3",
  "plum3", "violet", "light_goldenrod3", "tan", "misty_rose3", "thistle3", "plum2", "khaki3",
  "light_goldenrod2", "light_yellow3", "light_steel_blue1", "yellow2", "dark_olive_green1",
  "honeydew2", "light_cyan1", "red1", "deep_pink2", "deep_pink1", "magenta1", "orange_red1",
  "indian_red1", "hot_pink", "dark_orange", "salmon1", "light_coral", "pale_violet_red1",
  "orchid2", "orchid1", "orange1", "sandy_brown", "light_salmon1", "light_pink1", "pink1",
  "plum1", "gold1", "navajo_white1", "misty_rose1", "thistle1", "yellow1", "light_goldenrod1",
  "khaki1", "wheat1", "cornsilk1"]

/-- The shades of grey, which have a name in each of the two spellings. -/
def shades : List String := [
  "0", "37", "53", "63", "69", "84", "100", "3", "7", "11", "15", "19", "23", "27", "30", "35",
  "39", "42", "46", "50", "54", "58", "62", "66", "70", "74", "78", "82", "85", "89", "93"]

/-- Whether a text is the name of a colour. -/
def isColorName (name : String) : Bool :=
  name = "default" || colorNames.contains name
    || shades.any fun shade => name = "grey" ++ shade || name = "gray" ++ shade

/-! ## Numbers -/

/-- Why a text is no colour. -/
inductive ColorError where
  | unknown
  /-- A component that is no number. -/
  | notNumber (component : String)
deriving DecidableEq, Repr

/-- The text inside a call of a name. -/
def argumentOf? (name : String) (text : List Char) : Option (List Char) :=
  let start := name.toList ++ ['(']
  if start.isPrefixOf text && text.getLast? = some ')' then
    some ((text.drop start.length).dropLast)
  else none

/-- Whether characters are six hexadecimal digits in lower case. -/
def isHexColor (cs : List Char) : Bool :=
  cs.length = 6 && cs.all fun c => c.isDigit || ('a' ≤ c && c ≤ 'f')

/-- Whether characters are a number of the palette. -/
def isPaletteNumber (cs : List Char) : Bool :=
  cs.length ≤ 3 && cs.all Char.isDigit
    && (Number.readNumeral 10 cs).any (· ≤ 255)

/-- The components of three, each at most 255, or why they are none. -/
def readComponents (cs : List Char) : Except ColorError Unit :=
  match splitChars ',' cs with
  | [red, green, blue] => do
    let numbers ← [red, green, blue].mapM fun component =>
      match Number.readDecimal component with
      | .ok n => pure n
      | .error _ => throw (.notNumber (String.ofList component))
    if numbers.all (· ≤ 255) then return () else throw .unknown
  | _ => .error .unknown

/-- Whether a text in lower case is a colour. -/
def readColor (text : String) : Except ColorError Unit :=
  let answer (isColor : Bool) : Except ColorError Unit :=
    if isColor then .ok () else .error .unknown
  match text.toList with
  | '#' :: digits => answer (isHexColor digits)
  | cs =>
    match argumentOf? "color" cs, argumentOf? "rgb" cs with
    | some number, _ => answer (isPaletteNumber number)
    | none, some components =>
      if components.all fun c => c = ',' || (decimalDigit? c).isSome then
        if components.isEmpty then .error .unknown else readComponents components
      else .error .unknown
    | none, none => answer (isColorName text)

end ThriftSchema.Teletype
