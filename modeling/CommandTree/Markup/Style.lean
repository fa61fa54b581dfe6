import CommandTree.Text.Blank
import CommandTree.Text.Split
/-!
Styles of text, as the tags of markup name them.

A style is named by words: attributes, which may be denied, a colour, a colour behind the word `on`, and an address
behind the word `link`. Attributes have short names too, and the order of the words does not matter, so that a style
has many names.

* `Style.ofWords?` reads the words, `Style.toWords` writes them in the normal order;
* `Style.normalName` is the normal name of a style, or of a text that names none the text in small letters.
-/

namespace CommandTree.Markup

open Text

/-! ### Small letters -/

/-- The small letter of a capital one of ASCII or of the Latin letters next to it, two of which have a second form. -/
def smallLetter (c : Char) : Char :=
  if c = '\u212A' then 'k'
  else if c = '\u212B' then 'å'
  else if 0xC0 ≤ c.toNat ∧ c.toNat ≤ 0xDE ∧ c ≠ '×' then Char.ofNat (c.toNat + 0x20)
  else c.toLower

/-- A text in small letters. -/
def inSmallLetters (s : String) : String := .ofList (s.toList.map smallLetter)

/-! ### Colours -/

/-- The names of colours. -/
def colourNames : List String := words "
  black red green yellow blue magenta cyan white bright_black bright_red bright_green bright_yellow bright_blue
  bright_magenta bright_cyan bright_white grey0 gray0 navy_blue dark_blue blue3 blue1 dark_green deep_sky_blue4
  dodger_blue3 dodger_blue2 green4 spring_green4 turquoise4 deep_sky_blue3 dodger_blue1 green3 spring_green3
  dark_cyan light_sea_green deep_sky_blue2 deep_sky_blue1 spring_green2 cyan3 dark_turquoise turquoise2 green1
  spring_green1 medium_spring_green cyan2 cyan1 dark_red deep_pink4 purple4 purple3 blue_violet orange4 grey37
  gray37 medium_purple4 slate_blue3 royal_blue1 chartreuse4 dark_sea_green4 pale_turquoise4 steel_blue steel_blue3
  cornflower_blue chartreuse3 cadet_blue sky_blue3 steel_blue1 pale_green3 sea_green3 aquamarine3 medium_turquoise
  chartreuse2 sea_green2 sea_green1 aquamarine1 dark_slate_gray2 dark_magenta dark_violet purple light_pink4 plum4
  medium_purple3 slate_blue1 yellow4 wheat4 grey53 gray53 light_slate_grey light_slate_gray medium_purple
  light_slate_blue dark_olive_green3 dark_sea_green light_sky_blue3 sky_blue2 dark_sea_green3 dark_slate_gray3
  sky_blue1 chartreuse1 light_green pale_green1 dark_slate_gray1 red3 medium_violet_red magenta3 dark_orange3
  indian_red hot_pink3 medium_orchid3 medium_orchid medium_purple2 dark_goldenrod light_salmon3 rosy_brown grey63
  gray63 medium_purple1 gold3 dark_khaki navajo_white3 grey69 gray69 light_steel_blue3 light_steel_blue yellow3
  dark_sea_green2 light_cyan3 light_sky_blue1 green_yellow dark_olive_green2 dark_sea_green1 pale_turquoise1
  deep_pink3 magenta2 hot_pink2 orchid medium_orchid1 orange3 light_pink3 pink3 plum3 violet light_goldenrod3 tan
  misty_rose3 thistle3 plum2 khaki3 light_goldenrod2 light_yellow3 grey84 gray84 light_steel_blue1 yellow2
  dark_olive_green1 honeydew2 light_cyan1 red1 deep_pink2 deep_pink1 magenta1 orange_red1 indian_red1 hot_pink
  dark_orange salmon1 light_coral pale_violet_red1 orchid2 orchid1 orange1 sandy_brown light_salmon1 light_pink1
  pink1 plum1 gold1 navajo_white1 misty_rose1 thistle1 yellow1 light_goldenrod1 khaki1 wheat1 cornsilk1 grey100
  gray100 grey3 gray3 grey7 gray7 grey11 gray11 grey15 gray15 grey19 gray19 grey23 gray23 grey27 gray27 grey30
  gray30 grey35 gray35 grey39 gray39 grey42 gray42 grey46 gray46 grey50 gray50 grey54 gray54 grey58 gray58 grey62
  gray62 grey66 gray66 grey70 gray70 grey74 gray74 grey78 gray78 grey82 gray82 grey85 gray85 grey89 gray89 grey93
  gray93"

/-- Whether a text is a number up to 255. -/
def isByte (s : String) : Bool :=
  match s.toNat? with
  | some n => s.toList.all Char.isDigit && n ≤ 255
  | none => false

/-- What stands in brackets behind a word. -/
def inBrackets? (word s : String) : Option String :=
  let opening := word.toList ++ ['(']
  if opening.isPrefixOf s.toList && s.toList.getLast? == some ')' then
    some (.ofList (s.toList.drop opening.length).dropLast)
  else none

/-- Whether a text is six hexadecimal digits behind a number sign. -/
def isHexColour (s : String) : Bool :=
  match s.toList with
  | '#' :: digits => digits.length == 6 && digits.all fun c => c.isDigit || (decide ('a' ≤ c) && decide (c ≤ 'f'))
  | _ => false

/-- Whether a word in small letters names a colour. -/
def isColour (s : String) : Bool :=
  s == "default" || colourNames.contains s || isHexColour s
    || ((inBrackets? "color" s).any fun n => n.length ≤ 3 && isByte n)
    || ((inBrackets? "rgb" s).any fun parts =>
      let parts := splitAt ',' parts.toList
      parts.length == 3 && parts.all fun p => isByte (.ofList p))

/-! ### Styles -/

/-- The attributes in their normal order, each one with its short name if it has one. -/
def attributes : List (String × Option String) :=
  [("bold", some "b"), ("dim", some "d"), ("italic", some "i"), ("underline", some "u"), ("blink", none),
    ("blink2", none), ("reverse", some "r"), ("conceal", some "c"), ("strike", some "s"), ("underline2", some "uu"),
    ("frame", none), ("encircle", none), ("overline", some "o")]

/-- The attribute that a word names. -/
def attribute? (word : String) : Option String :=
  (attributes.find? fun (name, short) => name == word || short == some word).map Prod.fst

/-- A style. -/
structure Style where
  -- the attributes, and whether they are set or denied; of two entries for one the first counts
  attributes : List (String × Bool)
  colour : Option String
  ground : Option String
  link : Option String

namespace Style

/-- The style that leaves all as it is. -/
def plain : Style := ⟨[], none, none, none⟩

/-- A style with the features that further words name, if they all name one. -/
def withWords? (s : Style) : List String → Option Style
  | [] => some s
  | word :: rest =>
    let small := inSmallLetters word
    if small = "on" then
      match rest with
      | ground :: rest =>
        if isColour (inSmallLetters ground) then withWords? { s with ground := some (inSmallLetters ground) } rest
        else none
      | [] => none
    else if small = "not" then
      match rest with
      | denied :: rest =>
        match attribute? denied with
        | some a => withWords? { s with attributes := (a, false) :: s.attributes } rest
        | none => none
      | [] => none
    else if small = "link" then
      match rest with
      | address :: rest => withWords? { s with link := some address } rest
      | [] => none
    else match attribute? small with
      | some a => withWords? { s with attributes := (a, true) :: s.attributes } rest
      | none => if isColour small then withWords? { s with colour := some small } rest else none

/-- The style that words name. -/
def ofWords? (ws : List String) : Option Style := plain.withWords? ws

/-- The words of a style in the normal order. -/
def toWords (s : Style) : List String :=
  (Markup.attributes.filterMap fun (name, _) =>
      (s.attributes.lookup name).map fun isSet => if isSet then name else "not " ++ name)
    ++ s.colour.toList ++ (s.ground.map ("on " ++ ·)).toList ++ (s.link.map ("link " ++ ·)).toList

/-- The normal name of the style that a text names, or the text in small letters. -/
def normalName (text : String) : String :=
  match ofWords? (words text) with
  | some s => if s.toWords.isEmpty then "none" else " ".intercalate s.toWords
  | none => inSmallLetters (.ofList (strip isBlank text.toList))

end Style

end CommandTree.Markup
