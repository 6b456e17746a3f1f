import SignatureLint.Text.Case
import SignatureLint.Text.Search
import SignatureLint.Text.Table

/-!
# Styles

The words of a style are attributes, with or without "not" in front, a colour, "on" with the colour
of the background, and "link" with an address. Two spellings mean the same style when they agree in
standard form, which gives every attribute its long name and its place.
-/

namespace SignatureLint.Console

/-! ## Attributes -/

/-- The attributes in the order of standard form. -/
def attributeNames : List String :=
  ["bold", "dim", "italic", "underline", "blink", "blink2", "reverse", "conceal", "strike",
    "underline2", "frame", "encircle", "overline"]

def shortNames : List (String × String) :=
  [("b", "bold"), ("d", "dim"), ("i", "italic"), ("u", "underline"), ("r", "reverse"),
    ("c", "conceal"), ("s", "strike"), ("uu", "underline2"), ("o", "overline")]

/-- The long name of the attribute that a word names. -/
def attribute? (word : String) : Option String :=
  if attributeNames.contains word then some word else shortNames.lookup word

/-! ## Colours -/

def colorNames : List String := "
default black red green yellow blue magenta cyan white bright_black bright_red bright_green
bright_yellow bright_blue bright_magenta bright_cyan bright_white grey0 gray0 navy_blue dark_blue
blue3 blue1 dark_green deep_sky_blue4 dodger_blue3 dodger_blue2 green4 spring_green4 turquoise4
deep_sky_blue3 dodger_blue1 green3 spring_green3 dark_cyan light_sea_green deep_sky_blue2
deep_sky_blue1 spring_green2 cyan3 dark_turquoise turquoise2 green1 spring_green1
medium_spring_green cyan2 cyan1 dark_red deep_pink4 purple4 purple3 blue_violet orange4 grey37
gray37 medium_purple4 slate_blue3 royal_blue1 chartreuse4 dark_sea_green4 pale_turquoise4
steel_blue steel_blue3 cornflower_blue chartreuse3 cadet_blue sky_blue3 steel_blue1 pale_green3
sea_green3 aquamarine3 medium_turquoise chartreuse2 sea_green2 sea_green1 aquamarine1
dark_slate_gray2 dark_magenta dark_violet purple light_pink4 plum4 medium_purple3 slate_blue1
yellow4 wheat4 grey53 gray53 light_slate_grey light_slate_gray medium_purple light_slate_blue
dark_olive_green3 dark_sea_green light_sky_blue3 sky_blue2 dark_sea_green3 dark_slate_gray3
sky_blue1 chartreuse1 light_green pale_green1 dark_slate_gray1 red3 medium_violet_red magenta3
dark_orange3 indian_red hot_pink3 medium_orchid3 medium_orchid medium_purple2 dark_goldenrod
light_salmon3 rosy_brown grey63 gray63 medium_purple1 gold3 dark_khaki navajo_white3 grey69 gray69
light_steel_blue3 light_steel_blue yellow3 dark_sea_green2 light_cyan3 light_sky_blue1
green_yellow dark_olive_green2 dark_sea_green1 pale_turquoise1 deep_pink3 magenta2 hot_pink2
orchid medium_orchid1 orange3 light_pink3 pink3 plum3 violet light_goldenrod3 tan misty_rose3
thistle3 plum2 khaki3 light_goldenrod2 light_yellow3 grey84 gray84 light_steel_blue1 yellow2
dark_olive_green1 honeydew2 light_cyan1 red1 deep_pink2 deep_pink1 magenta1 orange_red1
indian_red1 hot_pink dark_orange salmon1 light_coral pale_violet_red1 orchid2 orchid1 orange1
sandy_brown light_salmon1 light_pink1 pink1 plum1 gold1 navajo_white1 misty_rose1 thistle1 yellow1
light_goldenrod1 khaki1 wheat1 cornsilk1 grey100 gray100 grey3 gray3 grey7 gray7 grey11 gray11
grey15 gray15 grey19 gray19 grey23 gray23 grey27 gray27 grey30 gray30 grey35 gray35 grey39 gray39
grey42 gray42 grey46 gray46 grey50 gray50 grey54 gray54 grey58 gray58 grey62 gray62 grey66 gray66
grey70 gray70 grey74 gray74 grey78 gray78 grey82 gray82 grey85 gray85 grey89 gray89 grey93 gray93".splitOn "\n" |>.flatMap (·.splitOn " ")

/-- A number from 0 to 255 in decimal digits. -/
def isShade (digits : List Char) : Bool :=
  !digits.isEmpty && digits.all Char.isDigit &&
    digits.foldl (fun value c => value * 10 + Text.hexDigitValue c) 0 ≤ 255

/-- What stands in parentheses after a word, with nothing behind it. -/
def argument? (word : String) (text : List Char) : Option (List Char) :=
  (Text.dropBeginning? (word.toList ++ ['(']) text).bind (Text.dropEnding? [')'])

/-- A colour without capital letters: a name, six hexadecimal digits, a number of at most three
digits or three shades. -/
def isColor (color : String) : Bool :=
  let text := color.toList
  if colorNames.contains color then true
  else match text, argument? "color" text, argument? "rgb" text with
    | '#' :: digits, _, _ =>
        digits.length == 6 && digits.all fun c => c.isDigit || 'a' ≤ c && c ≤ 'f'
    | _, some number, _ => number.length ≤ 3 && isShade number
    | _, _, some shades =>
        let shades := Text.pieces (· == ',') shades
        shades.length == 3 && shades.all isShade
    | _, _, _ => false

/-! ## Styles -/

/-- The attributes that a style sets or takes away, its colours and its link. -/
structure Style where
  /-- Attributes, the last one first, and whether they are set. -/
  attributes : List (String × Bool) := []
  color : Option String := none
  background : Option String := none
  address : Option String := none
  deriving DecidableEq, Repr, Inhabited

namespace Style

/-- Read further words of a style. A later word wins over an earlier one. -/
def withWords (style : Style) : List String → Option Style
  | [] => some style
  | first :: rest =>
      let word := Text.lower first
      if word = "on" then
        match rest with
        | color :: rest =>
            if isColor (Text.lower color) then
              withWords { style with background := some (Text.lower color) } rest
            else none
        | [] => none
      else if word = "not" then
        match rest with
        | name :: rest =>
            match attribute? name with
            | some name =>
                withWords { style with attributes := (name, false) :: style.attributes } rest
            | none => none
        | [] => none
      else if word = "link" then
        match rest with
        | address :: rest => withWords { style with address := some address } rest
        | [] => none
      else match attribute? word with
        | some name => withWords { style with attributes := (name, true) :: style.attributes } rest
        | none => if isColor word then withWords { style with color := some word } rest else none

/-- Read a style. No words at all and the word "none" mean the style that changes nothing. -/
def read? (text : List Char) : Option Style :=
  if Text.trim text = "none".toList then some {}
  else
    let words := (Text.pieces Text.isBlank text).filter (!·.isEmpty)
    withWords {} (words.map String.ofList)

/-- The words of one attribute in standard form. -/
def attributeWords (style : Style) (name : String) : List String :=
  match style.attributes.lookup name with
  | some true => [name]
  | some false => ["not", name]
  | none => []

/-- The words of a style in standard form. -/
def words (style : Style) : List String :=
  attributeNames.flatMap style.attributeWords ++ style.color.toList ++
    (match style.background with
      | some color => ["on", color]
      | none => []) ++
    (match style.address with
      | some address => ["link", address]
      | none => [])

/-- The standard form of a style. -/
def text (style : Style) : String :=
  if style.words.isEmpty then "none" else String.intercalate " " style.words

end Style

/-- The standard form of what names a style; another text means the same whatever the case of its
letters and the blanks around it. -/
def styleName (name : List Char) : String :=
  match Style.read? name with
  | some style => style.text
  | none => Text.lower (String.ofList (Text.trim name))

end SignatureLint.Console
