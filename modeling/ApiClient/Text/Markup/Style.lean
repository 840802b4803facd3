import ApiClient.Text.Digit
import ApiClient.Text.Lowercase
import ApiClient.Text.Blank
import ApiClient.Text.Split

/-! Styles of a terminal, as words describe them. Two descriptions of one style have the same normal
form; what describes no style is only trimmed and put in lower case. -/

namespace ApiClient.Text.Markup

/-! ## Colours -/

def colorNames : List Text := (Text.entries "default
black red green yellow blue magenta cyan white bright_black bright_red bright_green bright_yellow
bright_blue bright_magenta bright_cyan bright_white grey0 gray0 navy_blue dark_blue blue3 blue1
dark_green deep_sky_blue4 dodger_blue3 dodger_blue2 green4 spring_green4 turquoise4 deep_sky_blue3
dodger_blue1 green3 spring_green3 dark_cyan light_sea_green deep_sky_blue2 deep_sky_blue1
spring_green2 cyan3 dark_turquoise turquoise2 green1 spring_green1 medium_spring_green cyan2 cyan1
dark_red deep_pink4 purple4 purple3 blue_violet orange4 grey37 gray37 medium_purple4 slate_blue3
royal_blue1 chartreuse4 dark_sea_green4 pale_turquoise4 steel_blue steel_blue3 cornflower_blue
chartreuse3 cadet_blue sky_blue3 steel_blue1 pale_green3 sea_green3 aquamarine3 medium_turquoise
chartreuse2 sea_green2 sea_green1 aquamarine1 dark_slate_gray2 dark_magenta dark_violet purple
light_pink4 plum4 medium_purple3 slate_blue1 yellow4 wheat4 grey53 gray53 light_slate_grey
light_slate_gray medium_purple light_slate_blue dark_olive_green3 dark_sea_green light_sky_blue3
sky_blue2 dark_sea_green3 dark_slate_gray3 sky_blue1 chartreuse1 light_green pale_green1
dark_slate_gray1 red3 medium_violet_red magenta3 dark_orange3 indian_red hot_pink3 medium_orchid3
medium_orchid medium_purple2 dark_goldenrod light_salmon3 rosy_brown grey63 gray63 medium_purple1
gold3 dark_khaki navajo_white3 grey69 gray69 light_steel_blue3 light_steel_blue yellow3
dark_sea_green2 light_cyan3 light_sky_blue1 green_yellow dark_olive_green2 dark_sea_green1
pale_turquoise1 deep_pink3 magenta2 hot_pink2 orchid medium_orchid1 orange3 light_pink3 pink3 plum3
violet light_goldenrod3 tan misty_rose3 thistle3 plum2 khaki3 light_goldenrod2 light_yellow3 grey84
gray84 light_steel_blue1 yellow2 dark_olive_green1 honeydew2 light_cyan1 red1 deep_pink2 deep_pink1
magenta1 orange_red1 indian_red1 hot_pink dark_orange salmon1 light_coral pale_violet_red1 orchid2
orchid1 orange1 sandy_brown light_salmon1 light_pink1 pink1 plum1 gold1 navajo_white1 misty_rose1
thistle1 yellow1 light_goldenrod1 khaki1 wheat1 cornsilk1 grey100 gray100 grey3 gray3 grey7 gray7
grey11 gray11 grey15 gray15 grey19 gray19 grey23 gray23 grey27 gray27 grey30 gray30 grey35 gray35
grey39 gray39 grey42 gray42 grey46 gray46 grey50 gray50 grey54 gray54 grey58 gray58 grey62 gray62
grey66 gray66 grey70 gray70 grey74 gray74 grey78 gray78 grey82 gray82 grey85 gray85 grey89 gray89
grey93 gray93").map ofCharacters

def isHexadecimal (c : Char) : Bool :=
  c.isDigit || ('a' ≤ c && c ≤ 'f')

/-- The number that a word is, in digits of any script. -/
def numberOf? (word : Text) : Option Nat :=
  if word.isEmpty then none
  else
    word.foldlM (fun value c => do return 10 * value + (← digitValue? (← c.character?))) 0

/-- What stands in parentheses after a word. -/
def argument? (name word : Text) : Option Text :=
  match remainder? (name ++ [.char '(']) word with
  | none => none
  | some rest => if rest.getLast? = some ')' then some rest.dropLast else none

/-- The greatest share of a colour, and the greatest number of one. -/
def greatestShare : Nat := 255

def isShare (word : Text) : Bool :=
  (numberOf? word).any (· ≤ greatestShare)

/-- Whether a word in lower case is a colour: by its name, its number or its shares of red, green
and blue. -/
def isColor (word : Text) : Bool :=
  match word, argument? "color" word, argument? "rgb" word with
  | .char '#' :: digits, _, _ => digits.length = 6 ∧ digits.all (·.isIn isHexadecimal)
  | _, some number, _ =>
    number.length ≤ 3 ∧ number.all (·.isIn Char.isDigit) ∧ isShare number
  | _, _, some shares =>
    let shares := split (· == CodePoint.char ',') shares
    shares.length = 3 ∧ shares.all isShare
  | word, _, _ => colorNames.contains word

/-! ## Styles -/

/-- The attributes of a style in their order, each with its short name. -/
def attributes : List (Text × Option Text) := [
  ("bold", some "b"), ("dim", some "d"), ("italic", some "i"), ("underline", some "u"),
  ("blink", none), ("blink2", none), ("reverse", some "r"), ("conceal", some "c"),
  ("strike", some "s"), ("underline2", some "uu"), ("frame", none), ("encircle", none),
  ("overline", some "o")]

def attribute? (word : Text) : Option Text :=
  (attributes.find? fun (name, short) => name == word || short == some word).map (·.1)

/-- A style. Of an attribute given several times, the last one counts, and so it is listed first. -/
structure Style where
  given : List (Text × Bool) := []
  color : Option Text := none
  background : Option Text := none
  link : Option Text := none
  deriving DecidableEq, Repr

namespace Style

/-- A style with what words add to it, if they describe one. -/
def withWords (style : Style) : List Text → Option Style
  | [] => some style
  | word :: rest =>
    let folded := lowercased word
    if folded = "on" then
      match rest with
      | [] => none
      | color :: rest =>
        let color := lowercased color
        if isColor color then withWords { style with background := some color } rest else none
    else if folded = "not" then
      match rest with
      | [] => none
      | name :: rest =>
        match attribute? name with
        | none => none
        | some name => withWords { style with given := (name, false) :: style.given } rest
    else if folded = "link" then
      match rest with
      | [] => none
      | address :: rest => withWords { style with link := some address } rest
    else
      match attribute? folded with
      | some name => withWords { style with given := (name, true) :: style.given } rest
      | none => if isColor folded then withWords { style with color := some folded } rest else none

def attributeWord (given : List (Text × Bool)) (name : Text) : List Text :=
  match given.find? (·.1 == name) with
  | none => []
  | some (_, isOn) => [if isOn then name else "not " ++ name]

def text (style : Style) : Text :=
  let words := attributes.flatMap (attributeWord style.given ·.1) ++ style.color.toList ++
    (style.background.elim [] fun color => [Text.ofString "on", color]) ++
    (style.link.elim [] fun address => [Text.ofString "link", address])
  if words.isEmpty then "none" else joined " " words

example : text { given := [("bold", false), ("dim", true)], background := some "red" } =
    "not bold dim on red" := by decide

end Style

def words (description : Text) : List Text :=
  (split (·.isIn isBlank) description).filter (!·.isEmpty)

/-- The normal form of a description. -/
def normalForm (description : Text) : Text :=
  let trimmed := trim (·.isIn isBlank) description
  if trimmed = "none" then "none"
  else
    match ({} : Style).withWords (words description) with
    | some style => style.text
    | none => lowercased trimmed

end ApiClient.Text.Markup
