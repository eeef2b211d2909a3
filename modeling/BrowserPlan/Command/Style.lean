/-
This file brings the names of styles into one form, so that two names of a style are alike.

A style is named by words: settings, which may be switched off, a colour, a colour of the
ground, and a link. In the one form the settings come first, in a fixed order and with their
long names, then the colours and the link. A name that is not understood stands for itself, in
small letters.
-/

import BrowserPlan.Text.Case
import BrowserPlan.Text.Digit

namespace BrowserPlan

/-! ### Settings -/

/-- What a style can set, in the order of the one form. -/
inductive StyleSetting where
  | bold
  | dim
  | italic
  | underline
  | blink
  | blink2
  | reverse
  | conceal
  | strike
  | underline2
  | frame
  | encircle
  | overline
  deriving DecidableEq, Repr

namespace StyleSetting

/-- All settings in the order of the one form. -/
def all : List StyleSetting :=
  [.bold, .dim, .italic, .underline, .blink, .blink2, .reverse, .conceal, .strike, .underline2,
    .frame, .encircle, .overline]

/-- The long word for a setting. -/
def word : StyleSetting → Text
  | .bold => "bold"
  | .dim => "dim"
  | .italic => "italic"
  | .underline => "underline"
  | .blink => "blink"
  | .blink2 => "blink2"
  | .reverse => "reverse"
  | .conceal => "conceal"
  | .strike => "strike"
  | .underline2 => "underline2"
  | .frame => "frame"
  | .encircle => "encircle"
  | .overline => "overline"

/-- The short word for a setting, if it has one. -/
def short? : StyleSetting → Option Text
  | .bold => some "b".toList
  | .dim => some "d".toList
  | .italic => some "i".toList
  | .underline => some "u".toList
  | .reverse => some "r".toList
  | .conceal => some "c".toList
  | .strike => some "s".toList
  | .underline2 => some "uu".toList
  | .overline => some "o".toList
  | _ => none

/-- The setting that a long or a short word names. -/
def ofWord? (word : Text) : Option StyleSetting :=
  all.find? fun setting => setting.word = word || setting.short? = some word

end StyleSetting

/-! ### Styles -/

/-- A style: its settings, the last one first, with whether they are on, its colours and its
link. -/
structure Style where
  settings : List (StyleSetting × Bool) := []
  colour? : Option Text := none
  ground? : Option Text := none
  link? : Option Text := none
  deriving DecidableEq, Repr

namespace Style

/-- The words for a setting of a style. -/
def settingWords (style : Style) (setting : StyleSetting) : List Text :=
  match (style.settings.find? fun known => known.1 = setting).map Prod.snd with
  | some true => [setting.word]
  | some false => ["not", setting.word]
  | none => []

/-- The one form of a style. -/
def text (style : Style) : Text :=
  let words := StyleSetting.all.flatMap style.settingWords ++ style.colour?.toList ++
    (style.ground?.toList.flatMap fun colour => [("on" : Text), colour]) ++
    (style.link?.toList.flatMap fun link => [("link" : Text), link])
  if words = [] then "none" else Text.join [' '] words

/-! ### Colours -/

/-- The names of colours. -/
def colourNames : Array String :=
  #["black red green yellow blue magenta cyan white bright_black bright_red bright_green",
    "bright_yellow bright_blue bright_magenta bright_cyan bright_white grey0 gray0 navy_blue",
    "dark_blue blue3 blue1 dark_green deep_sky_blue4 dodger_blue3 dodger_blue2 green4",
    "spring_green4 turquoise4 deep_sky_blue3 dodger_blue1 green3 spring_green3 dark_cyan",
    "light_sea_green deep_sky_blue2 deep_sky_blue1 spring_green2 cyan3 dark_turquoise turquoise2",
    "green1 spring_green1 medium_spring_green cyan2 cyan1 dark_red deep_pink4 purple4 purple3",
    "blue_violet orange4 grey37 gray37 medium_purple4 slate_blue3 royal_blue1 chartreuse4",
    "dark_sea_green4 pale_turquoise4 steel_blue steel_blue3 cornflower_blue chartreuse3",
    "cadet_blue sky_blue3 steel_blue1 pale_green3 sea_green3 aquamarine3 medium_turquoise",
    "chartreuse2 sea_green2 sea_green1 aquamarine1 dark_slate_gray2 dark_magenta dark_violet",
    "purple light_pink4 plum4 medium_purple3 slate_blue1 yellow4 wheat4 grey53 gray53",
    "light_slate_grey light_slate_gray medium_purple light_slate_blue dark_olive_green3",
    "dark_sea_green light_sky_blue3 sky_blue2 dark_sea_green3 dark_slate_gray3 sky_blue1",
    "chartreuse1 light_green pale_green1 dark_slate_gray1 red3 medium_violet_red magenta3",
    "dark_orange3 indian_red hot_pink3 medium_orchid3 medium_orchid medium_purple2 dark_goldenrod",
    "light_salmon3 rosy_brown grey63 gray63 medium_purple1 gold3 dark_khaki navajo_white3 grey69",
    "gray69 light_steel_blue3 light_steel_blue yellow3 dark_sea_green2 light_cyan3",
    "light_sky_blue1 green_yellow dark_olive_green2 dark_sea_green1 pale_turquoise1 deep_pink3",
    "magenta2 hot_pink2 orchid medium_orchid1 orange3 light_pink3 pink3 plum3 violet",
    "light_goldenrod3 tan misty_rose3 thistle3 plum2 khaki3 light_goldenrod2 light_yellow3 grey84",
    "gray84 light_steel_blue1 yellow2 dark_olive_green1 honeydew2 light_cyan1 red1 deep_pink2",
    "deep_pink1 magenta1 orange_red1 indian_red1 hot_pink dark_orange salmon1 light_coral",
    "pale_violet_red1 orchid2 orchid1 orange1 sandy_brown light_salmon1 light_pink1 pink1 plum1",
    "gold1 navajo_white1 misty_rose1 thistle1 yellow1 light_goldenrod1 khaki1 wheat1 cornsilk1",
    "grey100 gray100 grey3 gray3 grey7 gray7 grey11 gray11 grey15 gray15 grey19 gray19 grey23",
    "gray23 grey27 gray27 grey30 gray30 grey35 gray35 grey39 gray39 grey42 gray42 grey46 gray46",
    "grey50 gray50 grey54 gray54 grey58 gray58 grey62 gray62 grey66 gray66 grey70 gray70 grey74",
    "gray74 grey78 gray78 grey82 gray82 grey85 gray85 grey89 gray89 grey93 gray93"]

/-- Why the name of a style has no one form: it is not understood, or a part of a colour is no
number, which is a fault. -/
inductive Fault where
  | unknown
  | noNumber (part : Text)
  deriving DecidableEq, Repr

/-- The inside of the brackets behind a word. -/
def inBrackets? (word text : Text) : Option Text := do
  let inside ← Text.after? (word ++ ['(']) text
  if inside.getLast? = some ')' then some inside.dropLast else none

/-- Whether a text is the sign of a number and six hexadecimal digits. -/
def isHexColour (text : Text) : Bool :=
  let isDigit (char : Char) : Bool := char.isDigit || ('a' ≤ char && char ≤ 'f')
  text.head? = some '#' && text.length = 7 && (text.drop 1).all isDigit

/-- Reads the parts of a colour between brackets: three numbers up to 255. -/
def readParts (inside : Text) : Except Fault Unit :=
  if !(inside.all fun char => Text.isDigit char || char = ',') || inside = [] then .error .unknown
  else
    let parts := Text.piecesAt (· = ',') inside
    if parts.length ≠ 3 then .error .unknown
    else
      match parts.find? fun part => (Text.toInt? part).isNone with
      | some part => .error (.noNumber part)
      | none =>
          if parts.all fun part => (Text.toInt? part).any (· ≤ 255) then .ok ()
          else .error .unknown

/-- Reads a colour, which is written in small letters. -/
def readColour (word : Text) : Except Fault Text :=
  let colour := Text.lowercase word
  let isNamed := colour = ("default" : Text) ||
    colourNames.any fun line => (Text.words line.toList).contains colour
  if isNamed || isHexColour colour then .ok colour
  else
    match inBrackets? "color" colour, inBrackets? "rgb" colour with
    | some inside, _ =>
        if inside ≠ [] && inside.length ≤ 3 && inside.all Char.isDigit &&
            (Text.toInt? inside).any (· ≤ 255) then .ok colour
        else .error .unknown
    | none, some inside => (readParts inside).map fun _ => colour
    | none, none => .error .unknown

/-! ### Reading -/

/-- Reads the words of a style, in addition to what was read before. -/
def readWords (style : Style) : List Text → Except Fault Style
  | [] => .ok style
  | word :: words =>
      let small := Text.lowercase word
      if small = ("on" : Text) then
        match words with
        | [] => .error .unknown
        | word :: words =>
            match readColour word with
            | .ok colour => readWords { style with ground? := some colour } words
            | .error fault => .error fault
      else if small = ("not" : Text) then
        match words with
        | [] => .error .unknown
        | word :: words =>
            match StyleSetting.ofWord? word with
            | some setting =>
                readWords { style with settings := (setting, false) :: style.settings } words
            | none => .error .unknown
      else if small = ("link" : Text) then
        match words with
        | [] => .error .unknown
        | word :: words => readWords { style with link? := some word } words
      else
        match StyleSetting.ofWord? small with
        | some setting =>
            readWords { style with settings := (setting, true) :: style.settings } words
        | none =>
            match readColour word with
            | .ok colour => readWords { style with colour? := some colour } words
            | .error fault => .error fault

/-- Reads the name of a style. -/
def read (name : Text) : Except Fault Style :=
  if Text.trim name = ("none" : Text) then .ok {} else readWords {} (Text.words name)

/-- The one form of the name of a style. -/
def normalize (name : Text) : Except Fault Text :=
  match read name with
  | .ok style => .ok style.text
  | .error .unknown => .ok (Text.lowercase (Text.trim name))
  | .error fault => .error fault

end Style

end BrowserPlan
