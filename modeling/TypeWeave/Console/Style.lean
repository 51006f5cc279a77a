import TypeWeave.Text.Category
import TypeWeave.Text.LetterCase
import TypeWeave.Text.Search
import TypeWeave.Text.Split

/-!
# Styles

What the words of a tag mean: attributes, a colour, a background and a link. Two tags name the same
style when their normal names agree; words that mean nothing are their own name.
-/

namespace TypeWeave.Console

/-- The names of colours. -/
def colourNames : List String := [
  "aquamarine1", "aquamarine3", "black", "blue", "blue1", "blue3", "blue_violet",
  "bright_black", "bright_blue", "bright_cyan", "bright_green", "bright_magenta", "bright_red",
  "bright_white", "bright_yellow", "cadet_blue", "chartreuse1", "chartreuse2", "chartreuse3",
  "chartreuse4", "cornflower_blue", "cornsilk1", "cyan", "cyan1", "cyan2", "cyan3",
  "dark_blue", "dark_cyan", "dark_goldenrod", "dark_green", "dark_khaki", "dark_magenta",
  "dark_olive_green1", "dark_olive_green2", "dark_olive_green3", "dark_orange", "dark_orange3",
  "dark_red", "dark_sea_green", "dark_sea_green1", "dark_sea_green2", "dark_sea_green3",
  "dark_sea_green4", "dark_slate_gray1", "dark_slate_gray2", "dark_slate_gray3",
  "dark_turquoise", "dark_violet", "deep_pink1", "deep_pink2", "deep_pink3", "deep_pink4",
  "deep_sky_blue1", "deep_sky_blue2", "deep_sky_blue3", "deep_sky_blue4", "dodger_blue1",
  "dodger_blue2", "dodger_blue3", "gold1", "gold3", "gray0", "gray100", "gray11", "gray15",
  "gray19", "gray23", "gray27", "gray3", "gray30", "gray35", "gray37", "gray39", "gray42",
  "gray46", "gray50", "gray53", "gray54", "gray58", "gray62", "gray63", "gray66", "gray69",
  "gray7", "gray70", "gray74", "gray78", "gray82", "gray84", "gray85", "gray89", "gray93",
  "green", "green1", "green3", "green4", "green_yellow", "grey0", "grey100", "grey11",
  "grey15", "grey19", "grey23", "grey27", "grey3", "grey30", "grey35", "grey37", "grey39",
  "grey42", "grey46", "grey50", "grey53", "grey54", "grey58", "grey62", "grey63", "grey66",
  "grey69", "grey7", "grey70", "grey74", "grey78", "grey82", "grey84", "grey85", "grey89",
  "grey93", "honeydew2", "hot_pink", "hot_pink2", "hot_pink3", "indian_red", "indian_red1",
  "khaki1", "khaki3", "light_coral", "light_cyan1", "light_cyan3", "light_goldenrod1",
  "light_goldenrod2", "light_goldenrod3", "light_green", "light_pink1", "light_pink3",
  "light_pink4", "light_salmon1", "light_salmon3", "light_sea_green", "light_sky_blue1",
  "light_sky_blue3", "light_slate_blue", "light_slate_gray", "light_slate_grey",
  "light_steel_blue", "light_steel_blue1", "light_steel_blue3", "light_yellow3", "magenta",
  "magenta1", "magenta2", "magenta3", "medium_orchid", "medium_orchid1", "medium_orchid3",
  "medium_purple", "medium_purple1", "medium_purple2", "medium_purple3", "medium_purple4",
  "medium_spring_green", "medium_turquoise", "medium_violet_red", "misty_rose1", "misty_rose3",
  "navajo_white1", "navajo_white3", "navy_blue", "orange1", "orange3", "orange4",
  "orange_red1", "orchid", "orchid1", "orchid2", "pale_green1", "pale_green3",
  "pale_turquoise1", "pale_turquoise4", "pale_violet_red1", "pink1", "pink3", "plum1", "plum2",
  "plum3", "plum4", "purple", "purple3", "purple4", "red", "red1", "red3", "rosy_brown",
  "royal_blue1", "salmon1", "sandy_brown", "sea_green1", "sea_green2", "sea_green3",
  "sky_blue1", "sky_blue2", "sky_blue3", "slate_blue1", "slate_blue3", "spring_green1",
  "spring_green2", "spring_green3", "spring_green4", "steel_blue", "steel_blue1",
  "steel_blue3", "tan", "thistle1", "thistle3", "turquoise2", "turquoise4", "violet", "wheat1",
  "wheat4", "white", "yellow", "yellow1", "yellow2", "yellow3", "yellow4"]

/-- A number of at most three digits that a byte holds. -/
def isByte (digits : List Char) : Bool :=
  !digits.isEmpty && digits.all (fun c => (Text.decimalValue? c).isSome) &&
    digits.foldl (fun n c => 10 * n + (Text.decimalValue? c).getD 0) 0 ≤ 255

/-- The text between a lead and a closing parenthesis. -/
def between? (lead : String) (cs : List Char) : Option (List Char) :=
  match Text.dropPrefix? lead.toList cs with
  | some rest => if rest.getLast? == some ')' then some rest.dropLast else none
  | none => none

/-- Whether a word in lower case is a colour: a name, a number or three components. -/
def isColour (word : List Char) : Bool :=
  let isHexDigit (c : Char) : Bool := c.isDigit || ('a' ≤ c && c ≤ 'f')
  word == "default".toList || colourNames.contains (String.ofList word) ||
    (match word with
      | '#' :: digits => digits.length == 6 && digits.all isHexDigit
      | _ => false) ||
    (match between? "color(" word with
      | some digits => digits.length ≤ 3 && digits.all Char.isDigit && isByte digits
      | none => false) ||
    (match between? "rgb(" word with
      | some inner =>
        let components := Text.splitOn [','] inner
        components.length == 3 && components.all isByte
      | none => false)

/-- A style. -/
structure Style where
  /-- Attributes that are switched on or off, the latest first. -/
  attributes : List (String × Bool) := []
  colour : Option (List Char) := none
  background : Option (List Char) := none
  link : Option (List Char) := none
  deriving DecidableEq, Repr

namespace Style

/-- The attributes in the order in which they are named. -/
def attributeNames : List String :=
  ["bold", "dim", "italic", "underline", "blink", "blink2", "reverse", "conceal", "strike",
    "underline2", "frame", "encircle", "overline"]

/-- Short names of attributes. -/
def shortNames : List (String × String) :=
  [("b", "bold"), ("d", "dim"), ("i", "italic"), ("u", "underline"), ("r", "reverse"),
    ("c", "conceal"), ("s", "strike"), ("uu", "underline2"), ("o", "overline")]

/-- The attribute that a word stands for. -/
def attributeOf? (word : String) : Option String :=
  if attributeNames.contains word then some word else shortNames.lookup word

/-- Switch an attribute. -/
def switch (s : Style) (name : String) (on : Bool) : Style :=
  { s with attributes := (name, on) :: s.attributes }

/-- Read words into a style; nothing comes of a word without a meaning. -/
def read (s : Style) : List (List Char) → Option Style
  | [] => some s
  | word :: rest =>
    let name := String.ofList (Text.lower word)
    if name == "on" then
      match rest with
      | c :: rest =>
        let c := Text.lower c
        if isColour c then read { s with background := some c } rest else none
      | [] => none
    else if name == "not" then
      match rest with
      | a :: rest =>
        match attributeOf? (String.ofList a) with
        | some a => read (s.switch a false) rest
        | none => none
      | [] => none
    else if name == "link" then
      match rest with
      | target :: rest => read { s with link := some target } rest
      | [] => none
    else
      match attributeOf? name with
      | some a => read (s.switch a true) rest
      | none =>
        let c := Text.lower word
        if isColour c then read { s with colour := some c } rest else none

/-- The words of a style in order. -/
def words (s : Style) : List (List Char) :=
  (attributeNames.flatMap fun name =>
    match s.attributes.lookup name with
    | some true => [name.toList]
    | some false => ["not".toList, name.toList]
    | none => []) ++
  s.colour.toList ++
  (match s.background with
    | some c => ["on".toList, c]
    | none => []) ++
  (match s.link with
    | some target => ["link".toList, target]
    | none => [])

/-- The name of a style; that of the plain style is a word of its own. -/
def name (s : Style) : List Char :=
  match s.words with
  | [] => "none".toList
  | words => Text.intercalate [' '] words

/-- The normal name of the style that a text describes. -/
def normalName (text : List Char) : List Char :=
  if Text.stripBlank text == "none".toList || text.isEmpty then ({} : Style).name
  else
    match ({} : Style).read (Text.splitWords text.length text) with
    | some s => s.name
    | none => Text.lower (Text.stripBlank text)

end Style

end TypeWeave.Console
