import QueryLint.Number.Literal
import QueryLint.Table
import QueryLint.Text.Case
import QueryLint.Text.Search

/-! # Styles of text

A style is a list of words: attributes, which may be switched off, a colour, a colour behind the
text, and a link. Two lists that mean the same have the same written form.
-/

namespace QueryLint.Console

def colourNames : List String :=
  ["black", "red", "green", "yellow", "blue", "magenta", "cyan", "white", "bright_black",
   "bright_red", "bright_green", "bright_yellow", "bright_blue", "bright_magenta", "bright_cyan",
   "bright_white", "navy_blue", "dark_blue", "blue3", "blue1", "dark_green", "deep_sky_blue4",
   "dodger_blue3", "dodger_blue2", "green4", "spring_green4", "turquoise4", "deep_sky_blue3",
   "dodger_blue1", "green3", "spring_green3", "dark_cyan", "light_sea_green", "deep_sky_blue2",
   "deep_sky_blue1", "spring_green2", "cyan3", "dark_turquoise", "turquoise2", "green1",
   "spring_green1", "medium_spring_green", "cyan2", "cyan1", "dark_red", "deep_pink4", "purple4",
   "purple3", "blue_violet", "orange4", "medium_purple4", "slate_blue3", "royal_blue1",
   "chartreuse4", "dark_sea_green4", "pale_turquoise4", "steel_blue", "steel_blue3",
   "cornflower_blue", "chartreuse3", "cadet_blue", "sky_blue3", "steel_blue1", "pale_green3",
   "sea_green3", "aquamarine3", "medium_turquoise", "chartreuse2", "sea_green2", "sea_green1",
   "aquamarine1", "dark_slate_gray2", "dark_magenta", "dark_violet", "purple", "light_pink4",
   "plum4", "medium_purple3", "slate_blue1", "yellow4", "wheat4", "light_slate_grey",
   "light_slate_gray", "medium_purple", "light_slate_blue", "dark_olive_green3", "dark_sea_green",
   "light_sky_blue3", "sky_blue2", "dark_sea_green3", "dark_slate_gray3", "sky_blue1",
   "chartreuse1", "light_green", "pale_green1", "dark_slate_gray1", "red3", "medium_violet_red",
   "magenta3", "dark_orange3", "indian_red", "hot_pink3", "medium_orchid3", "medium_orchid",
   "medium_purple2", "dark_goldenrod", "light_salmon3", "rosy_brown", "medium_purple1", "gold3",
   "dark_khaki", "navajo_white3", "light_steel_blue3", "light_steel_blue", "yellow3",
   "dark_sea_green2", "light_cyan3", "light_sky_blue1", "green_yellow", "dark_olive_green2",
   "dark_sea_green1", "pale_turquoise1", "deep_pink3", "magenta2", "hot_pink2", "orchid",
   "medium_orchid1", "orange3", "light_pink3", "pink3", "plum3", "violet", "light_goldenrod3",
   "tan", "misty_rose3", "thistle3", "plum2", "khaki3", "light_goldenrod2", "light_yellow3",
   "light_steel_blue1", "yellow2", "dark_olive_green1", "honeydew2", "light_cyan1", "red1",
   "deep_pink2", "deep_pink1", "magenta1", "orange_red1", "indian_red1", "hot_pink", "dark_orange",
   "salmon1", "light_coral", "pale_violet_red1", "orchid2", "orchid1", "orange1", "sandy_brown",
   "light_salmon1", "light_pink1", "pink1", "plum1", "gold1", "navajo_white1", "misty_rose1",
   "thistle1", "yellow1", "light_goldenrod1", "khaki1", "wheat1", "cornsilk1"]

/-- The degrees of grey, each of which has two spellings. -/
def greyDegrees : List Nat :=
  [0, 3, 7, 11, 15, 19, 23, 27, 30, 35, 37, 39, 42, 46, 50, 53, 54, 58, 62, 63, 66, 69, 70, 74, 78,
   82, 84, 85, 89, 93, 100]

def greyNames : List String :=
  greyDegrees.flatMap fun n => ["grey" ++ toString n, "gray" ++ toString n]

/-- The attributes in the order in which a style writes them. -/
def attributeNames : List String :=
  ["bold", "dim", "italic", "underline", "blink", "blink2", "reverse", "conceal", "strike",
   "underline2", "frame", "encircle", "overline"]

def attributeAliases : List (String × String) :=
  [("b", "bold"), ("d", "dim"), ("i", "italic"), ("u", "underline"), ("uu", "underline2"),
   ("r", "reverse"), ("c", "conceal"), ("s", "strike"), ("o", "overline")]

def attribute? (word : String) : Option String :=
  if attributeNames.contains word then some word else attributeAliases.lookup word

inductive StyleFault
  | unknown
  /-- A part of a colour that should be a number. -/
  | noNumber (reason : String)
  deriving DecidableEq, Repr

/-! ## Colours -/

/-- The text between an opening, such as a name with a bracket, and a closing bracket. -/
def between? (opening : String) (s : List Char) : Option (List Char) :=
  match (Text.dropStart? opening.toList s).map List.reverse with
  | some (')' :: r) => some r.reverse
  | _ => none

def isHexColour (s : List Char) : Bool :=
  match s with
  | '#' :: r => r.length = 6 && r.all fun c => c.isDigit || ('a' ≤ c && c ≤ 'f')
  | _ => false

/-- A colour by its number has one to three digits. -/
def isNumberedColour (s : List Char) : Bool :=
  (between? "color(" s).any fun r =>
    1 ≤ r.length && r.length ≤ 3 && r.all Char.isDigit && (String.ofList r).toNat?.any (· ≤ 255)

/-- The three parts of a mixed colour. -/
def checkMixture (s : List Char) : Except StyleFault Unit :=
  let parts := ((between? "rgb(" s).map (Text.splitAt ',')).getD []
  if parts.length ≠ 3 || parts.flatten.any fun c => (Text.digitValue? c).isNone then .error .unknown
  else match parts.mapM (Literal.int 10) with
    | .error reason => .error (.noNumber reason)
    | .ok values => if values.all (· ≤ 255) then .ok () else .error .unknown

/-- The name of a colour in lower case. -/
def readColour (word : List Char) : Except StyleFault String := do
  let lower := Text.lower word
  let name := String.ofList lower
  if name = "default" || colourNames.contains name || greyNames.contains name
      || isHexColour lower || isNumberedColour lower then
    return name
  checkMixture lower
  return name

/-! ## Styles -/

structure Style where
  attributes : Table Bool := {}
  colour : Option String := none
  background : Option String := none
  link : Option String := none

namespace Style

/-- The style that words make of another. Only the words that begin something may be in capitals. -/
def addWords (style : Style) : List (List Char) → Except StyleFault Style
  | [] => .ok style
  | word :: rest =>
    match String.ofList (Text.lower word), rest with
    | "on", [] | "not", [] | "link", [] => .error .unknown
    | "on", next :: rest => do
      let colour ← readColour next
      addWords { style with background := some colour } rest
    | "not", next :: rest =>
      match attribute? (String.ofList next) with
      | none => .error .unknown
      | some a => addWords { style with attributes := style.attributes.insert a false } rest
    | "link", next :: rest => addWords { style with link := some (String.ofList next) } rest
    | name, rest =>
      match attribute? name with
      | some a => addWords { style with attributes := style.attributes.insert a true } rest
      | none => do
        let colour ← readColour word
        addWords { style with colour := some colour } rest

def parse (s : List Char) : Except StyleFault Style :=
  if Text.strip s = "none".toList then .ok {} else addWords {} (Text.blankFree s)

def words (style : Style) : List String :=
  (attributeNames.filterMap fun a => (style.attributes.get? a).map fun on =>
    if on then a else "not " ++ a)
    ++ style.colour.toList
    ++ (style.background.map ("on " ++ ·)).toList
    ++ (style.link.map ("link " ++ ·)).toList

def toText (style : Style) : String :=
  match style.words with
  | [] => "none"
  | ws => " ".intercalate ws

end Style

end QueryLint.Console
