import Pruning.Text.Blank
import Pruning.Text.Casing
import Pruning.Text.Digit
import Pruning.Text.Quoted

/-!
Names of styles. A style is described by words in any order: attributes, a color, a background and a link.
Two descriptions name the same style when their canonical texts agree; `styleName` is that text. Some
styles also have names of their own.
-/

namespace Pruning.Console

/-- The attributes of a style, each with its short name, in canonical order. -/
def styleAttributes : List (String × String) :=
  [("bold", "b"), ("dim", "d"), ("italic", "i"), ("underline", "u"), ("blink", ""), ("blink2", ""),
    ("reverse", "r"), ("conceal", "c"), ("strike", "s"), ("underline2", "uu"), ("frame", ""),
    ("encircle", ""), ("overline", "o")]

/-- The colors of a palette that have names. -/
def paletteNames : List String := [
    "grey0", "gray0", "navy_blue", "dark_blue", "blue3", "blue1", "dark_green", "deep_sky_blue4",
    "dodger_blue3", "dodger_blue2", "green4", "spring_green4", "turquoise4", "deep_sky_blue3",
    "dodger_blue1", "green3", "spring_green3", "dark_cyan", "light_sea_green", "deep_sky_blue2",
    "deep_sky_blue1", "spring_green2", "cyan3", "dark_turquoise", "turquoise2", "green1",
    "spring_green1", "medium_spring_green", "cyan2", "cyan1", "dark_red", "deep_pink4", "purple4",
    "purple3", "blue_violet", "orange4", "grey37", "gray37", "medium_purple4", "slate_blue3",
    "royal_blue1", "chartreuse4", "dark_sea_green4", "pale_turquoise4", "steel_blue",
    "steel_blue3", "cornflower_blue", "chartreuse3", "cadet_blue", "sky_blue3", "steel_blue1",
    "pale_green3", "sea_green3", "aquamarine3", "medium_turquoise", "chartreuse2", "sea_green2",
    "sea_green1", "aquamarine1", "dark_slate_gray2", "dark_magenta", "dark_violet", "purple",
    "light_pink4", "plum4", "medium_purple3", "slate_blue1", "yellow4", "wheat4", "grey53",
    "gray53", "light_slate_grey", "light_slate_gray", "medium_purple", "light_slate_blue",
    "dark_olive_green3", "dark_sea_green", "light_sky_blue3", "sky_blue2", "dark_sea_green3",
    "dark_slate_gray3", "sky_blue1", "chartreuse1", "light_green", "pale_green1",
    "dark_slate_gray1", "red3", "medium_violet_red", "magenta3", "dark_orange3", "indian_red",
    "hot_pink3", "medium_orchid3", "medium_orchid", "medium_purple2", "dark_goldenrod",
    "light_salmon3", "rosy_brown", "grey63", "gray63", "medium_purple1", "gold3", "dark_khaki",
    "navajo_white3", "grey69", "gray69", "light_steel_blue3", "light_steel_blue", "yellow3",
    "dark_sea_green2", "light_cyan3", "light_sky_blue1", "green_yellow", "dark_olive_green2",
    "dark_sea_green1", "pale_turquoise1", "deep_pink3", "magenta2", "hot_pink2", "orchid",
    "medium_orchid1", "orange3", "light_pink3", "pink3", "plum3", "violet", "light_goldenrod3",
    "tan", "misty_rose3", "thistle3", "plum2", "khaki3", "light_goldenrod2", "light_yellow3",
    "grey84", "gray84", "light_steel_blue1", "yellow2", "dark_olive_green1", "honeydew2",
    "light_cyan1", "red1", "deep_pink2", "deep_pink1", "magenta1", "orange_red1", "indian_red1",
    "hot_pink", "dark_orange", "salmon1", "light_coral", "pale_violet_red1", "orchid2", "orchid1",
    "orange1", "sandy_brown", "light_salmon1", "light_pink1", "pink1", "plum1", "gold1",
    "navajo_white1", "misty_rose1", "thistle1", "yellow1", "light_goldenrod1", "khaki1", "wheat1",
    "cornsilk1", "grey100", "gray100", "grey3", "gray3", "grey7", "gray7", "grey11", "gray11",
    "grey15", "gray15", "grey19", "gray19", "grey23", "gray23", "grey27", "gray27", "grey30",
    "gray30", "grey35", "gray35", "grey39", "gray39", "grey42", "gray42", "grey46", "gray46",
    "grey50", "gray50", "grey54", "gray54", "grey58", "gray58", "grey62", "gray62", "grey66",
    "gray66", "grey70", "gray70", "grey74", "gray74", "grey78", "gray78", "grey82", "gray82",
    "grey85", "gray85", "grey89", "gray89", "grey93", "gray93"]

/-- The colors that have names. -/
def colorNames : List String :=
  let basic := ["black", "red", "green", "yellow", "blue", "magenta", "cyan", "white"]
  "default" :: basic ++ basic.map ("bright_" ++ ·) ++ paletteNames

/-- The styles that have names of their own. -/
def themeNames : List String := [
    "success", "error", "warning", "info", "dim", "highlight", "module", "package", "none",
    "reset", "bright", "bold", "strong", "code", "italic", "emphasize", "underline", "blink",
    "blink2", "reverse", "strike", "black", "red", "green", "yellow", "magenta", "cyan", "white",
    "inspect.attr", "inspect.attr.dunder", "inspect.callable", "inspect.async_def", "inspect.def",
    "inspect.class", "inspect.error", "inspect.equals", "inspect.help", "inspect.doc",
    "inspect.value.border", "live.ellipsis", "layout.tree.row", "layout.tree.column",
    "logging.keyword", "logging.level.notset", "logging.level.debug", "logging.level.info",
    "logging.level.warning", "logging.level.error", "logging.level.critical", "log.level",
    "log.time", "log.message", "log.path", "repr.ellipsis", "repr.indent", "repr.error",
    "repr.str", "repr.brace", "repr.comma", "repr.ipv4", "repr.ipv6", "repr.eui48", "repr.eui64",
    "repr.tag_start", "repr.tag_name", "repr.tag_contents", "repr.tag_end", "repr.attrib_name",
    "repr.attrib_equal", "repr.attrib_value", "repr.number", "repr.number_complex",
    "repr.bool_true", "repr.bool_false", "repr.none", "repr.url", "repr.uuid", "repr.call",
    "repr.path", "repr.filename", "rule.line", "rule.text", "json.brace", "json.bool_true",
    "json.bool_false", "json.null", "json.number", "json.str", "json.key", "prompt",
    "prompt.choices", "prompt.default", "prompt.invalid", "prompt.invalid.choice", "pretty",
    "scope.border", "scope.key", "scope.key.special", "scope.equals", "table.header",
    "table.footer", "table.cell", "table.title", "table.caption", "traceback.error",
    "traceback.border.syntax_error", "traceback.border", "traceback.text", "traceback.title",
    "traceback.exc_type", "traceback.exc_value", "traceback.offset", "bar.back", "bar.complete",
    "bar.finished", "bar.pulse", "progress.description", "progress.filesize",
    "progress.filesize.total", "progress.download", "progress.elapsed", "progress.percentage",
    "progress.remaining", "progress.data.speed", "progress.spinner", "status.spinner", "tree",
    "tree.line", "markdown.paragraph", "markdown.text", "markdown.em", "markdown.emph",
    "markdown.strong", "markdown.code", "markdown.code_block", "markdown.block_quote",
    "markdown.list", "markdown.item", "markdown.item.bullet", "markdown.item.number",
    "markdown.hr", "markdown.h1.border", "markdown.h1", "markdown.h2", "markdown.h3",
    "markdown.h4", "markdown.h5", "markdown.h6", "markdown.h7", "markdown.link",
    "markdown.link_url", "markdown.s", "iso8601.date", "iso8601.time", "iso8601.timezone",
    "traceback.note", "traceback.group.border", "markdown.table.border", "markdown.table.header"]

/-- Why a word is no color. -/
inductive ColorFault where
  | unknown (word : String)
  /-- A number in a palette is above 255. -/
  | largeNumber (word : String)
  /-- A color is mixed from another number of parts than three. -/
  | parts (word : String)
  /-- A part is above 255. -/
  | largePart (word : String)
  /-- A part has no digits. -/
  | emptyPart
  deriving DecidableEq, Repr

/-- What is told about a word that is no color. -/
def ColorFault.message : ColorFault → String
  | .unknown word => Text.quoted word ++ " is not a valid color"
  | .largeNumber word => "color number must be <= 255 in " ++ Text.quoted word
  | .parts word => "expected three components in " ++ Text.quoted word
  | .largePart word => "color components must be <= 255 in " ++ Text.quoted word
  | .emptyPart => "invalid literal for int() with base 10: ''"

/-- Why a description of a style cannot be read. -/
inductive StyleFault where
  | noBackground
  | noTarget
  | attribute (word : String)
  | color (word : String) (fault : ColorFault)
  | background (word : String) (fault : ColorFault)
  deriving DecidableEq, Repr

namespace StyleFault

/-- What is told about a description that cannot be read. -/
def message : StyleFault → String
  | .noBackground => "color expected after 'on'"
  | .noTarget => "URL expected after 'link'"
  | .attribute word => "expected style attribute after 'not', found " ++ Text.quoted word
  | .color word fault => s!"unable to parse {Text.quoted word} as color; {fault.message}"
  | .background word fault =>
    s!"unable to parse {Text.quoted word} as background color; {fault.message}"

/-- Whether the fault lies in a part of a color that has no digits. -/
def isEmptyPart : StyleFault → Bool
  | .color _ fault => fault = .emptyPart
  | .background _ fault => fault = .emptyPart
  | _ => false

end StyleFault

/-- What the words of a description say. -/
structure StyleWords where
  /-- Attributes, and whether each is on. -/
  attributes : List (String × Bool)
  color : Option String
  background : Option String
  link : Option String
  deriving DecidableEq, Repr

/-- The attribute of a word. -/
def attribute? (word : String) : Option String :=
  (styleAttributes.find? fun known => known.1 = word || (known.2 = word && !word.isEmpty)).map Prod.fst

/-- The number that decimal digits write. -/
def numberOf (cs : List Char) : Nat :=
  (Text.naturalFrom 0 false cs).getD 0

/-- The text between a word with an opening parenthesis and a closing one. -/
def enclosed? (start : String) (cs : List Char) : Option (List Char) :=
  let rest := cs.drop start.length
  if start.toList.isPrefixOf cs && rest.getLast? = some ')' then some rest.dropLast else none

/-- The color of the palette with a number of one to three digits. -/
def numberedColor? (word : String) (lower : List Char) : Option (Except ColorFault Unit) := do
  let digits ← enclosed? "color(" lower
  guard (1 ≤ digits.length && digits.length ≤ 3 && digits.all Char.isDigit)
  return if numberOf digits ≤ 255 then .ok () else .error (.largeNumber word)

/-- The color that is mixed from three parts. -/
def mixedColor? (word : String) (lower : List Char) : Option (Except ColorFault Unit) := do
  let mixed ← enclosed? "rgb(" lower
  guard (!mixed.isEmpty && mixed.all fun c => c = ',' || Text.isDecimalDigit c)
  let parts := mixed.splitOnP (· = ',')
  return if parts.length ≠ 3 then .error (.parts word)
    else if parts.any List.isEmpty then .error .emptyPart
    else if parts.any fun part => decide (255 < numberOf part) then .error (.largePart word)
    else .ok ()

/-- The color of a word, in small letters: a name, six hexadecimal digits, a number in a palette or three
parts. -/
def colorOf (word : String) : Except ColorFault String :=
  let lower := Text.lowered word
  let isHex (c : Char) : Bool := c.isDigit || ('a' ≤ c && c ≤ 'f')
  let isHexColor :=
    match lower.toList with
    | '#' :: digits => digits.length = 6 && digits.all isHex
    | _ => false
  let found :=
    (numberedColor? lower lower.toList).orElse fun _ => mixedColor? word lower.toList
  if isHexColor || colorNames.contains lower then .ok lower
  else
    match found with
    | some checked => checked.map fun _ => lower
    | none => .error (.unknown word)

/-- Reads the words of a description after `sofar`. -/
def StyleWords.read (sofar : StyleWords) : List String → Except StyleFault StyleWords
  | [] => .ok sofar
  | word :: rest =>
    match Text.lowered word, rest with
    | "on", [] => .error .noBackground
    | "on", word :: rest => do
      let color ← (colorOf word).mapError (StyleFault.background word)
      read { sofar with background := some color } rest
    | "not", [] => .error (.attribute "")
    | "not", word :: rest =>
      match attribute? word with
      | some name => read { sofar with attributes := (name, false) :: sofar.attributes } rest
      | none => .error (.attribute word)
    | "link", [] => .error .noTarget
    | "link", target :: rest => read { sofar with link := some target } rest
    | lower, rest =>
      match attribute? lower with
      | some name => read { sofar with attributes := (name, true) :: sofar.attributes } rest
      | none => do
        let color ← (colorOf lower).mapError (StyleFault.color lower)
        read { sofar with color := some color } rest

/-- The canonical text of what the words of a description say. -/
def StyleWords.text (words : StyleWords) : String :=
  let attributes := styleAttributes.filterMap fun known =>
    (words.attributes.find? fun said => said.1 = known.1).map fun said =>
      if said.2 then known.1 else "not " ++ known.1
  let background := words.background.map ("on " ++ ·)
  let link := words.link.map ("link " ++ ·)
  let said := attributes ++ words.color.toList ++ background.toList ++ link.toList
  if said.isEmpty then "none" else " ".intercalate said

/-- The words of a text, between white space. -/
def blankWords (word : List Char) : List Char → List String
  | [] => if word.isEmpty then [] else [String.ofList word.reverse]
  | c :: rest =>
    if Text.isBlank c then
      if word.isEmpty then blankWords [] rest else String.ofList word.reverse :: blankWords [] rest
    else blankWords (c :: word) rest

/-- What a description says. -/
def StyleWords.ofText (description : String) : Except StyleFault StyleWords :=
  let words := blankWords [] description.toList
  let nothing : StyleWords := ⟨[], none, none, none⟩
  if words = ["none"] then .ok nothing else nothing.read words

/-- The canonical text of a description; one that cannot be read stands for itself, in small letters.
Nothing stands for a color with a part that has no digits. -/
def styleName (description : String) : Except StyleFault String :=
  match StyleWords.ofText description with
  | .ok words => .ok words.text
  | .error fault =>
    if fault.isEmptyPart then .error fault
    else .ok (Text.lowered (Text.trimmed description))

/-- Looks for the style of a name or a description. -/
def checkStyle (name : String) : Except StyleFault Unit :=
  if themeNames.contains name then .ok ()
  else (StyleWords.ofText name).map fun _ => ()

end Pruning.Console
