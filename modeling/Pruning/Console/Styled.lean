import Pruning.Console.Cells
import Pruning.Text.Blank

/-!
Styled texts: characters with stretches that have a style of their own. What a style looks like does not
matter here, only where it starts and ends: a line is shown as a row of runs, one between any two such
places, and each run is measured on its own.
-/

namespace Pruning.Console

/-- The characters of a text from `start` up to `stop`. -/
structure Stretch where
  start : Nat
  stop : Nat
  deriving DecidableEq, Repr

namespace Stretch

/-- The stretch with `count` characters more before it. -/
def shift (count : Nat) (stretch : Stretch) : Stretch :=
  ⟨stretch.start + count, stretch.stop + count⟩

/-- What a part of the text, given by its own stretch, has of a stretch, if it has any of it. -/
def within? (part stretch : Stretch) : Option Stretch :=
  let start := max stretch.start part.start
  let stop := min stretch.stop part.stop
  if start < stop then some ⟨start - part.start, stop - part.start⟩ else none

end Stretch

/-- A text with styled stretches. -/
structure Styled where
  chars : List Char
  stretches : List Stretch
  deriving DecidableEq, Repr

/-- A part of a line that is shown in one style. -/
abbrev Run := List Char

namespace Styled

/-- A text without styles. -/
def plain (cs : List Char) : Styled :=
  ⟨cs, []⟩

/-- The number of characters. -/
def length (text : Styled) : Nat :=
  text.chars.length

/-- The cells that the text takes when it is measured as a whole. -/
def cells (text : Styled) : Nat :=
  Console.cells text.chars

/-- The part of a text that a stretch covers. -/
def part (text : Styled) (place : Stretch) : Styled :=
  ⟨(text.chars.take place.stop).drop place.start, text.stretches.filterMap place.within?⟩

/-- The parts between ascending places. A text that is divided nowhere is left as it is; otherwise
stretches without characters are lost. -/
def divide (places : List Nat) (text : Styled) : List Styled :=
  if places.isEmpty then [text]
  else ((0 :: places).zip (places ++ [text.length])).map fun ends => text.part ⟨ends.1, ends.2⟩

/-- The places of a character. -/
def placesOf (sep : Char) (text : Styled) : List Nat :=
  (text.chars.zipIdx.filter fun entry => entry.1 = sep).map Prod.snd

/-- The parts between characters `sep`. -/
def split (sep : Char) (text : Styled) : List Styled :=
  match text.placesOf sep with
  | [] => [text]
  | places =>
    ((0 :: places.map (· + 1)).zip (places ++ [text.length])).map fun ends =>
      text.part ⟨ends.1, ends.2⟩

/-- Puts texts one after the other. -/
def join (texts : List Styled) : Styled :=
  texts.foldl
    (fun sofar text =>
      ⟨sofar.chars ++ text.chars, sofar.stretches ++ text.stretches.map (·.shift sofar.length)⟩)
    (plain [])

/-- The parts of a text, each up to the end of a tab. -/
def tabParts (text : Styled) : List Styled :=
  text.divide ((text.placesOf '\t').map (· + 1))

/-- The text in a style that is its own: where a line has tabs, each part of it is a stretch. -/
def inStyle (text : Styled) : Styled :=
  let covered (part : Styled) : Styled := ⟨part.chars, ⟨0, part.length⟩ :: part.stretches⟩
  let line (text : Styled) : Styled :=
    if text.chars.contains '\t' then join (text.tabParts.map covered) else text
  if text.chars.contains '\t' then
    join (((text.split '\n').map line).intersperse (plain ['\n']))
  else text

/-- The text with other characters, where the styles stay in place; those beyond the end are lost. -/
def withChars (chars : List Char) (text : Styled) : Styled :=
  if chars.length < text.length then
    let kept := text.stretches.filter fun stretch => stretch.start < chars.length
    ⟨chars, kept.map fun stretch => ⟨stretch.start, min stretch.stop chars.length⟩⟩
  else ⟨chars, text.stretches⟩

/-- The text without the white space at its end. -/
def trimEnd (text : Styled) : Styled :=
  text.withChars (Text.trimEnd text.chars)

/-- The text after `count` spaces. -/
def padStart (count : Nat) (text : Styled) : Styled :=
  ⟨spaces count ++ text.chars, text.stretches.map (·.shift count)⟩

/-- The text with `count` spaces at its end. -/
def padEnd (count : Nat) (text : Styled) : Styled :=
  ⟨text.chars ++ spaces count, text.stretches⟩

/-- The text with `count` spaces at its end, in the styles that reach to the end. -/
def extend (count : Nat) (text : Styled) : Styled :=
  ⟨text.chars ++ spaces count, text.stretches.map fun stretch =>
    if text.length ≤ stretch.stop then ⟨stretch.start, stretch.stop + count⟩ else stretch⟩

/-- Collects runs from `place` on; `run` is the reversed start of the present one. -/
def runsFrom (cuts : List Nat) (place : Nat) (run : Run) : List Char → List Run
  | [] => if run.isEmpty then [] else [run.reverse]
  | c :: rest =>
    if cuts.contains place && !run.isEmpty then
      run.reverse :: runsFrom cuts (place + 1) [c] rest
    else runsFrom cuts (place + 1) (c :: run) rest

/-- The runs of the text: it is cut where a style starts or ends. -/
def runs (text : Styled) : List Run :=
  runsFrom (text.stretches.flatMap fun stretch => [stretch.start, stretch.stop]) 0 [] text.chars

end Styled

/-- The cells that widths make together. -/
def sumCells (widths : List Nat) : Nat :=
  widths.foldl (· + ·) 0

/-- The cells of a row of runs. -/
def runCells (runs : List Run) : Nat :=
  sumCells (runs.map cells)

/-- The runs at the start of a row that take `width` cells: a run that reaches the edge is fitted in. -/
def cropRuns (width : Nat) : List Run → List Run
  | [] => []
  | run :: rest =>
    if cells run < width then run :: cropRuns (width - cells run) rest else [fit width run]

/-- A row of runs that is cut when it takes more than `width` cells. -/
def limitRuns (width : Nat) (runs : List Run) : List Run :=
  if width < runCells runs then cropRuns width runs else runs

/-- A row of runs of `width` cells: cut when it takes more, with a run of spaces when it takes less. -/
def fitRuns (width : Nat) (runs : List Run) : List Run :=
  if runCells runs < width then runs ++ [spaces (width - runCells runs)] else limitRuns width runs

end Pruning.Console
