import Pruning.Console.Styled

/-!
Wrapping: the lines of a text on a page of a given width. A line ends before the first word that does not
fit; a word that is wider than the page is cut into pieces. White space belongs to the word before it, and
may hang over the edge.
-/

namespace Pruning.Console

/-- Where the text of a line stands. -/
inductive Justify where
  /-- Where it starts, with nothing added. -/
  | start
  /-- At the left of a line that is filled with spaces. -/
  | left
  | center
  | right
  /-- At both edges, with wider gaps between the words. -/
  | full
  deriving DecidableEq, Repr

/-- What becomes of text that is wider than the page. -/
inductive Overflow where
  /-- It goes on in the next line. -/
  | fold
  | crop
  /-- It is cut and ends with dots. -/
  | ellipsis
  /-- It is left alone. -/
  | ignore
  deriving DecidableEq, Repr

/-- How text is laid out. -/
structure Layout where
  justify : Justify
  overflow : Overflow
  /-- Whether lines are kept whole. -/
  unwrapped : Bool
  deriving DecidableEq, Repr

/-- Text that goes on in the next line. -/
def Layout.plain : Layout :=
  ⟨.start, .fold, false⟩

/-- The distance between tab stops. -/
def tabStop : Nat := 8

/-- Ends the parts of a line that end with a tab at tab stops; `column` cells are before them. The tab is
one space, and as many follow as are needed. -/
def stopAtTabs (column : Nat) : List Styled → List Styled
  | [] => []
  | part :: rest =>
    if part.chars.getLast? = some '\t' then
      let part := part.withChars (part.chars.dropLast ++ [' '])
      let column := column + part.cells
      let missing := (tabStop - column % tabStop) % tabStop
      part.extend missing :: stopAtTabs (column + missing) rest
    else part :: stopAtTabs (column + part.cells) rest

/-- Writes tabs as spaces up to the next tab stop, at least one. -/
def expandTabs (text : Styled) : Styled :=
  if text.chars.contains '\t' then .join (stopAtTabs 0 text.tabParts) else text

/-- Collects words; `word` is the reversed start of the current one and `solid` tells whether it holds
more than white space. -/
def wordsFrom (word : List Char) (solid : Bool) : List Char → List (List Char)
  | [] => if solid then [word.reverse] else []
  | c :: rest =>
    if !Text.isBlank c && solid && word.head?.any Text.isBlank then
      word.reverse :: wordsFrom [c] true rest
    else wordsFrom (c :: word) (solid || !Text.isBlank c) rest

/-- The words of a line, each with the white space after it and the first also with that before it. -/
def words (cs : List Char) : List (List Char) :=
  wordsFrom [] false cs

/-- How far a page has been filled: the places of its line ends in reverse order, the number of characters
before the next word, and the cells of the last line. -/
structure Filling where
  ends : List Nat
  place : Nat
  used : Nat

namespace Filling

/-- Ends the line at a place; nothing is before the first line. -/
def turn (filling : Filling) (place : Nat) : Filling :=
  if place = 0 then filling else { filling with ends := place :: filling.ends }

/-- Puts the pieces of a word that is wider than the page, each on a line of its own. -/
def fold (filling : Filling) : List (List Char) → Filling
  | [] => filling
  | piece :: rest =>
    let turned := filling.turn filling.place
    fold { turned with place := filling.place + piece.length, used := cells piece } rest

/-- Puts a word on a page of the given width. -/
def put (width : Nat) (folds : Bool) (filling : Filling) (word : List Char) : Filling :=
  let size := cells (Text.trimEnd word)
  let next := filling.place + word.length
  if filling.used + size ≤ width then
    { filling with place := next, used := filling.used + cells word }
  else if width < size then
    if folds then { filling.fold (pieces width word) with place := next }
    else { filling.turn filling.place with place := next, used := cells word }
  else { filling.turn filling.place with place := next, used := cells word }

end Filling

/-- The places at which a line of text ends on a page of `width` cells, not counting white space at the
ends of lines. -/
def lineEnds (width : Nat) (folds : Bool) (cs : List Char) : List Nat :=
  ((words cs).foldl (Filling.put width folds) ⟨[], 0, 0⟩).ends.reverse

/-- Takes white space from the end of a line with more characters than the page has cells. -/
def trimOver (width : Nat) (line : Styled) : Styled :=
  let excess := line.length - width
  let blank := line.length - (Text.trimEnd line.chars).length
  line.withChars (line.chars.take (line.length - min blank excess))

/-- Cuts a line that is wider than the page. -/
def truncate (overflow : Overflow) (width : Nat) (line : Styled) : Styled :=
  if overflow = .ignore || line.cells ≤ width then line
  else if overflow = .ellipsis then line.withChars (fit (width - 1) line.chars ++ ['…'])
  else line.withChars (fit width line.chars)

/-- Spreads the words of a line over the whole width. The gaps at the right are widened first. -/
def spread (width : Nat) (line : Styled) : Styled :=
  let between := line.split ' '
  let parts :=
    if 1 < between.length && between.getLast?.any (·.chars.isEmpty) then between.dropLast
    else between
  let gaps := parts.length - 1
  let extra := width - (sumCells (parts.map Styled.cells) + gaps)
  let gapAfter (index : Nat) : Nat :=
    let fromRight := gaps - index - 1
    1 + extra / gaps + if fromRight < extra % gaps then 1 else 0
  .join (parts.mapIdx fun index part =>
    if index < gaps then part.padEnd (gapAfter index) else part)

/-- Puts the lines of a paragraph where they stand. -/
def justified (layout : Layout) (width : Nat) (lines : List Styled) : List Styled :=
  let cut (line : Styled) : Styled := truncate layout.overflow width line.trimEnd
  let fill (line : Styled) : Styled := line.padEnd (width - line.cells)
  match layout.justify with
  | .start => lines
  | .left => lines.map fun line =>
    if line.cells < width then fill line else truncate layout.overflow width line
  | .center => lines.map fun line =>
    fill ((cut line).padStart ((width - (cut line).cells) / 2))
  | .right => lines.map fun line => (cut line).padStart (width - (cut line).cells)
  | .full => lines.dropLast.map (spread width) ++ lines.getLast?.toList

/-- The lines of a paragraph. -/
def wrapParagraph (layout : Layout) (width : Nat) (text : Styled) : List Styled :=
  let text := expandTabs text
  if layout.overflow = .ignore then [text]
  else
    let folds := layout.overflow = .fold
    let broken :=
      if layout.unwrapped then [text]
      else (text.divide (lineEnds width folds text.chars)).map (trimOver width)
    (justified layout width broken).map (truncate layout.overflow width)

/-- The lines of a text on a page of the given width, each as a row of runs. A page without width shows
nothing. -/
def wrap (layout : Layout) (width : Nat) (text : Styled) : List (List Run) :=
  if width = 0 then []
  else ((text.split '\n').flatMap (wrapParagraph layout width)).map Styled.runs

end Pruning.Console
