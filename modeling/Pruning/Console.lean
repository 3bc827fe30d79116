import Pruning.Console.Markup
import Pruning.Console.Table
import Pruning.Fields

/-!
The console: messages and tables on the page of a screen. Their texts are markup, and a text whose tags
cannot be read is not shown at all. A screen stands for what the console depends on and the program does
not decide: how wide the page is, which texts are values, and which texts the output takes. Nothing is
shown in color.
-/

namespace Pruning.Console

/-- How a message is meant. -/
inductive Tone where
  | success
  | error
  | warning
  deriving DecidableEq, Repr

/-- The mark in front of a message. -/
def Tone.mark : Tone → String
  | .success => "[OK]"
  | .error => "[ERROR]"
  | .warning => "[WARNING]"

/-- Lines as text. -/
def linesText (lines : List (List Run)) : String :=
  String.join (lines.map fun line => String.ofList (line.flatten ++ ['\n']))

/-- Why something cannot be shown. -/
inductive Fault where
  | markup (fault : Markup.Fault)
  /-- The style of a column is not known. -/
  | style (name : String) (fault : StyleFault)
  /-- There is no page, or the output does not take what is shown. -/
  | output (complaint : String)
  deriving DecidableEq, Repr

/-- What is told when something cannot be shown. -/
def Fault.message : Fault → String
  | .markup fault => fault.message
  | .style name fault =>
    if fault.isEmptyPart then ColorFault.emptyPart.message
    else s!"Failed to get style {Text.quoted name}; {fault.message}"
  | .output complaint => complaint

/-- What the console depends on. -/
structure Screen where
  /-- The width of the page, or why there is none. -/
  page : Except Fault Nat
  /-- How the parameters of tags are read. -/
  evaluate : Literal.Evaluation
  /-- Why the output does not take a text, if so. -/
  refused? : String → Option String
  /-- Nothing, and a line end, are taken by every output. -/
  takesLineEnds : ∀ text, text = "" ∨ text = "\n" → refused? text = none

/-- A screen with a page of a width, on which everything can be written. -/
def Screen.ofPage (page : Nat) : Screen :=
  ⟨.ok page, Literal.check, fun _ => none, fun _ _ => rfl⟩

/-- A text with tags as a styled text. -/
def styledText (evaluate : Literal.Evaluation) (text : String) : Except Fault Styled :=
  (Markup.styled evaluate text.toList).mapError Fault.markup

namespace Screen

variable (screen : Screen)

/-- A message with a mark in front of it, as it is shown. -/
def message (mark text : String) : Except Fault String := do
  let page ← screen.page
  let shown ← styledText screen.evaluate (mark ++ " " ++ text)
  return linesText ((wrap .plain page shown).map (limitRuns page))

/-- A text without tags, as it is shown. -/
def verbatim (text : String) : Except Fault String := do
  let page ← screen.page
  let shown := Styled.plain (Markup.shown (Picture.drawn text.toList))
  return linesText ((wrap .plain page shown).map (limitRuns page))

/-- What is seen when a page is laid out: nothing. -/
def blank : Except Fault String :=
  screen.page.map fun _ => ""

/-- The empty line that a finished progress bar leaves on a page with a width. -/
def finishedBar : Except Fault String :=
  screen.page.map fun page => if page = 0 then "" else "\n"

end Screen

/-- How the cells of a column are laid out. -/
structure ColumnStyle where
  width : Option Nat
  layout : Layout
  /-- The style of the cells, empty when they have none. -/
  style : String
  deriving DecidableEq, Repr

/-- A column without a style of its own. -/
def ColumnStyle.plain : ColumnStyle :=
  ⟨none, .plain, ""⟩

/-- A table of rows, as they are to be shown. -/
structure Sheet where
  rows : List (Fields String)
  /-- The headings of the columns. -/
  headings : List String
  /-- The style of the column under a heading. -/
  style : String → ColumnStyle
  title : String
  caption : String
  ruled : Bool

namespace Sheet

/-- The text without its tags; a text that cannot be shown counts as empty. -/
def shownText (evaluate : Literal.Evaluation) (text : String) : Styled :=
  match Markup.styled evaluate text.toList with
  | .ok shown => shown
  | .error _ => .plain []

/-- The cells of a row. -/
def row (sheet : Sheet) (row : Fields String) : List String :=
  sheet.headings.map fun heading => (Fields.get? heading row).getD ""

/-- The heading and the cells of a column. -/
def columnTexts (sheet : Sheet) (heading : String) : List String :=
  heading :: sheet.rows.map fun row => (Fields.get? heading row).getD ""

/-- The column under a heading. -/
def column (evaluate : Literal.Evaluation) (sheet : Sheet) (heading : String) : Column :=
  let style := sheet.style heading
  let cells := (sheet.columnTexts heading).tail
  ⟨shownText evaluate heading, cells.map (shownText evaluate), style.width, style.layout⟩

/-- The table of a sheet. An empty title or caption is none; others have a style of their own. -/
def table (evaluate : Literal.Evaluation) (sheet : Sheet) : Table :=
  let legend (text : String) := if text.isEmpty then none else some (shownText evaluate text).inStyle
  ⟨sheet.headings.map (sheet.column evaluate), legend sheet.title, legend sheet.caption, sheet.ruled⟩

/-- Checks the style of a column. -/
def checkColumn (sheet : Sheet) (heading : String) : Except Fault Unit :=
  let style := (sheet.style heading).style
  (checkStyle style).mapError (Fault.style style)

/-- Checks texts with tags. -/
def checkTexts (evaluate : Literal.Evaluation) (texts : List String) : Except Fault Unit :=
  texts.forM fun text => (styledText evaluate text).map fun _ => ()

/-- Checks everything on a sheet in the order in which it is read: columns whose width depends on their
texts, the title, the styles of all columns, cells that have room row by row, and the caption. -/
def check (evaluate : Literal.Evaluation) (page : Nat) (sheet : Sheet) : Except Fault Unit := do
  let table := sheet.table evaluate
  let room := page - table.frame
  let measured := sheet.headings.filter fun heading => (sheet.style heading).width.isNone
  if 0 < room then
    measured.forM fun heading => do
      sheet.checkColumn heading
      if padding < room then checkTexts evaluate (sheet.columnTexts heading)
  checkTexts evaluate [sheet.title]
  sheet.headings.forM sheet.checkColumn
  let hasRoom := (table.widths page).map fun width => decide (padding < width)
  (sheet.headings :: sheet.rows.map sheet.row).forM fun texts =>
    checkTexts evaluate (((texts.zip hasRoom).filter Prod.snd).map Prod.fst)
  checkTexts evaluate [sheet.caption]

/-- The sheet as it is shown. A sheet without rows is not shown. -/
def text (screen : Screen) (sheet : Sheet) : Except Fault String := do
  if sheet.rows.isEmpty then return ""
  let page ← screen.page
  if page = 0 then return ""
  unless sheet.headings.isEmpty do sheet.check screen.evaluate page
  return linesText ((sheet.table screen.evaluate).lines page)

end Sheet

/-- A kind of dependency in its style; other words stand for themselves. -/
def kindLabel (kind : String) : String :=
  let style := Text.lowered kind
  if style = "module" || style = "package" then s!"[{style}]{kind}[/{style}]" else kind

end Pruning.Console
