import Pruning.Command.Options

/-!
Help pages: the usage line, a description, and the options and commands in two columns.
-/

namespace Pruning.Command

/-- A part of a description. -/
inductive Paragraph where
  /-- Text that is filled into lines. -/
  | flowing (text : String)
  /-- Lines that are shown as they are. -/
  | fixed (lines : List String)

/-- The widest page. -/
def widestPage : Nat := 80

/-- The narrowest page that text is filled into. -/
def narrowestPage : Nat := 50

/-- The columns that help uses of a page. -/
def helpWidth (page : Nat) : Nat :=
  max (min page widestPage - 2) narrowestPage

/-- Spaces. -/
def gap (width : Nat) : String :=
  String.ofList (List.replicate width ' ')

/-- The words of a text between spaces; `word` is the reversed start of the current one. -/
def spacedWords (word : List Char) : List Char → List String
  | [] => if word.isEmpty then [] else [String.ofList word.reverse]
  | c :: rest =>
    if c = ' ' then
      if word.isEmpty then spacedWords [] rest
      else String.ofList word.reverse :: spacedWords [] rest
    else spacedWords (c :: word) rest

/-- A part of a word that stays on one line. -/
structure Piece where
  /-- Whether the piece goes on with the word of the piece before it. -/
  glued : Bool
  text : String
  deriving DecidableEq, Repr

/-- The parts of a word: a line may end after a hyphen between two letters and two more. `part` is the
reversed start of the current one. -/
def partsFrom (part : List Char) : List Char → List String
  | [] => [String.ofList part.reverse]
  | c :: rest =>
    if c = '-' && part.length ≥ 2 && (part.take 2).all Char.isAlpha && rest.length ≥ 2 &&
        (rest.take 2).all Char.isAlpha then
      String.ofList (c :: part).reverse :: partsFrom [] rest
    else partsFrom (c :: part) rest

/-- The pieces of a word. -/
def pieces (word : String) : List Piece :=
  match partsFrom [] word.toList with
  | [] => []
  | first :: rest => ⟨false, first⟩ :: rest.map (⟨true, ·⟩)

/-- Fills pieces into lines of at most `width` characters; `line` is the last line so far. -/
def fillFrom (width : Nat) (line : String) : List Piece → List String
  | [] => [line]
  | piece :: rest =>
    let longer := line ++ (if piece.glued then "" else " ") ++ piece.text
    if longer.length ≤ width then fillFrom width longer rest
    else line :: fillFrom width piece.text rest

/-- A text in lines of at most `width` characters. A longer piece of a word has a line of its own. -/
def fill (width : Nat) (text : String) : List String :=
  match (spacedWords [] text.toList).flatMap pieces with
  | [] => []
  | first :: rest => fillFrom width first.text rest

/-- What shows that a text was cut. -/
def ellipsis : String := "..."

/-- A text of at most `width` characters: a longer one is cut after a word. -/
def shorten (width : Nat) (text : String) : String :=
  if text.length ≤ width then text
  else ((fill (width - ellipsis.length) text).head?.getD "") ++ ellipsis

/-- The lines of a paragraph. -/
def Paragraph.lines (width : Nat) : Paragraph → List String
  | .flowing text => (fill (width - 2) text).map ("  " ++ ·)
  | .fixed lines => lines.map ("  " ++ ·)

/-- The widest first column that text stands beside. -/
def widestTerm : Nat := 30

/-- The lines of two columns. A term that is too wide has a line of its own. -/
def twoColumns (width : Nat) (rows : List (String × String)) : List String :=
  let widest := (rows.map fun row => row.1.length).foldl max 0
  let start := min widest widestTerm + 2
  rows.flatMap fun row =>
    let text := fill (max (width - start - 2) 10) row.2
    let beside := text.map (gap (start + 2) ++ ·)
    match text with
    | first :: _ =>
      if row.1.length + 2 ≤ start then
        ("  " ++ row.1 ++ gap (start - row.1.length) ++ first) :: beside.drop 1
      else ("  " ++ row.1) :: beside
    | [] => ["  " ++ row.1]

/-- The names of an option as help shows them: short ones first, and those that turn it off behind. -/
def OptionSpec.term (option : OptionSpec) : String :=
  let isShort (name : String) : Bool := name.length = 2
  let names := option.names.filter isShort ++ option.names.filter fun name => !isShort name
  let value := (option.valueName.map (" " ++ ·)).getD ""
  " / ".intercalate (", ".intercalate names :: option.offNames) ++ value

namespace Scope

/-- The first sentence about a command. -/
def summary : Scope → String
  | .program => "depprune — find and remove unused module dependencies."
  | .analyze => "Report unused dependencies declared by MANIFEST."
  | .prune => "Remove unused dependencies from MANIFEST."

/-- What is said of the program or of a command after that. -/
def description : Scope → List Paragraph
  | .program => [
      .fixed ["Available commands:",
        "  depprune analyze MANIFEST    Report unused dependencies",
        "  depprune prune MANIFEST      Remove unused dependencies"],
      .fixed ["Examples:",
        "  depprune analyze META-INF/MANIFEST.MF -r plugins/ -u used.txt",
        "  depprune prune META-INF/MANIFEST.MF -r plugins/ -u used.txt --dry-run",
        "  depprune -v analyze META-INF/MANIFEST.MF --snapshot registry.json"],
      .flowing "Use \x60\x60depprune COMMAND --help\x60\x60 for command-specific options."]
  | .analyze => [
      .flowing ("Exits with 1 when unused dependencies were found, 0 when every declared " ++
        "dependency is needed.")]
  | .prune => [
      .flowing ("Exits with 0 when the manifest was pruned or nothing needed pruning, 1 on " ++
        "error.")]

/-- The columns beside the names of the commands and what is said of them. -/
def commandMargin : Nat := 6

/-- The help page, laid out for a page of the given width. -/
def help (scope : Scope) (page : Nat) : String :=
  let width := helpWidth page
  let paragraphs := (.flowing scope.summary :: scope.description).flatMap fun paragraph =>
    "" :: paragraph.lines width
  let options := twoColumns width (scope.options.map fun option => (option.term, option.help))
  let commands :=
    match scope with
    | .program =>
      let widest := (commands.map fun command => command.name.length).foldl max 0
      ["", "Commands:"] ++ twoColumns width (commands.map fun command =>
        (command.name, shorten (width - widest - commandMargin) command.summary))
    | _ => []
  "\n".intercalate (scope.usage :: paragraphs ++ ["", "Options:"] ++ options ++ commands) ++ "\n"

end Scope

end Pruning.Command
