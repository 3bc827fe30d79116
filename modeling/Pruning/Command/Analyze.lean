import Pruning.Command.Request
import Pruning.Inputs
import Pruning.Analysis
import Pruning.Json.Printer

/-!
The command that reports the unused dependencies of a manifest.
-/

namespace Pruning.Command

/-- Analyses a module with the inputs of a request. The progress bar leaves an empty line behind. -/
def analyzeModule [Version.Casing] (config : Config) (request : Request) (m : Module) (showsProgress : Bool) :
    Command Findings := do
  let mark := m.mark + 1
  let registry ← read fun w => Inputs.registry w mark config request.registry request.snapshot
  let used ← ofOutcome (Inputs.usedPackages config request.usedPackages)
  let analysis := Analysis.run m registry (Oracle.ofFile (← get).workspace used)
  if showsProgress then display Console.Screen.blank
  analysis.records.forM log
  if showsProgress then display Console.Screen.finishedBar
  ofOutcome analysis.outcome

/-- Tells why a command fails, and stops. A failure without a report is one that nobody expected. -/
def giveUp (channel : Channel) (name : String) (failure : Failure) : Command Unit := do
  match failure, failure.report? with
  | .cancelled _ _, _ =>
    tell .warning Failure.cancelMessage
    exit 130
  | _, some _ =>
    tell .error failure.text
    exit 1
  | _, none =>
    tell .error ("Unexpected error: " ++ failure.text)
    noteFailure channel s!"Error in {name} command" failure
    exit 1

/-- Reads the manifest of a request. -/
def readManifest (request : Request) : Command Module :=
  read fun w => w.loadModule 0 request.manifest

/-- What is told of a manifest without a module id. -/
def noModule (request : Request) : String :=
  s!"{request.manifest} does not declare a module id"

/-- The table of entries, with a width for the column of their kinds if that is given. -/
def entrySheet (title : String) (kindWidth : Option Nat) (entries : List Entry) : Console.Sheet where
  rows := entries.map fun entry =>
    [("Kind", Console.kindLabel entry.kind), ("Dependency", entry.name), ("Detail", entry.detail)]
  headings := ["Kind", "Dependency", "Detail"]
  style heading :=
    match heading with
    | "Kind" => ⟨kindWidth, ⟨.center, .fold, true⟩, ""⟩
    | "Dependency" => ⟨none, ⟨.start, .fold, true⟩, "bold"⟩
    | _ => { Console.ColumnStyle.plain with style := "dim" }
  title := title
  caption := ""
  ruled := false

/-- Shows findings as a table, and a summary below it. -/
def showTable (findings : Findings) : Command Unit := do
  if findings.hasUnused then
    let title := "Unused dependencies of " ++ findings.moduleId
    display fun screen => (entrySheet title (some 9) findings.unused).text screen
    tell .warning ("\n" ++ findings.summary)
  else tell .success (findings.moduleId ++ ": all declared dependencies are used")

/-- The width of the kinds in a plain list. -/
def kindWidth : Nat := 7

/-- Shows findings as a plain list, one entry a line. -/
def showSimple (findings : Findings) : Command Unit := do
  display Console.Screen.blank
  findings.unused.forM fun entry => display fun screen =>
    screen.verbatim (entry.kind ++ gap (kindWidth - entry.kind.length) ++ " " ++ entry.name)

/-- Shows findings as JSON. -/
def showJson (findings : Findings) : Command Unit :=
  say (findings.json.pretty ++ "\n")

/-- Shows findings in a format. -/
def showFindings (format : Format) (findings : Findings) : Command Unit :=
  match format with
  | .table => showTable findings
  | .simple => showSimple findings
  | .json => showJson findings

/-- Reports the unused dependencies of a manifest, and whether there are any. -/
def report [Version.Casing] (config : Config) (request : Request) (format : Format) : Command Bool := do
  note .info .analyze s!"Analyzing {request.manifest}..."
  let m ← readManifest request
  if m.hasId then
    let findings ← analyzeModule config request m (format = .table)
    showFindings format findings
    return findings.hasUnused
  else
    if format = .json then showJson .none else tell .warning (noModule request)
    return false

/-- Runs the command. The exit code tells whether anything is unused. -/
def analyze [Version.Casing] (config : Config) (args : List String) : Command Unit := do
  let request ← readRequest .analyze args
  let format := ((value? formatOption.key request.given).bind Format.named?).getD .table
  let work : Command Unit := do
    let hasUnused ← report config request format
    exit (if hasUnused then 1 else 0)
  rescue work (giveUp .analyze (Scope.name .analyze))

end Pruning.Command
