import Pruning.Command.Usage
import Pruning.Console
import Pruning.Filing
import Pruning.Log.Line
import Pruning.Text.Digit
import Pruning.Text.Lines

/-!
The shell that a command runs in: a workspace, lines typed by the user, what was written to the output and
to the error output, and how the log is written. A command works on it step by step until it exits or
fails; what was done before stays done.
-/

namespace Pruning.Command

/-- What a command works on. -/
structure Shell where
  workspace : Workspace
  /-- The lines that were typed and not yet read. -/
  typed : List String
  /-- Whether no more lines will be typed. -/
  closed : Bool
  output : String
  errors : String
  /-- How the log is written, once that is known. -/
  log : Option Log.Style
  /-- What is shown of messages and tables. -/
  screen : Console.Screen
  /-- The width that help is laid out for. -/
  helpPage : Nat
  environment : List (String × String)
  /-- The present time, as the log shows it. -/
  time : String

/-- The lines of what was typed. -/
def typedLines (input : String) : List String :=
  let lines := (Text.withLineFeeds input.toList).splitOnP (· = '\n')
  (if lines.getLast?.any List.isEmpty then lines.dropLast else lines).map String.ofList

/-- The variable of the environment that gives the width of the page. -/
def columnsVariable : String := "COLUMNS"

/-- The variable of the environment that gives the height of the page. Nothing depends on the height. -/
def linesVariable : String := "LINES"

/-- The width of the page when nothing gives it. -/
def usualPage : Nat := 80

/-- The number in a variable that gives a size, if it has digits only. There is no page when no number can
be read from them. -/
def sizeOf? (value : Option String) : Except Console.Fault (Option Nat) :=
  match value.filter fun digits => !digits.isEmpty && digits.toList.all Text.isAnyDigit with
  | some digits => ((Text.integer digits).map fun n => some n.toNat).mapError Console.Fault.output
  | none => .ok none

/-- The width of the page, by the variables for width and height. -/
def pageOf (columns lines : Option String) : Except Console.Fault Nat := do
  let width ← sizeOf? columns
  discard (sizeOf? lines)
  return width.getD usualPage

/-- The width that help is laid out for: a positive integer. -/
def helpPageOf (columns : String) : Nat :=
  match Text.integer columns with
  | .ok (.ofNat (n + 1)) => n + 1
  | _ => usualPage

/-- A shell in which nothing has happened yet. Its output takes all texts. -/
def Shell.start (workspace : Workspace) (environment : List (String × String)) (time : String) : Shell :=
  let valueOf? (name : String) := (environment.find? fun entry => entry.1 = name).map Prod.snd
  let columns := valueOf? columnsVariable
  { workspace, environment, time, typed := [], closed := true, output := "", errors := "", log := none
    screen := { Console.Screen.ofPage usualPage with page := pageOf columns (valueOf? linesVariable) }
    helpPage := helpPageOf (columns.getD "") }

/-- Why a command stops. -/
inductive Stop where
  | exit (code : Nat)
  | failure (cause : Failure)
  /-- The next line has not been typed yet. -/
  | waiting
  /-- The output does not take a text. What is shown later stands behind that text, so nothing can be told
  from then on, and no failure is recovered from. -/
  | mute (complaint : String)

end Pruning.Command

namespace Pruning

/-- A command. -/
abbrev Command : Type → Type :=
  ExceptT Command.Stop (StateM Command.Shell)

namespace Command

variable {α : Type}

/-- Stops with an exit code. -/
def exit (code : Nat) : Command α :=
  throw (.exit code)

/-- Stops with a failure. -/
def fail (failure : Failure) : Command α :=
  throw (.failure failure)

/-- The answer of an outcome. -/
def ofOutcome : Except Failure α → Command α
  | .ok a => return a
  | .error failure => fail failure

/-- Does a command, and something else instead when it fails. -/
def rescue (command : Command α) (recover : Failure → Command α) : Command α :=
  tryCatch command fun stop =>
    match stop with
    | .failure failure => recover failure
    | stop => throw stop

/-- A variable of the environment; an empty one counts as missing. -/
def setting? (name : String) : Command (Option String) := do
  let found := (← get).environment.find? fun entry => entry.1 = name
  return (found.map Prod.snd).filter fun value => !value.isEmpty

/-! ## Writing -/

/-- Writes to the output. -/
def say (text : String) : Command Unit :=
  modify fun shell => { shell with output := shell.output ++ text }

/-- Writes to the error output. -/
def complain (text : String) : Command Unit :=
  modify fun shell => { shell with errors := shell.errors ++ text }

/-- Writes what the console shows. -/
def display (shown : Console.Screen → Except Console.Fault String) : Command Unit := do
  let screen := (← get).screen
  match shown screen with
  | .ok text =>
    match screen.refused? text with
    | some complaint => throw (.mute complaint)
    | none => say text
  | .error fault => fail (.display fault)

/-- Writes a message. -/
def tell (tone : Console.Tone) (text : String) : Command Unit :=
  display fun screen => screen.message tone.mark text

/-- Writes a record to the log. -/
def log (record : Record) : Command Unit := do
  let shell ← get
  match shell.log with
  | some style => complain (style.recordLine shell.time record)
  | none => pure ()

/-- Writes a record of a channel to the log. -/
def note (severity : Severity) (channel : Channel) (text : String) : Command Unit :=
  log ⟨severity, channel, text⟩

/-- The line over the trace of a failure. -/
def traceHeading : String := "Traceback (most recent call last):"

/-- Writes a failure that nobody expected to the log. -/
def noteFailure (channel : Channel) (text : String) (failure : Failure) : Command Unit :=
  note .error channel (text ++ "\n" ++ traceHeading ++ "\n  " ++ failure.text)

/-! ## Working -/

/-- Runs a script. -/
def run (script : Script α) : Command α := do
  script.records.forM log
  ofOutcome script.outcome

/-- Runs a script that looks at the workspace. -/
def read (script : Workspace → Script α) : Command α := do
  run (script (← get).workspace)

/-- Runs an operation on the workspace. -/
def file (filing : Filing α) : Command α := do
  let (script, workspace) := filing (← get).workspace
  modify fun shell => { shell with workspace }
  run script

/-! ## Asking -/

/-- What becomes of a question: an answer among the choices, no answer, or a line yet to be typed. -/
inductive Reply where
  | chosen (choice : String)
  | unanswered
  | waiting

/-- Asks until one of the lines is a choice. The first choice stands for an empty line, and case does not
matter. Also gives what is shown meanwhile and the lines that are left. -/
def answerFrom (question : String) (choices : List String) (closed : Bool) :
    List String → Reply × String × List String
  | [] => (if closed then .unanswered else .waiting, question, [])
  | line :: rest =>
    if line.isEmpty then (.chosen (choices.head?.getD ""), question, rest)
    else
      match choices.find? fun choice => Text.folded choice = Text.folded line with
      | some choice => (.chosen choice, question, rest)
      | none =>
        let refusal := "Error: " ++ (Unfit.notAChoice line choices).message ++ "\n"
        let (reply, shown, left) := answerFrom question choices closed rest
        (reply, question ++ refusal ++ shown, left)

/-- Asks a question with some choices. -/
def ask (question : String) (choices : List String) : Command String := do
  let shell ← get
  let first := choices.head?.getD ""
  let prompt := question ++ " (" ++ ", ".intercalate choices ++ ") [" ++ first ++ "]: "
  let (reply, shown, left) := answerFrom prompt choices shell.closed shell.typed
  say shown
  modify fun shell => { shell with typed := left }
  match reply with
  | .chosen choice => return choice
  | .unanswered => fail .unanswered
  | .waiting => throw .waiting

end Command

end Pruning
