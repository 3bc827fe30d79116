import Pruning.Command.Prune
import Pruning.Config.File

/-!
The program: preferences, configuration, log and command, and how a run ends.
-/

namespace Pruning.Command

/-- Sets up the log. -/
def setUpLog (verbosity : Nat) : Command Unit := do
  let style := Log.Style.of verbosity false (← get).environment
  modify fun shell => { shell with log := some style }
  note .debug .cli s!"Logging initialized at {Log.levelName style.threshold} level"

/-- Loads the configuration. One that is at fault is told at once. -/
def loadConfig (path : Option Path) : Command Config :=
  rescue (read fun w => Config.load w path) fun failure => do
    match failure with
    | .config _ _ =>
      tell .error failure.text
      exit 1
    | failure => fail failure

/-- Writes to the log what the program works with. -/
def notePreferences (preferences : Preferences) (config : Config) : Command Unit := do
  let path := preferences.config <|> config.source
  note .debug .cli s!"depprune v{versionText}"
  note .debug .cli ("Config path: " ++ (path.map Path.text).getD "None")
  if config.source.isSome then
    note .debug .cli ("Loaded configuration: " ++ config.json.literal)
  let color := (Json.bool preferences.color).literal
  note .debug .cli s!"Verbosity: {preferences.verbosity} | Color: {color}"

/-- Runs the command of a command line. -/
def program [Version.Casing] (args : List String) : Command Unit := do
  let (preferences, words) ← readPreferences args
  match words with
  | [] => refuse .program .missingCommand
  | name :: args =>
    match Scope.named? name with
    | none =>
      if isOption name then discard (readPreferences words)
      refuse .program (.unknownCommand name (Text.guesses name (Scope.commands.map Scope.name)))
    | some command =>
      setUpLog preferences.verbosity
      let config ← loadConfig preferences.config
      notePreferences preferences config
      match command with
      | .analyze => analyze config args
      | .prune => prune config args
      | .program => return

/-- Tells a failure that no command has told, and stops. -/
def tellFailure (failure : Failure) : Command Unit := do
  match failure, failure.report? with
  | .cancelled _ _, _ =>
    tell .warning Failure.cancelMessage
    exit 130
  | _, some _ =>
    tell .error failure.text
    exit 1
  | _, none =>
    tell .error ("Unexpected error: " ++ failure.text)
    noteFailure .cli "Unhandled exception in CLI" failure
    exit 1

end Pruning.Command

namespace Pruning

open Command

/-- How a run ends. -/
inductive Ending where
  | exit (code : Nat)
  /-- The failure itself cannot be told. -/
  | broken (failure : Failure)
  /-- The next line has not been typed yet. -/
  | waiting

/-- Runs the program with its arguments. -/
def runProgram [Version.Casing] (args : List String) (shell : Shell) : Ending × Shell :=
  let (stop, shell) := StateT.run (ExceptT.run (rescue (program args) tellFailure)) shell
  match stop with
  | .ok _ => (.exit 0, shell)
  | .error (.exit code) => (.exit code, shell)
  | .error (.failure failure) => (.broken failure, shell)
  | .error .waiting => (.waiting, shell)
  | .error (.mute complaint) => (.broken (.display (.output complaint)), shell)

end Pruning
