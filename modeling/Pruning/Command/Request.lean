import Pruning.Command.Help
import Pruning.Command.Shell

/-!
Requests: what a command is asked to do, read from its arguments. Options are checked in the order in which
they were given, then the manifest; the first one that does not fit is told.
-/

namespace Pruning.Command

variable {α : Type}

/-- The exit code for arguments that do not fit. -/
def misuseCode : Nat := 2

/-- Tells that arguments do not fit, and stops. -/
def refuse (scope : Scope) (misuse : Misuse) : Command α := do
  complain (misuse.text scope)
  exit misuseCode

/-- Shows help, and stops. -/
def showHelp (scope : Scope) : Command α := do
  say (scope.help (← get).helpPage)
  exit 0

/-- What a path may lead to. -/
inductive PathKind where
  | file
  | any
  deriving DecidableEq, Repr

/-- The word for what a path may lead to. -/
def PathKind.word : PathKind → String
  | .file => "File"
  | .any => "Path"

/-- Checks that something of the right kind is at a path. -/
def checkPath (scope : Scope) (names : List String) (kind : PathKind) (typed : String) :
    Command Unit := do
  match (← get).workspace.nodeNamed typed with
  | .ok (.file _) => return
  | .ok .folder =>
    if kind = .file then refuse scope (.refused names (.folder kind.word typed))
  | .error .nullInPath => fail (.system .nullInPath)
  | .error _ => refuse scope (.refused names (.missing kind.word typed))

/-- How findings are shown. -/
inductive Format where
  | table
  | simple
  | json
  deriving DecidableEq, Repr

/-- The format of a word; case does not matter. -/
def Format.named? (word : String) : Option Format :=
  ((formatNames.zip [Format.table, .simple, .json]).find? fun named =>
    named.1 = Text.folded word).map Prod.snd

/-- Checks the values of one option of a command. -/
def checkOption (scope : Scope) (given : List Given) (key : String) : Command Unit := do
  let files (option : OptionSpec) : Command Unit :=
    (value? option.key given).toList.forM (checkPath scope option.names .file)
  if key = registryOption.key then
    (valuesOf key given).forM (checkPath scope registryOption.names .any)
  else if key = snapshotOption.key then files snapshotOption
  else if key = usedPackagesOption.key then files usedPackagesOption
  else if key = formatOption.key then
    match value? key given with
    | none => return
    | some word =>
      if (Format.named? word).isNone then
        refuse scope (.refused formatOption.names (.notAChoice word formatNames))

/-- What the help calls the manifest. -/
def manifestName : String := "MANIFEST"

/-- What the analysis of a module starts from. -/
structure Request where
  manifest : Path
  registry : List Path
  snapshot : Option Path
  usedPackages : Option Path
  /-- The options as they were given. -/
  given : List Given
  deriving DecidableEq, Repr

/-- Reads the arguments of a command. -/
def readRequest (scope : Scope) (args : List String) : Command Request := do
  match readArguments scope.options true args with
  | .error misuse => refuse scope misuse
  | .ok (given, words) =>
    if (keysInOrder given).contains helpOption.key then showHelp scope
    (keysInOrder given).forM (checkOption scope given)
    match words with
    | [] => refuse scope (.missingArgument manifestName)
    | manifest :: extra =>
      checkPath scope [manifestName] .file manifest
      if !extra.isEmpty then refuse scope (.extraArguments extra)
      return {
        manifest := .parse manifest
        registry := (valuesOf registryOption.key given).map Path.parse
        snapshot := (value? snapshotOption.key given).map Path.parse
        usedPackages := (value? usedPackagesOption.key given).map Path.parse
        given }

/-! ## The program -/

/-- What the options of the program say. -/
structure Preferences where
  config : Option Path
  verbosity : Nat
  color : Bool

/-- The words for yes and no. -/
def yesWords : List String := ["1", "on", "t", "true", "y", "yes"]

/-- The words for no. -/
def noWords : List String := ["", "0", "f", "false", "n", "no", "off"]

/-- All words for yes and no in alphabetical order. -/
def booleanWords : List String :=
  (yesWords ++ noWords).mergeSort fun a b => decide (a ≤ b)

/-- What a word for yes or no says; case and white space around it do not matter. -/
def boolean? (word : String) : Option Bool :=
  let word := Text.lowered (Text.trimmed word)
  if yesWords.contains word then some true
  else if noWords.contains word then some false
  else none

/-- The variable that stands for the option for the configuration file. -/
def configVariable : String := "DEPPRUNE_CONFIG"

/-- The variable that stands for the option for colors. -/
def colorVariable : String := "DEPPRUNE_COLOR"

/-- Checks one option of the program, which may also be given by a variable. -/
def checkPreference (given : List Given) (key : String) : Command Unit := do
  if key = configOption.key then
    match value? key given <|> (← setting? configVariable) with
    | some typed => checkPath .program configOption.names .file typed
    | none => return
  else if key = colorOption.key && (switch? key given).isNone then
    match ← setting? colorVariable with
    | none => return
    | some word =>
      if (boolean? word).isNone then
        refuse .program (.refused colorOption.names (.notABoolean word booleanWords))

/-- The version of the program. -/
def versionText : String := "0.1.0.dev0"

/-- Reads the arguments of the program: its preferences, and the words with the command. -/
def readPreferences (args : List String) : Command (Preferences × List String) := do
  if args.isEmpty then
    complain (Scope.help .program (← get).helpPage)
    exit misuseCode
  match readArguments (Scope.options .program) false args with
  | .error misuse => refuse .program misuse
  | .ok (given, words) =>
    let keys := keysInOrder given
    match keys.find? fun key => [helpOption.key, versionOption.key].contains key with
    | none => pure ()
    | some key =>
      if key = helpOption.key then showHelp .program
      say (rootChannel ++ " " ++ versionText ++ "\n")
      exit 0
    (keys ++ [configOption.key, colorOption.key].filter fun key => !keys.contains key).forM
      (checkPreference given)
    let config := value? configOption.key given <|> (← setting? configVariable)
    let color := switch? colorOption.key given <|> (← setting? colorVariable).bind boolean?
    return (⟨config.map Path.parse, (switchesOf verboseOption.key given).length, color.getD true⟩,
      words)

end Pruning.Command
