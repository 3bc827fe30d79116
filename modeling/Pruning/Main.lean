import Pruning.Program
import Std.Time.Zoned

/-!
The command line. The files that the arguments and the configuration name are read into a workspace, the
program runs on it, and the files that it changed are written.
-/

namespace Pruning

/-- The path of a place, as the system takes it. -/
def systemPath (place : List String) : String :=
  "/" ++ "/".intercalate place

/-- The file or the folder at a place, put into the workspace. Of the files in a folder only manifests are
read; `isNamed` tells whether the place itself was named. -/
partial def load (isNamed : Bool) (w : Workspace) (place : List String) : IO Workspace := do
  let listing : IO (Array IO.FS.DirEntry) := do
    let folder ← IO.FS.realPath (systemPath place)
    folder.readDir
  match ← listing.toBaseIO with
  | .ok entries =>
    entries.foldlM (fun w entry => load false w (place ++ [entry.fileName])) (w.withFolders place)
  | .error _ =>
    if !isNamed && place.getLast? ≠ Workspace.manifestNames.getLast? then return w
    match ← (IO.FS.readBinFile (systemPath place)).toBaseIO with
    | .ok content => return w.seed place content
    | .error _ => return w

/-- The texts in an argument that may be paths: all of it, what follows an equals sign, and what follows the
letter of an option. -/
def pathsIn (arg : String) : List String :=
  let cs := arg.toList
  [arg, String.ofList ((cs.dropWhile (· ≠ '=')).drop 1), String.ofList (cs.drop 2)]

/-- The configuration that a run would have. -/
def configOf (args : List String) (shell : Command.Shell) : Option Config :=
  let command : Command Config := do
    let (preferences, _) ← Command.readPreferences args
    Command.loadConfig preferences.config
  match (StateT.run (ExceptT.run command) shell).1 with
  | .ok config => some config
  | .error _ => none

/-- A number with at least two digits. -/
def twoDigits (n : Int) : String :=
  if n < 10 then s!"0{n}" else toString n

/-- The present time: as the log shows it, and as it is written in names. -/
def presentTime : IO (String × String) := do
  let now ← Std.Time.PlainDateTime.now
  let date := [now.year.toInt, now.month.val, now.day.val].map twoDigits
  let clock := [now.hour.val, now.minute.val, now.second.val].map twoDigits
  return ("-".intercalate date ++ " " ++ ":".intercalate clock, String.join date ++ "_" ++ String.join clock)

/-- The variables that the program looks at. -/
def readEnvironment : IO (List (String × String)) :=
  [Command.configVariable, Command.colorVariable, Command.columnsVariable, Command.linesVariable,
    "NO_COLOR", "CI"].filterMapM fun name => do return (← IO.getEnv name).map fun value => (name, value)

/-- Runs the program, and runs it again with one more line each time that it waits for one. Of the first
`shown` and `complained` characters of the outputs nothing is written any more. In versions case is ignored
among the letters of ASCII. -/
partial def converse (args : List String) (shell : Command.Shell) (shown complained : Nat) :
    IO (Ending × Command.Shell) := do
  let _casing := Version.Casing.ascii
  let (ending, after) := runProgram args shell
  IO.print (String.ofList (after.output.toList.drop shown))
  IO.eprint (String.ofList (after.errors.toList.drop complained))
  match ending with
  | .waiting =>
    (← IO.getStdout).flush
    let line ← (← IO.getStdin).getLine
    let typed := shell.typed ++ Command.typedLines line
    converse args { shell with typed, closed := line.isEmpty } after.output.length after.errors.length
  | ending => return (ending, after)

/-- Runs the program in the current folder. -/
def runHere (args : List String) : IO UInt32 := do
  let current := (Path.parse (← IO.currentDir).toString).parts
  let (time, stamp) ← presentTime
  let salt := String.ofList ((stamp.toList.filter Char.isDigit).reverse.take 8)
  let environment ← readEnvironment
  let bare : Workspace := { current, folders := [], files := [], stamp, salt }
  let empty := bare.withFolders current
  let named := [Config.ownName, Config.projectName] ++ environment.map Prod.snd ++ args.flatMap pathsIn
  let loadAll (w : Workspace) (paths : List Path) : IO Workspace :=
    paths.foldlM (fun w p => load true w (w.resolve p).parts) w
  let w ← loadAll empty (named.filterMap fun text => if text.isEmpty then none else some (.parse text))
  let shell := Command.Shell.start w environment time
  let w ←
    match configOf args shell with
    | some config => loadAll w (config.registryPaths ++ config.usedPackages.toList)
    | none => pure w
  let (ending, after) ← converse args { shell with workspace := w, closed := false } 0 0
  after.workspace.files.forM fun file => do
    if w.fileAt? file.1 != some file.2 then IO.FS.writeBinFile (systemPath file.1) file.2
  match ending with
  | .exit code => return code.toUInt32
  | .broken failure =>
    IO.eprintln failure.text
    return 1
  | .waiting => return 1

end Pruning

/-- Runs the program. -/
def main (args : List String) : IO UInt32 :=
  Pruning.runHere args
