import Pruning.Log

/-!
Lines of the log. A line shows the level of a record and its text; a detailed line also shows the time and
the channel. On a terminal the names of the usual levels are colored.
-/

namespace Pruning.Log

/-- The levels that have names. -/
def levelNames : List (Int × String) :=
  [(0, "NOTSET"), (10, "DEBUG"), (20, "INFO"), (30, "WARNING"), (40, "ERROR"), (50, "CRITICAL")]

/-- The name of a level. -/
def levelName (level : Int) : String :=
  match levelNames.find? fun named => named.1 = level with
  | some named => named.2
  | none => s!"Level {level}"

/-- Short names of levels, which are understood and not shown. -/
def levelAliases : List (Int × String) :=
  [(30, "WARN"), (50, "FATAL")]

/-- The level of a name. -/
def levelNamed (name : String) : Int :=
  match (levelNames ++ levelAliases).find? fun named => named.2 = name with
  | some named => named.1
  | none => 0

/-- The lowest level that is shown. -/
def threshold (verbosity : Int) : Int :=
  if verbosity ≤ 0 then 30 else if verbosity = 1 then 20 else 10

/-- The full name of a channel that is given by a short or by a full name. -/
def channelNamed (name : String) : String :=
  if name.isEmpty || name = rootChannel then rootChannel
  else if (rootChannel ++ ".").toList.isPrefixOf name.toList then name
  else rootChannel ++ "." ++ name

/-- How lines are written. -/
structure Style where
  /-- The lowest level that is shown. -/
  threshold : Int
  detailed : Bool
  colored : Bool
  deriving DecidableEq, Repr

/-- The style for how often more output was asked for. Colors are for a terminal, unless the environment
turns them off. -/
def Style.of (verbosity : Int) (terminal : Bool) (environment : List (String × String)) : Style :=
  let isSet (name : String) : Bool :=
    environment.any fun entry => entry.1 = name && !entry.2.isEmpty
  { threshold := Log.threshold verbosity
    detailed := decide (2 ≤ verbosity)
    colored := terminal && !isSet "NO_COLOR" && !isSet "CI" }

/-- The color of a level: the number of a terminal's foreground color. -/
def colorOf? (level : Int) : Option Nat :=
  if level = 10 then some 36
  else if level = 20 then some 32
  else if level = 30 then some 33
  else if level = 40 then some 31
  else if level = 50 then some 35
  else none

/-- The name of a level in its color. -/
def Style.levelText (style : Style) (level : Int) : String :=
  match style.colored, colorOf? level with
  | true, some color => s!"\x1b[{color}m{levelName level}\x1b[0m"
  | _, _ => levelName level

/-- The line of a record, or nothing when its level is too low. -/
def Style.line (style : Style) (time channel : String) (level : Int) (text : String) : String :=
  if level < style.threshold then ""
  else if style.detailed then s!"{time} - {channel} - {style.levelText level} - {text}\n"
  else s!"{style.levelText level}: {text}\n"

/-- The line of a record of the program. -/
def Style.recordLine (style : Style) (time : String) (record : Record) : String :=
  style.line time record.channel.name record.severity.rank record.text

end Pruning.Log
