import Pruning.Log
import Pruning.Text.Quoted

/-!
Usage of the program: its commands, and what is told when the arguments do not fit them.
-/

namespace Pruning.Command

/-- What a usage message is about: the program as a whole or one of its commands. -/
inductive Scope where
  | program
  | analyze
  | prune
  deriving DecidableEq, Repr

namespace Scope

/-- The commands of the program. -/
def commands : List Scope := [.analyze, .prune]

/-- The name of a command; the program as a whole has none. -/
def name : Scope → String
  | .program => ""
  | .analyze => "analyze"
  | .prune => "prune"

/-- The command of a name. -/
def named? (name : String) : Option Scope :=
  commands.find? fun command => command.name = name

/-- The words that lead to a command. -/
def path : Scope → String
  | .program => rootChannel
  | command => rootChannel ++ " " ++ command.name

/-- The usage line. -/
def usage (scope : Scope) : String :=
  "Usage: " ++ scope.path ++
    match scope with
    | .program => " [OPTIONS] COMMAND [ARGS]..."
    | _ => " [OPTIONS] MANIFEST"

end Scope

/-- Why the value of a parameter is refused. -/
inductive Unfit where
  /-- Nothing is at the path; `kind` says what was asked for. -/
  | missing (kind path : String)
  /-- A folder is at the path. -/
  | folder (kind path : String)
  | notAChoice (value : String) (choices : List String)
  /-- The value is none of the words for yes and no. -/
  | notABoolean (value : String) (words : List String)
  deriving DecidableEq, Repr

/-- Why a value is refused, in words. -/
def Unfit.message : Unfit → String
  | .missing kind path => kind ++ " " ++ Text.quoted path ++ " does not exist."
  | .folder kind path => kind ++ " " ++ Text.quoted path ++ " is a directory."
  | .notAChoice value choices =>
    Text.quoted value ++ " is not one of " ++ ", ".intercalate (choices.map Text.quoted) ++ "."
  | .notABoolean value words =>
    Text.quoted value ++ " is not a valid boolean. Recognized values: " ++ ", ".intercalate words

/-- Why arguments do not fit. -/
inductive Misuse where
  /-- No option has the name; the guesses are names that are like it. -/
  | unknownOption (name : String) (guesses : List String)
  /-- An option at the end of the arguments has no value. -/
  | missingValue (option : String)
  /-- A switch was given a value. -/
  | needlessValue (option : String)
  /-- A parameter, known by all of its names, has a value that is refused. -/
  | refused (names : List String) (reason : Unfit)
  | missingArgument (name : String)
  | extraArguments (arguments : List String)
  | unknownCommand (name : String) (guesses : List String)
  | missingCommand
  deriving DecidableEq, Repr

namespace Misuse

/-- Guesses at what was meant, behind a message. -/
def hint (guesses : List String) : String :=
  match guesses.map Text.quoted with
  | [] => ""
  | [guess] => s!" Did you mean {guess}?"
  | guesses => " (Did you mean one of: " ++ ", ".intercalate guesses ++ "?)"

/-- Why arguments do not fit, in words. -/
def message : Misuse → String
  | .unknownOption name guesses => "No such option " ++ Text.quoted name ++ "." ++ hint guesses
  | .missingValue option => "Option " ++ Text.quoted option ++ " requires an argument."
  | .needlessValue option => "Option " ++ Text.quoted option ++ " does not take a value."
  | .refused names reason =>
    let shown := " / ".intercalate (names.map fun name => "'" ++ name ++ "'")
    "Invalid value for " ++ shown ++ ": " ++ reason.message
  | .missingArgument name => "Missing argument '" ++ name ++ "'."
  | .extraArguments arguments =>
    let noun := if arguments.length = 1 then "argument" else "arguments"
    "Got unexpected extra " ++ noun ++ " (" ++ " ".intercalate arguments ++ ")"
  | .unknownCommand name guesses => "No such command " ++ Text.quoted name ++ "." ++ hint guesses
  | .missingCommand => "Missing command."

/-- Whether the usage line is shown before the message. -/
def showsUsage : Misuse → Bool
  | .missingValue _ => false
  | .needlessValue _ => false
  | _ => true

/-- The lines that tell of arguments that do not fit. -/
def text (scope : Scope) (misuse : Misuse) : String :=
  let hint := s!"{scope.usage}\nTry '{scope.path} --help' for help.\n\n"
  (if misuse.showsUsage then hint else "") ++ s!"Error: {misuse.message}\n"

end Misuse

end Pruning.Command
