import Pruning.Command.Usage
import Pruning.Text.Likeness

/-!
Arguments of a command line: options with or without values, and plain words. An option has long and short
names; short names of one dash can be strung together, and a value can be joined to its option. After two
dashes alone everything is a word.
-/

namespace Pruning.Command

/-- An option of a command. -/
structure OptionSpec where
  /-- The names that give or turn on the option. -/
  names : List String
  /-- The names that turn it off. -/
  offNames : List String
  /-- What help calls the value of the option; a switch has none. -/
  valueName : Option String
  help : String
  deriving DecidableEq, Repr

/-- The name that an option is known by. -/
def OptionSpec.key (option : OptionSpec) : String :=
  option.names.head?.getD ""

/-- An option as it was given. -/
inductive Given where
  | value (key text : String)
  | switch (key : String) (on : Bool)
  deriving DecidableEq, Repr

/-- The key of the option that was given. -/
def Given.key : Given → String
  | .value key _ => key
  | .switch key _ => key

/-- The option of a name, and whether the name turns it on. -/
def lookup (options : List OptionSpec) (name : String) : Option (OptionSpec × Bool) :=
  options.findSome? fun option =>
    if option.names.contains name then some (option, true)
    else if option.offNames.contains name then some (option, false)
    else none

/-- What one argument says: options, and the key and name of one whose value is the next argument. -/
structure Reading where
  given : List Given
  awaiting : Option (String × String)

/-- Reads an option that is given by its name alone, with a value that may be joined to it. -/
def readNamed (option : OptionSpec) (on : Bool) (name : String) (joined : Option String) :
    Except Misuse Reading :=
  match option.valueName, joined with
  | some _, some text => .ok ⟨[.value option.key text], none⟩
  | some _, none => .ok ⟨[], some (option.key, name)⟩
  | none, some _ => .error (.needlessValue name)
  | none, none => .ok ⟨[.switch option.key on], none⟩

/-- Reads the letters of short names after a dash. What follows the letter of an option with a value is that
value. -/
def readLetters (options : List OptionSpec) : List Char → Except Misuse Reading
  | [] => .ok ⟨[], none⟩
  | c :: rest =>
    let name := String.ofList ['-', c]
    match lookup options name with
    | none => .error (.unknownOption name [])
    | some (option, on) =>
      if option.valueName.isSome then
        readNamed option on name (if rest.isEmpty then none else some (String.ofList rest))
      else do
        let reading ← readLetters options rest
        return { reading with given := .switch option.key on :: reading.given }

/-- The long names of options. -/
def longNames (options : List OptionSpec) : List String :=
  (options.flatMap fun option => option.names ++ option.offNames).filter fun name => 2 < name.length

/-- Reads an argument that starts with a dash. -/
def readOption (options : List OptionSpec) (arg : List Char) : Except Misuse Reading :=
  let name := arg.takeWhile (· ≠ '=')
  let joined := if name.length < arg.length then some (arg.drop (name.length + 1)) else none
  let found := if name.length ≤ 2 then none else lookup options (String.ofList name)
  match found, arg with
  | some (option, on), _ => readNamed option on (String.ofList name) (joined.map String.ofList)
  | none, '-' :: '-' :: _ =>
    let name := String.ofList name
    .error (.unknownOption name (Text.guesses name (longNames options)))
  | none, arg => readLetters options (arg.drop 1)

/-- Whether an argument is an option. A dash alone is a word. -/
def isOption (arg : String) : Bool :=
  match arg.toList with
  | '-' :: _ :: _ => true
  | _ => false

/-- Reads arguments: the options, and the words. Unless `mixed`, there are no options after a word. -/
def readArguments (options : List OptionSpec) (mixed : Bool) :
    List String → Except Misuse (List Given × List String)
  | [] => .ok ([], [])
  | arg :: rest =>
    if arg = "--" then .ok ([], rest)
    else if isOption arg then
      match readOption options arg.toList, rest with
      | .error misuse, _ => .error misuse
      | .ok ⟨found, none⟩, rest => do
        let (given, words) ← readArguments options mixed rest
        return (found ++ given, words)
      | .ok ⟨_, some (_, name)⟩, [] => .error (.missingValue name)
      | .ok ⟨found, some (key, _)⟩, text :: rest => do
        let (given, words) ← readArguments options mixed rest
        return (found ++ .value key text :: given, words)
    else if mixed then do
      let (given, words) ← readArguments options mixed rest
      return (given, arg :: words)
    else .ok ([], arg :: rest)

/-- The keys of the options that were given, in the order of their first appearance. -/
def keysInOrder (given : List Given) : List String :=
  (given.map Given.key).eraseDups

/-- The values of an option. -/
def valuesOf (key : String) (given : List Given) : List String :=
  given.filterMap fun g =>
    match g with
    | .value k text => if k = key then some text else none
    | .switch _ _ => none

/-- The last value of an option. -/
def value? (key : String) (given : List Given) : Option String :=
  (valuesOf key given).getLast?

/-- The settings of a switch. -/
def switchesOf (key : String) (given : List Given) : List Bool :=
  given.filterMap fun g =>
    match g with
    | .switch k on => if k = key then some on else none
    | .value _ _ => none

/-- The last setting of a switch. -/
def switch? (key : String) (given : List Given) : Option Bool :=
  (switchesOf key given).getLast?

end Pruning.Command
