import Pruning.Command.Arguments

/-!
The options of the program and of its commands.
-/

namespace Pruning.Command

/-- The option that shows help. -/
def helpOption : OptionSpec :=
  ⟨["-h", "--help"], [], none, "Show this message and exit."⟩

/-- The option that shows the version. -/
def versionOption : OptionSpec :=
  ⟨["--version"], [], none, "Show the version and exit."⟩

/-- The option for the configuration file. -/
def configOption : OptionSpec :=
  ⟨["--config", "-c"], [], some "FILE", "Path to configuration file."⟩

/-- The option for more output. -/
def verboseOption : OptionSpec :=
  ⟨["--verbose", "-v"], [], none, "Increase verbosity (can be repeated: -v, -vv)."⟩

/-- The option for colors. -/
def colorOption : OptionSpec :=
  ⟨["--color"], ["--no-color"], none, "Enable or disable colored output."⟩

/-- The option for the folders and manifests of the registry. -/
def registryOption : OptionSpec :=
  ⟨["--registry", "-r"], [], some "PATH",
    "Module directory or manifest to add to the registry (repeatable)."⟩

/-- The option for the snapshot of a registry. -/
def snapshotOption : OptionSpec :=
  ⟨["--snapshot"], [], some "FILE", "JSON registry snapshot."⟩

/-- The option for the file with the used packages. -/
def usedPackagesOption : OptionSpec :=
  ⟨["--used-packages", "-u"], [], some "FILE",
    "File listing the packages the module's code references."⟩

/-- The words for the formats of a report. -/
def formatNames : List String := ["table", "simple", "json"]

/-- The option for the format of a report. -/
def formatOption : OptionSpec :=
  ⟨["--format", "-f"], [], some ("[" ++ "|".intercalate formatNames ++ "]"), "Output format."⟩

/-- The option to show a plan only. -/
def dryRunOption : OptionSpec :=
  ⟨["--dry-run"], [], none, "Preview removals without applying them."⟩

/-- The option to go on without a question. -/
def yesOption : OptionSpec :=
  ⟨["--yes", "-y"], [], none, "Skip confirmation prompt."⟩

/-- The option for backups. -/
def backupOption : OptionSpec :=
  ⟨["--backup"], ["--no-backup"], none,
    "Back up the manifest before rewriting it (default from config)."⟩

/-- The options of the program and of its commands. -/
def Scope.options : Scope → List OptionSpec
  | .program => [configOption, verboseOption, colorOption, versionOption, helpOption]
  | .analyze => [registryOption, snapshotOption, usedPackagesOption, formatOption, helpOption]
  | .prune =>
    [registryOption, snapshotOption, usedPackagesOption, dryRunOption, yesOption, backupOption,
      helpOption]

end Pruning.Command
