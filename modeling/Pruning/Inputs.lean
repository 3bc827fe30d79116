import Pruning.Config.Basic
import Pruning.Oracle.File
import Pruning.Registry.Sources

/-!
The inputs of a command: the registry, from a snapshot and from paths, and the file with the used
packages. What a command is not given is taken from the configuration.
-/

namespace Pruning.Inputs

/-- The registry of a snapshot, of the configured paths, and of the paths given to a command. Modules are
marked with the numbers from `mark` on. -/
def registry [Version.Casing] (w : Workspace) (mark : Nat) (config : Option Config) (paths : List Path)
    (snapshot : Option Path) : Script Registry := do
  let paths := (config.map Config.registryPaths).getD [] ++ paths
  if snapshot.isNone && paths.isEmpty then .fail (.missingInput .registry)
  let registry ←
    match snapshot with
    | some source => Registry.ofSnapshot w mark source.text
    | none => pure .empty
  let registry ←
    if paths.isEmpty then pure registry
    else do
      let found ← Registry.ofPaths w (registry.freshMark mark) paths
      .ofOutcome (registry.addAll found.modules)
  .note .info .inputs s!"Registry holds {registry.size} module(s)"
  return registry

/-- The file with the used packages. -/
def usedPackages (config : Option Config) (given : Option Path) : Except Failure Path :=
  match given, config.bind Config.usedPackages with
  | some path, _ => .ok path
  | none, some path => .ok path
  | none, none => .error (.missingInput .usedPackages)

end Pruning.Inputs
