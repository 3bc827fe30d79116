import Pruning.Command.Analyze
import Pruning.Removal

/-!
The command that removes the unused dependencies of a manifest: it shows what it will remove, asks, makes a
backup and writes the manifest. When writing fails, the backup is put back.
-/

namespace Pruning.Command

/-- How a manifest is pruned. -/
structure Caution where
  /-- Whether the plan is only shown. -/
  dryRun : Bool
  /-- Whether nothing is asked. -/
  confirmed : Bool
  /-- Whether the manifest is backed up. -/
  backup : Bool
  deriving DecidableEq, Repr

/-- What the options of the command say. The configuration decides about backups when they do not. -/
def Caution.of (config : Config) (given : List Given) : Caution :=
  { dryRun := (switch? dryRunOption.key given).isSome
    confirmed := (switch? yesOption.key given).isSome
    backup := (switch? backupOption.key given).getD config.createBackup }

/-- Shows the entries that are to be removed. -/
def showPlan (dryRun : Bool) (entries : List Entry) : Command Unit :=
  let title := if dryRun then "Prune Plan (Dry Run)" else "Prune Plan"
  display fun screen => (entrySheet title none entries).text screen

/-- The word for some dependencies. -/
def dependencies (count : Nat) : String :=
  if count = 1 then "dependency" else "dependencies"

/-- Asks whether entries are to be removed. -/
def confirm (count : Nat) : Command Bool := do
  let answer ← ask s!"\nRemove {count} unused {dependencies count}?" ["y", "n"]
  return answer = "y"

/-- Backs up a manifest. -/
def backUp (manifest : Path) : Command Path := do
  let backup ← file (Workspace.backUp manifest)
  note .info .prune s!"Created backup: {backup}"
  return backup

/-- Tells that a manifest could not be written, puts its backup back if there is one, and fails. -/
def recover (manifest : Path) (backup : Option Path) (failure : Failure) : Command Unit := do
  if let some backup := backup then
    let isThere ← ofOutcome ((← get).workspace.node? backup)
    if isThere.isSome then
      tell .error s!"Error while writing {manifest}: {failure.text}"
      note .info .prune "Restoring from backup..."
      file (Workspace.restore backup manifest.text)
      tell .success "Restored original manifest from backup"
  fail (.notWritten failure.text)

/-- Removes entries from the module of a manifest and writes the manifest. -/
def removeEntries (m : Module) (manifest : Path) (entries : List Entry) (backsUp : Bool) :
    Command Unit := do
  let backup ← if backsUp then some <$> backUp manifest else pure none
  let (removed, m) ← run (m.remove entries)
  let write : Command Unit := do
    discard (file (m.write (some manifest) false))
  rescue write (recover manifest backup)
  tell .success s!"\nRemoved {removed} unused {dependencies removed} from {m.id}"
  let failed := entries.length - removed
  if failed ≠ 0 then
    let noun := if failed = 1 then "entry" else "entries"
    tell .warning s!"{failed} {noun} could not be removed; run with -v for details"

/-- Removes the unused dependencies of a manifest. -/
def pruneManifest [Version.Casing] (config : Config) (request : Request) (caution : Caution) :
    Command Unit := do
  note .info .prune s!"Pruning {request.manifest}..."
  let m ← readManifest request
  if m.hasId then
    let findings ← analyzeModule config request m true
    if findings.hasUnused then
      showPlan caution.dryRun findings.unused
      if caution.dryRun then tell .warning "\nDry run mode - no changes applied"
      else
        let agreed ←
          if caution.confirmed then pure true else confirm findings.unused.length
        if agreed then removeEntries m request.manifest findings.unused caution.backup
        else note .info .prune "Prune cancelled by user"
    else tell .success (m.id ++ ": nothing to prune")
  else tell .warning (noModule request)

/-- Runs the command. -/
def prune [Version.Casing] (config : Config) (args : List String) : Command Unit := do
  let request ← readRequest .prune args
  let work : Command Unit := do
    pruneManifest config request (Caution.of config request.given)
    exit 0
  rescue work (giveUp .prune (Scope.name .prune))

end Pruning.Command
