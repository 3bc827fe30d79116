import Pruning.Inputs
import Pruning.Removal
import Pruning.View

/-!
Sessions: a registry, modules under edit with names of their own, findings, a monitor, an oracle file and
backups, worked on step by step. Modules that are registered and edited are the same modules: an edit is
seen in the registry at once. A step that fails leaves what it had done before.
-/

namespace Pruning

/-- Why a step of a session fails. -/
inductive StepFault where
  | failure (cause : Failure)
  /-- No module or findings of that name. -/
  | unknownName
  /-- No declaration or backup of that number. -/
  | noSuchIndex
  /-- The module has no header for packages, or the selection is of the wrong kind. -/
  | unfit
  | unremovable (reason : Unremovable)

/-- How a declaration is named in a session. -/
inductive Reference where
  /-- A requirement that a module had when it was named. -/
  | requirement (name : String) (index : Nat)
  /-- A package import that a module had when it was named. -/
  | package (name : String) (index : Nat)
  /-- An entry of findings. -/
  | finding (name : String) (index : Nat)
  /-- A requirement that belongs to no module. -/
  | foreignRequirement (id : String)
  /-- A package import that belongs to no module. -/
  | foreignPackage (name : String)
  /-- A value that is no declaration. -/
  | value (value : Json)

/-- What a session works on. -/
structure Session where
  workspace : Workspace
  /-- The next mark. -/
  fresh : Nat
  registry : Registry
  bench : Workbench
  /-- The named modules, with the declarations they had when they were named. -/
  named : Fields Module
  findings : Fields Findings
  monitor : Monitor
  /-- How many updates of the monitor have been shown. -/
  told : Nat
  oracle : OracleFile
  backups : List Path
  /-- The events of the present step. -/
  events : List Event

namespace Session

/-- A session that starts with a workspace. -/
def start (workspace : Workspace) : Session :=
  { workspace, fresh := 0, registry := .empty, bench := .empty, named := [], findings := []
    monitor := .silent, told := 0, oracle := .ofPath (.parse ""), backups := [], events := [] }

/-- A step of a session. -/
abbrev Step := ExceptT StepFault (StateM Session)

/-- Runs a script. -/
def run {α : Type} (script : Script α) : Step α := do
  modify fun s => { s with events := s.events ++ script.events }
  match script.outcome with
  | .ok a => return a
  | .error failure => throw (.failure failure)

/-- Runs a script that looks at the workspace. -/
def read {α : Type} (script : Workspace → Script α) : Step α := do
  run (script (← get).workspace)

/-- Runs an operation on the workspace. -/
def file {α : Type} (filing : Filing α) : Step α := do
  let (script, workspace) := filing (← get).workspace
  modify fun s => { s with workspace }
  run script

/-- A mark that nothing has yet. -/
def freshMark : Step Nat := do
  let mark := (← get).fresh
  modify fun s => { s with fresh := mark + 1 }
  return mark

/-- An item of a list. -/
def item {α : Type} (items : List α) (index : Nat) : Step α :=
  match items[index]? with
  | some a => return a
  | none => throw .noSuchIndex

/-- A named item. -/
def known {α : Type} (name : String) (fields : Fields α) : Step α :=
  match Fields.get? name fields with
  | some a => return a
  | none => throw .unknownName

/-- A named module as it is now. -/
def module (name : String) : Step Module := do
  let named ← known name (← get).named
  match (← get).bench.module? named.mark with
  | some m => return m
  | none => throw .unknownName

/-- Makes a module and lays it on the bench. -/
def lay (make : Workspace → Nat → Script Module) : Step Module := do
  let mark ← freshMark
  let m ← read (make · mark)
  modify fun s => { s with bench := s.bench.lay m }
  return m

/-- Names a module. -/
def name (name : String) (m : Module) : Step Unit :=
  modify fun s => { s with named := Fields.put name m s.named }

/-- Puts the bench down after an edit. -/
def edit (bench : Workbench) : Step Unit :=
  modify fun s => { s with bench, registry := bench.refresh s.registry }

/-- Registers a module. -/
def register [Version.Casing] (m : Module) : Step Unit := do
  let (registry, outcome) := (← get).registry.add m
  modify fun s => { s with registry }
  run (.ofOutcome outcome)

/-- Takes another registry. -/
def setRegistry (registry : Registry) : Step Unit :=
  modify fun s => { s with registry, fresh := registry.freshMark s.fresh }

/-- What a reference selects. -/
def select : Reference → Step Selection
  | .requirement name index => do
    let named ← known name (← get).named
    return .entry (.requirement (← item named.requires index))
  | .package name index => do
    let named ← known name (← get).named
    return .entry (.packageImport (← item named.packageImports index))
  | .finding name index => do
    let findings ← known name (← get).findings
    return .entry (← item findings.unused index)
  | .foreignRequirement id => do
    return .entry (.requirement ⟨⟨← freshMark, 0⟩, id, false, false, [], []⟩)
  | .foreignPackage name => do
    return .entry (.packageImport ⟨⟨← freshMark, 0⟩, name, [], []⟩)
  | .value value => return .foreign value

/-- Analyses a module against the registry, and keeps the findings under a name. -/
def analyze (m : Module) (oracle : Oracle) (monitor : Monitor) (keptAs : String) :
    Step (Script Findings × Monitor) := do
  let (script, monitor) := monitor.play (Analysis.run m (← get).registry oracle)
  modify fun s => { s with events := s.events ++ script.events }
  if let .ok findings := script.outcome then
    modify fun s => { s with findings := Fields.put keptAs findings s.findings }
  return (script, monitor)

/-- Removes selections from a module, and counts those that were removed. -/
def remove (m : Module) (selections : List Selection) : Step Nat := do
  let (count, bench) ← run ((← get).bench.remove m.mark selections)
  edit bench
  return count

/-- Makes an edit that may be refused. -/
def attempt (outcome : Except Unremovable Workbench) : Step Unit :=
  match outcome with
  | .ok bench => edit bench
  | .error reason => throw (.unremovable reason)

/-- Removes one requirement from a module. -/
def removeRequirement (m : Module) (selection : Selection) : Step Unit := do
  match selection with
  | .entry (.requirement required) => attempt ((← get).bench.removeRequirement m required)
  | _ => throw .unfit

/-- The package import of a selection, for the header of a module. -/
def packageFor (m : Module) (selection : Selection) : Step PackageImport :=
  match selection, m.packages with
  | .entry (.packageImport package), some _ => return package
  | _, _ => throw .unfit

/-- Writes a module to a file, and keeps the backup. -/
def write (m : Module) (target : Option Path) (backup : Bool) : Step (Option Path) := do
  let backup ← file (m.write target backup)
  modify fun s => { s with backups := s.backups ++ backup.toList }
  return backup

/-- Backs up a file. -/
def backUp (p : Path) : Step Path := do
  let backup ← file (Workspace.backUp p)
  modify fun s => { s with backups := s.backups ++ [backup] }
  return backup

/-- Shows the monitor, with the updates that were not shown before. -/
def progress : Step (Fields Json) := do
  let s ← get
  set { s with told := s.monitor.updates.length }
  return s.monitor.view s.told

/-- Asks the monitor whether to stop. -/
def ask : Step Bool := do
  let (due, monitor) := (← get).monitor.ask
  modify fun s => { s with monitor }
  return due

/-- Takes a step: what it answers, its events, and the session afterwards. -/
def take {α : Type} (step : Step α) (session : Session) :
    Except StepFault α × List Event × Session :=
  let (outcome, after) := step.run.run { session with events := [] }
  (outcome, after.events, after)

end Session

end Pruning
