import Pruning.Registry
import Pruning.Workspace.Reading

/-!
Where registries come from: manifests found below paths, and snapshots, which are JSON files with the
headers of many modules. A manifest that cannot be used is passed over; a snapshot is taken whole or
refused. Modules are marked with numbers from a given one on.
-/

namespace Pruning.Registry

/-- Whether a failure concerns one manifest only. -/
def isPassedOver : Failure → Bool
  | .file _ => true
  | .manifest _ => true
  | _ => false

/-- Adds a module as a step of a script. -/
def register [Version.Casing] (registry : Registry) (m : Module) : Script Registry :=
  .ofOutcome (registry.addAll [m])

/-- Adds the module of a manifest, or passes it over with a warning. -/
def addManifest [Version.Casing] (registry : Registry) (w : Workspace) (mark : Nat) (manifest : Path) :
    Script Registry :=
  let loading := w.loadModule mark manifest
  match loading.outcome with
  | .error failure =>
    if isPassedOver failure then do
      .note .warning .registry s!"Skipping unreadable manifest {manifest}: {failure.text}"
      return registry
    else .fail failure
  | .ok _ => do
    let m ← loading
    if m.hasId then registry.register m
    else do
      .note .warning .registry s!"Skipping manifest without module id: {manifest}"
      return registry

/-- Adds the modules of manifests, marked with the numbers from `mark` on. -/
def addManifests [Version.Casing] (registry : Registry) (w : Workspace) (mark : Nat) :
    List Path → Script Registry
  | [] => .answer registry
  | manifest :: rest => do
    let registry ← registry.addManifest w mark manifest
    registry.addManifests w (mark + 1) rest

/-- The registry of the manifests below some paths. -/
def ofPaths [Version.Casing] (w : Workspace) (mark : Nat) (paths : List Path) : Script Registry := do
  let manifests ← w.findManifests paths
  let registry ← empty.addManifests w mark manifests
  .note .info .registry s!"Registry loaded {registry.size} module(s)"
  return registry

/-- A list of texts that may be left out. -/
def optionalTexts? (value : Option Json) : Option (Option (List String)) :=
  match value with
  | none => some none
  | some .null => some none
  | some value => value.texts?.map some

/-- The texts of the members of an object. -/
def headersOf? (value : Json) : Option (Fields String) := do
  let members ← value.object?
  members.mapM fun member => do return (member.1, ← member.2.text?)

/-- The module that an entry of a snapshot describes. -/
def snapshotModule (mark index : Nat) (entry : Json) : Except SnapshotFault Module := do
  let members ←
    match entry with
    | .object members => pure members
    | _ => throw (.entryNotObject index)
  let headers ←
    match (Fields.get? "headers" members).bind headersOf? with
    | some headers => pure headers
    | none => throw (.entryHeaders index)
  let exports ←
    match optionalTexts? (Fields.get? "exports" members) with
    | some exports => pure exports
    | none => throw (.entryExports index)
  let location := (Fields.get? "location" members).bind Json.text?
  match Module.ofHeaders mark headers ⟨location.map Path.parse, exports, "\n"⟩ with
  | .error refusal => throw (.entryMalformed index refusal)
  | .ok m => if m.hasId then return m else throw (.entryWithoutId index)

/-- Adds the modules of snapshot entries, the first of which has number `index`. -/
def addSnapshot [Version.Casing] (registry : Registry) (source : String) (mark index : Nat) :
    List Json → Except Failure Registry
  | [] => .ok registry
  | entry :: rest => do
    let m ← (snapshotModule mark index entry).mapError fun fault =>
      .registry (.snapshot source fault)
    let registry ← registry.addAll [m]
    registry.addSnapshot source (mark + 1) (index + 1) rest

/-- The entries of a snapshot. -/
def snapshotEntries (value : Json) : Option (List Json) := do
  (← Fields.get? "modules" (← value.object?)).list?

/-- The registry of the snapshot in a file; `source` is the path as it is shown. -/
def ofSnapshot [Version.Casing] (w : Workspace) (mark : Nat) (source : String) : Script Registry := do
  let text ← .ofOutcome (w.readText (.parse source))
  let refused (fault : SnapshotFault) : Failure := .registry (.snapshot source fault)
  let value ← .ofOutcome ((Json.read text).mapError fun refusal =>
    .ofJson text (fun complaint => refused (.notJson complaint)) refusal)
  let entries ←
    match snapshotEntries value with
    | some entries => pure entries
    | none => .fail (refused .layout)
  let registry ← .ofOutcome (empty.addSnapshot source mark 0 entries)
  .note .info .registry s!"Snapshot {source} loaded {registry.size} module(s)"
  return registry

/-- The smallest number above the marks of all registered modules, and at least `mark`. -/
def freshMark (registry : Registry) (mark : Nat) : Nat :=
  registry.modules.foldl (fun fresh m => max fresh (m.mark + 1)) mark

end Pruning.Registry
