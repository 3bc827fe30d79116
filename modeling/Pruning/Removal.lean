import Pruning.Filing
import Pruning.Module.Writer
import Pruning.Registry
import Pruning.Unused
import Pruning.Workspace.Writing

/-!
Removing declarations from modules, and writing modules back. Modules under edit lie on a workbench,
which also knows the module whose header each imported package belongs to: a package is taken out of the
header that holds it, wherever that is. Entries that cannot be removed are passed over with a warning.
-/

namespace Pruning

/-- Modules under edit. -/
structure Workbench where
  /-- The modules, with different marks. -/
  modules : List Module
  /-- The module that holds each attached package import. -/
  holders : List (Mark × Nat)
  deriving DecidableEq, Repr

/-- Something that is to be removed: an entry, or a value that is none. -/
inductive Selection where
  | entry (entry : Entry)
  | foreign (value : Json)

/-- A selection inside a message. -/
def Selection.text : Selection → String
  | .entry e => e.text
  | .foreign value => value.display

/-- Why a declaration cannot be removed. -/
inductive Unremovable where
  /-- The module does not declare it. -/
  | undeclared (id moduleId : String)
  /-- The package belongs to no header. -/
  | detached (package : String)
  /-- The package belongs to another header. -/
  | notInHeader (package : String)
  /-- The value is no entry. -/
  | unsupported (found : String)
  deriving DecidableEq, Repr

/-- Why a declaration cannot be removed, in words. -/
def Unremovable.message : Unremovable → String
  | .undeclared id moduleId =>
    "Module import " ++ Text.quoted id ++ " is not declared by " ++ Text.quoted moduleId
  | .detached package => "Package import " ++ Text.quoted package ++ " is already detached"
  | .notInHeader package => "Package import " ++ Text.quoted package ++ " is not in this header"
  | .unsupported found => "Unsupported entry type: " ++ found

namespace Workbench

/-- The bench without modules. -/
def empty : Workbench :=
  ⟨[], []⟩

/-- The module with a mark. -/
def module? (bench : Workbench) (mark : Nat) : Option Module :=
  bench.modules.find? fun m => m.mark = mark

/-- Lays a new module on the bench. Its package imports belong to it. -/
def lay (bench : Workbench) (m : Module) : Workbench :=
  ⟨bench.modules ++ [m],
    bench.holders ++ m.packageImports.map fun package => (package.mark, m.mark)⟩

/-- The bench with one module. -/
def ofModule (m : Module) : Workbench :=
  empty.lay m

/-- Changes the module with a mark. -/
def update (bench : Workbench) (mark : Nat) (f : Module → Module) : Workbench :=
  { bench with modules := bench.modules.map fun m => if m.mark = mark then f m else m }

/-- The module whose header a package import belongs to. -/
def holder? (bench : Workbench) (package : Mark) : Option Nat :=
  (bench.holders.find? fun holder => holder.1 = package).map Prod.snd

/-- Detaches a package import. -/
def detach (bench : Workbench) (package : Mark) : Workbench :=
  { bench with holders := bench.holders.filter fun holder => holder.1 ≠ package }

/-- Takes a requirement out of a module. -/
def removeRequirement (bench : Workbench) (m : Module) (required : ModuleImport) :
    Except Unremovable Workbench :=
  if m.requires.any fun declared => declared.mark = required.mark then
    .ok (bench.update m.mark fun m =>
      { m with requires := m.requires.eraseP fun declared => declared.mark = required.mark })
  else .error (.undeclared required.id m.id)

/-- Takes a package import out of the header of a module, and detaches it. -/
def removePackage (bench : Workbench) (m : Module) (package : PackageImport) :
    Except Unremovable Workbench :=
  if m.packageImports.any fun declared => declared.mark = package.mark then
    let erased (m : Module) : Module :=
      { m with packages := m.packages.map fun packages =>
          packages.eraseP fun declared => declared.mark = package.mark }
    .ok ((bench.update m.mark erased).detach package.mark)
  else .error (.notInHeader package.name)

/-- Adds a package import at the end of the header of a module, and attaches it there. -/
def addPackage (bench : Workbench) (mark : Nat) (package : PackageImport) : Workbench :=
  let added (m : Module) : Module :=
    { m with packages := m.packages.map fun packages => packages ++ [package] }
  let bench := (bench.update mark added).detach package.mark
  { bench with holders := bench.holders ++ [(package.mark, mark)] }

/-- Removes one selection from the module `m`. -/
def removeOne (bench : Workbench) (m : Module) : Selection → Except Unremovable Workbench
  | .entry (.requirement required) => bench.removeRequirement m required
  | .entry (.packageImport package) =>
    match (bench.holder? package.mark).bind bench.module? with
    | none => .error (.detached package.name)
    | some holder => bench.removePackage holder package
  | .foreign value => .error (.unsupported value.typeName)

/-- Removes selections from the module with a mark, and counts those that were removed. -/
def remove (mark : Nat) (bench : Workbench) : List Selection → Script (Nat × Workbench)
  | [] => .answer (0, bench)
  | selection :: rest =>
    match bench.module? mark with
    | none => .answer (0, bench)
    | some m =>
      match bench.removeOne m selection with
      | .error reason => do
        .note .warning .removal s!"Could not remove {selection.text}: {reason.message}"
        remove mark bench rest
      | .ok bench => do
        .note .debug .removal s!"Removed {selection.text} from {m.id}"
        let (count, bench) ← remove mark bench rest
        return (count + 1, bench)

/-- The registry with the modules as they are on the bench. -/
def refresh (bench : Workbench) (registry : Registry) : Registry :=
  ⟨registry.entries.map fun versions =>
    (versions.1, versions.2.map fun m => (bench.module? m.mark).getD m)⟩

end Workbench

/-- Removes entries from one module: how many were removed, and the module without them. -/
def Module.remove (m : Module) (entries : List Entry) : Script (Nat × Module) := do
  let (count, bench) ← (Workbench.ofModule m).remove m.mark (entries.map Selection.entry)
  return (count, (bench.module? m.mark).getD m)

/-- Writes a module to a file, by default the one it was read from. With `backup`, a file that is there
already is copied first; the answer is the path of the copy. -/
def Module.write (m : Module) (target : Option Path) (backup : Bool) : Filing (Option Path) := do
  match target <|> m.location with
  | none => Filing.fail (.file (.noLocation m.id))
  | some target =>
    let w ← Filing.look
    let isThere ← Filing.ofOutcome (if backup then w.isFile target else .ok false)
    let copied ← if isThere then some <$> Workspace.backUp target else pure none
    if let some copied := copied then
      Filing.note .info .removal s!"Created backup: {copied}"
    Workspace.write target m.manifestText
    Filing.note .info .removal s!"Wrote {target}"
    return copied

end Pruning
