import Pruning.Manifest.Clause
import Pruning.PackageSet
import Pruning.Reexport

/-!
What a declared dependency makes visible, and whether any of it is used. A required module shows the
exports of all its registered versions, and the exports of every module that is re-exported through it,
in the highest version of each.
-/

namespace Pruning

/-- The packages that a module exports: those its header declares, even none, or those known from its
compiled code when there is no such header. -/
def Module.exports (m : Module) : Except Failure (List String) :=
  match m.header Header.exportPackage with
  | some value =>
    (Manifest.namesOf (some value) (some Header.exportPackage)).mapError Failure.manifest
  | none => .ok (m.metadataExports.getD [])

namespace Registry

/-- The first of each group of modules that are one and the same; `seen` holds the marks of the modules
before. -/
def distinct (seen : List Nat) : List Module → List Module
  | [] => []
  | m :: rest => if m.mark ∈ seen then distinct seen rest else m :: distinct (m.mark :: seen) rest

/-- The modules whose exports the required module `id` makes visible. -/
def visible (registry : Registry) (graph : ReexportGraph) (id : String) : List Module :=
  distinct [] ((graph.closure id).flatMap fun reached =>
    if reached = id then registry.candidates id else (registry.resolve reached).toList)

end Registry

/-- Whether no module of the list exports a used package. The exports of the modules after the first that
does are not read. -/
def exportNothingUsed (used : PackageSet) : List Module → Except Failure Bool
  | [] => .ok true
  | m :: rest => do
    let exports ← m.exports
    if exports.any used.contains then return false else exportNothingUsed used rest

/-- Whether a required module makes no used package visible. -/
def ModuleImport.isUnused (required : ModuleImport) (used : PackageSet) (registry : Registry)
    (graph : ReexportGraph) : Except Failure Bool :=
  exportNothingUsed used (registry.visible graph required.id)

/-- Whether an imported package is not used. A module that exports the package it imports keeps it. -/
def PackageImport.isUnused (package : PackageImport) (exported : List String) (used : PackageSet) :
    Bool :=
  !exported.contains package.name && !used.contains package.name

end Pruning
