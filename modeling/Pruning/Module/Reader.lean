import Pruning.Manifest.Clause
import Pruning.Manifest.Headers
import Pruning.Module.Basic

/-!
Modules from headers. A clause with several names declares one dependency for each of them, with the
same parameters. Declarations are marked with their position in the manifest.
-/

namespace Pruning.Module

/-- The names of clauses, each with its clause. -/
def namedClauses (clauses : List Manifest.Clause) : List (String × Manifest.Clause) :=
  clauses.flatMap fun clause => clause.names.map (·, clause)

/-- The requirement that a clause declares for one of its names. -/
def requirement (mark : Mark) (id : String) (clause : Manifest.Clause) : ModuleImport :=
  let visibility := Fields.get? ModuleImport.visibilityKey clause.directives
  let resolution := Fields.get? ModuleImport.resolutionKey clause.directives
  { mark, id
    reexported := visibility = some ModuleImport.reexportValue
    optional := resolution = some ModuleImport.optionalValue
    attributes := clause.attributes
    directives := Fields.erase ModuleImport.resolutionKey
      (Fields.erase ModuleImport.visibilityKey clause.directives) }

/-- The requirements that clauses declare. -/
def requirements (owner : Nat) (clauses : List Manifest.Clause) : List ModuleImport :=
  (namedClauses clauses).mapIdx fun index named => requirement ⟨owner, index⟩ named.1 named.2

/-- The package imports that clauses declare. -/
def importedPackages (owner : Nat) (clauses : List Manifest.Clause) : List PackageImport :=
  (namedClauses clauses).mapIdx fun index named =>
    { mark := ⟨owner, index⟩, name := named.1
      attributes := named.2.attributes, directives := named.2.directives }

/-- What is known of a module beside its headers. -/
structure Source where
  location : Option Path
  metadataExports : Option (List String)
  lineEnding : String

/-- The module that headers describe; `mark` is to be its identity. -/
def ofHeaders (mark : Nat) (headers : Fields String) (source : Source) :
    Except Manifest.Refusal Module := do
  let clauses (name : String) := Manifest.clausesOf (Fields.get? name headers) (some name)
  let idClauses ← clauses Header.moduleId
  let required ← clauses Header.require
  let imported ← clauses Header.importPackage
  let version := Text.trimmed ((Fields.get? Header.version headers).getD "")
  return {
    mark
    id := ((namedClauses idClauses).head?.map Prod.fst).getD ""
    version := if version.isEmpty then defaultVersion else version
    requires := requirements mark required
    packages :=
      if Fields.has Header.importPackage headers then some (importedPackages mark imported) else none
    headers
    metadataExports := source.metadataExports
    location := source.location
    lineEnding := source.lineEnding }

/-- What ends the lines of a text. -/
def lineEndingOf (cs : List Char) : String :=
  if cs.contains '\r' then
    if (cs.zip (cs.drop 1)).contains ('\r', '\n') then "\r\n" else "\r"
  else "\n"

end Pruning.Module
