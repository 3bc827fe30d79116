import Pruning.Manifest.Clause
import Pruning.Manifest.Folding
import Pruning.Module.Basic

/-!
Writing a module back to a manifest. Headers keep their order. The two dependency headers are written
from the declarations that are left, one clause a line, and dropped when nothing is left; every other
header is written as it was read.
-/

namespace Pruning

/-- The clause of a requirement. -/
def ModuleImport.clause (required : ModuleImport) : Manifest.Clause :=
  let directives := required.directives
  let directives :=
    if required.reexported then
      Fields.put ModuleImport.visibilityKey ModuleImport.reexportValue directives
    else directives
  let directives :=
    if required.optional then
      Fields.put ModuleImport.resolutionKey ModuleImport.optionalValue directives
    else directives
  ⟨[required.id], required.attributes, directives⟩

/-- The clause of a package import. -/
def PackageImport.clause (package : PackageImport) : Manifest.Clause :=
  ⟨[package.name], package.attributes, package.directives⟩

namespace Module

/-- The lines of clauses after the first one of a header. -/
def clauseLines : List (List Char) → List (List Char)
  | [] => []
  | [last] => Manifest.foldContinued last
  | clause :: rest => Manifest.foldContinued (clause ++ [',']) ++ clauseLines rest

/-- The lines of a header with one clause a line; no line when there is no clause. -/
def headerLines (name : String) (clauses : List (List Char)) : List (List Char) :=
  let start := name.toList ++ [':', ' ']
  match clauses with
  | [] => []
  | [only] => Manifest.fold (start ++ only)
  | first :: rest => Manifest.fold (start ++ first ++ [',']) ++ clauseLines rest

/-- The lines of the requirements. -/
def requireLines (m : Module) : List (List Char) :=
  headerLines Header.require (m.requires.map fun required => required.clause.text.toList)

/-- The lines of the package imports. -/
def packageLines (m : Module) : List (List Char) :=
  headerLines Header.importPackage (m.packageImports.map fun package => package.clause.text.toList)

/-- The lines of one header of the manifest that was read. -/
def linesOf (m : Module) (header : String × String) : List (List Char) :=
  if header.1 = Header.require then m.requireLines
  else if header.1 = Header.importPackage then m.packageLines
  else Manifest.fold (header.1.toList ++ [':', ' '] ++ header.2.toList)

/-- The lines of the manifest of a module. -/
def manifestLines (m : Module) : List (List Char) :=
  m.headers.flatMap m.linesOf ++
    (if Fields.has Header.require m.headers then [] else m.requireLines) ++
    if Fields.has Header.importPackage m.headers then [] else m.packageLines

/-- The manifest of a module. A module without lines is written as one empty line. -/
def manifestText (m : Module) : String :=
  let ending := m.lineEnding.toList
  String.ofList (ending.intercalate m.manifestLines ++ ending)

end Module

end Pruning
