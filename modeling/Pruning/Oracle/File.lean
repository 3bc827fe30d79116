import Pruning.Oracle
import Pruning.Text.Lines
import Pruning.Workspace.Reading

/-!
Oracles that are kept in a file: either a text with one package a line and comments after `#`, or JSON,
told by the suffix of the file. JSON is a list of packages for every module, or an object with a list
for each module.
-/

namespace Pruning

/-- An oracle in a file, and what of it has been loaded. -/
structure OracleFile where
  path : Path
  /-- The packages of every module. -/
  shared : Option PackageSet
  /-- The packages of each module. -/
  byModule : Option (Fields PackageSet)
  deriving DecidableEq, Repr

namespace OracleFile

/-- The oracle in a file that has not been loaded. -/
def ofPath (path : Path) : OracleFile :=
  ⟨path, none, none⟩

/-- The packages of a text, one a line. -/
def packagesOfText (text : String) : PackageSet :=
  let names := (Text.lines text.toList).map fun line => Text.trim (line.takeWhile (· ≠ '#'))
  .ofList ((names.filter fun name => !name.isEmpty).map String.ofList)

/-- The packages that JSON gives for each module, if it is an object of lists of texts. -/
def byModuleOfJson (value : Json) : Option (Fields PackageSet) :=
  match value with
  | .object members =>
    members.mapM fun member => member.2.texts?.map fun names => (member.1, PackageSet.ofList names)
  | _ => none

/-- The oracle with the content of its file in JSON. -/
def withJson (oracle : OracleFile) (text : String) : Except Failure OracleFile :=
  match Json.read text with
  | .error refusal =>
    .error (.ofJson text (fun complaint => .oracle (.notJson oracle.path.name complaint)) refusal)
  | .ok value =>
    match value.texts?, byModuleOfJson value with
    | some names, _ => .ok { oracle with shared := some (.ofList names) }
    | none, some byModule => .ok { oracle with byModule := some byModule }
    | none, none => .error (.oracle (.layout oracle.path.name))

/-- Loads the file. What was loaded before is kept when that fails. -/
def load (w : Workspace) (oracle : OracleFile) : Script OracleFile := do
  let text ← .ofOutcome (w.readText oracle.path)
  let loaded ←
    if Text.lowered oracle.path.suffix = ".json" then .ofOutcome (oracle.withJson text)
    else pure { oracle with shared := some (packagesOfText text) }
  .note .debug .oracle s!"Loaded used packages from {oracle.path}"
  return loaded

/-- Drops what was loaded. -/
def unload (oracle : OracleFile) : OracleFile :=
  ofPath oracle.path

/-- The used packages of a module. A module that the file does not name uses nothing. -/
def packagesOf (oracle : OracleFile) (m : Module) : Script PackageSet :=
  match oracle.shared, oracle.byModule with
  | some packages, _ => .answer packages
  | none, some byModule =>
    match Fields.get? m.id byModule with
    | some packages => .answer packages
    | none => do
      .note .warning .oracle
        s!"{oracle.path.name} has no entry for {m.id}; treating it as referencing nothing"
      return []
  | none, none => .fail (.oracle (.closed m.id))

/-- An oracle inside a message. -/
def describe (oracle : OracleFile) : String :=
  "UsedPackagesFileOracle(path=" ++ Text.quoted oracle.path.text ++ ")"

end OracleFile

/-- The oracle in a file of a workspace. -/
def Oracle.ofFile (w : Workspace) (path : Path) : Oracle where
  opening := do
    let loaded ← (OracleFile.ofPath path).load w
    return loaded.packagesOf
  closing := .answer ()

end Pruning
