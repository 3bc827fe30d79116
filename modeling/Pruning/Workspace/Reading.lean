import Pruning.Module.Reader
import Pruning.Script
import Pruning.Workspace.Basic

/-!
Reading from a workspace: texts up to a limit of size, and the manifests below some paths.
-/

namespace Pruning.Workspace

/-- The largest file that is read, in bytes. -/
def maxFileSize : Nat := 10 * 1024 * 1024

/-- The bytes of a file that is not larger than `limit`, with the path of the file without dots. -/
def bytesOf (w : Workspace) (p : Path) (limit : Option Nat) : Except Failure (Path × ByteArray) := do
  match ← w.node? p with
  | none => throw (.file (.notFound p))
  | some .folder => throw (.file (.notAFile p))
  | some (.file content) =>
    let resolved := w.resolve p
    match limit with
    | some limit =>
      if limit < content.size then throw (.file (.tooLarge resolved content.size limit))
    | none => pure ()
    return (resolved, content)

/-- The text that the bytes of the file `p` stand for. -/
def textOf (p : Path) (encoding : Text.Encoding) (content : ByteArray) : Except Failure String :=
  (Text.decode encoding content).mapError fun fault =>
    if fault.hasPlace then .file (.unreadable p fault.message) else .notText fault

/-- Reads a text file. Line ends are kept as they are. -/
def read (w : Workspace) (p : Path) (limit : Option Nat) (encoding : Text.Encoding) :
    Except Failure String := do
  let (resolved, content) ← w.bytesOf p limit
  textOf resolved encoding content

/-- Reads a text file in an encoding that is given by its name. The name is looked up when the file is
known to be there. -/
def readNamed (w : Workspace) (p : Path) (limit : Option Nat) (encoding : String) :
    Except Failure String := do
  let (resolved, content) ← w.bytesOf p limit
  let encoding ← (Text.Encoding.named encoding).mapError Failure.charset
  textOf resolved encoding content

/-- Reads a text file of an input to the program. -/
def readText (w : Workspace) (p : Path) : Except Failure String :=
  w.read p (some maxFileSize) .utf8

/-- Where the manifest of a module folder is. -/
def manifestNames : List String := ["META-INF", "MANIFEST.MF"]

/-- Whether `place` is the manifest of a module folder at or below `folder`. -/
def isManifestBelow (folder place : List String) : Bool :=
  folder.isPrefixOf place && manifestNames.isSuffixOf (place.drop folder.length)

/-- The manifests that a path of a registry stands for: the file itself, or all manifests below a
folder. To find these, every folder below is listed and looked into, with or without a manifest in it, and
what the system answers to that is not worked out here: how deep a walk can go depends on the stack that is
left, and which folder cannot be followed first on the order in which the system lists them
(`Workspace.walkFault?`). Folders that may not be listed are left out: a workspace has none. A path that
leads nowhere is passed over with a warning. -/
def manifestsOf (w : Workspace) (p : Path) : Script (List (List String)) := do
  match ← .ofOutcome (w.node? p) with
  | some (.file _) => return [(w.resolve p).parts]
  | some .folder =>
    if let some complaint := w.walkFault? p then .fail (.system (.unwalkable complaint))
    let folder := (w.resolve p).parts
    return (w.files.map Prod.fst).filter (isManifestBelow folder)
  | none =>
    .note .warning .filesystem s!"Registry path does not exist: {p}"
    return []

/-- The manifests that some paths stand for, in ascending order and without repetitions. -/
def findManifests (w : Workspace) (paths : List Path) : Script (List Path) := do
  let places ← paths.flatMapM w.manifestsOf
  let sorted := places.mergeSort fun a b => !decide (b < a)
  return sorted.eraseReps.map fun place => ⟨.root, place⟩

/-- The module of a manifest file, with `mark` as its identity. -/
def loadModule (w : Workspace) (mark : Nat) (p : Path) : Script Module := do
  let text ← .ofOutcome (w.readText p)
  let refused (refusal : Manifest.Refusal) : Failure :=
    .manifest { refusal with file := some p.text }
  let headers ← .ofOutcome ((Manifest.read text (some p.text)).mapError refused)
  let source : Module.Source := ⟨some p, none, Module.lineEndingOf text.toList⟩
  let m ← .ofOutcome ((Module.ofHeaders mark headers source).mapError refused)
  let id := if m.id.isEmpty then "<no id>" else m.id
  let required := m.requires.length
  let imported := m.packageImports.length
  .note .debug .manifest
    (s!"Loaded {id} {m.version} from {p} ({required} required module(s), " ++
      s!"{imported} imported package(s))")
  return m

end Pruning.Workspace
