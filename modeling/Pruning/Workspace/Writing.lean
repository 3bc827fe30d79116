import Pruning.Filing

/-!
Writing to a workspace. A file is written beside its target under a temporary name and then put in the
target's place, so that the target holds either the old text or the new one.
-/

namespace Pruning.Workspace

/-- Makes one folder. -/
def makeFolder (w : Workspace) (p : Path) : Except SystemFault Workspace :=
  match w.placeOf p with
  | .error fault => .error fault
  | .ok place =>
    match w.nodeAt? place with
    | some _ => .error (.exists p.text)
    | none => .ok (w.withFolder place)

/-- Whether a path leads to a folder. -/
def isFolder (w : Workspace) (p : Path) : Except Failure Bool := do
  match ← w.node? p with
  | some .folder => return true
  | _ => return false

/-- Makes one folder below a folder that exists; it may be there already. -/
def ensureFolder (p : Path) : Filing Unit := fun w =>
  match w.makeFolder p with
  | .ok w => (.answer (), w)
  | .error (.missing path) => (.fail (.system (.missing path)), w)
  | .error fault =>
    match w.isFolder p with
    | .ok true => (.answer (), w)
    | .ok false => (.fail (.system fault), w)
    | .error failure => (.fail failure, w)

/-- Makes the folder of the first `depth` names below an anchor. When the folder above is missing, that
one is made first. -/
def makeFoldersFrom (anchor : Anchor) (names : List String) : Nat → Filing Unit
  | 0 => ensureFolder ⟨anchor, []⟩
  | depth + 1 => fun w =>
    let p : Path := ⟨anchor, names.take (depth + 1)⟩
    match w.makeFolder p with
    | .error (.missing _) => (makeFoldersFrom anchor names depth).andThen (fun _ => ensureFolder p) w
    | _ => ensureFolder p w

/-- Makes a folder and the folders that lead to it, as far as they are not there. -/
def makeFolders (p : Path) : Filing Unit :=
  makeFoldersFrom p.anchor p.parts p.parts.length

/-- The temporary file in which the text for a target is written. -/
def temporary (w : Workspace) (target : Path) : Path :=
  (w.resolve target.parent).child ("." ++ target.name ++ "." ++ w.salt ++ ".tmp")

/-- Puts a temporary file in the place of the target. -/
def replace (w : Workspace) (temp target : Path) (content : ByteArray) :
    Except SystemFault Workspace :=
  if target.parts.isEmpty || target.name = ".." then .error (.busy temp.text target.text)
  else
    match w.placeOf target with
    | .error fault => .error fault
    | .ok place =>
      match w.nodeAt? place with
      | some .folder => .error (.overFolder temp.text target.text)
      | _ => .ok (w.withFile place content)

/-- Writes a text to a file, all of it or nothing. The folders that lead to the file are made. -/
def write (target : Path) (text : String) : Filing Unit := do
  makeFolders target.parent
  let w ← Filing.look
  let temp := w.temporary target
  match w.placeOf temp with
  | .error fault => Filing.fail (.file (.unwritable target fault.message))
  | .ok _ =>
    match w.replace temp target text.toUTF8 with
    | .ok after => Filing.change fun _ => after
    | .error fault =>
      Filing.note .debug .filesystem s!"Cleaned up temporary file: {temp}"
      Filing.fail (.file (.unwritable target fault.message))

/-- Whether a path, as it was typed, ends in a name and slashes. -/
def endsInSlash (typed : String) : Bool :=
  typed.endsWith "/" &&
    match (Path.pieces [] typed.toList).reverse.dropWhile List.isEmpty with
    | piece :: _ => piece != ['.'] && piece != ['.', '.']
    | [] => false

/-- The place of the file that is written under a typed path. The folder it is in must be there; a name
with slashes after it is the name of no file. -/
def placeToWrite (w : Workspace) (typed : String) : Except SystemFault (List String) := do
  if typed.isEmpty then throw (.missing typed)
  if maxPath < typed.utf8ByteSize then throw (.nameTooLong typed)
  let p := Path.parse typed
  if endsInSlash typed then
    let folder ← w.walk typed (w.startOf p) p.parts.dropLast
    match w.nodeAt? folder with
    | some .folder => throw (.missingFolder typed)
    | some (.file _) => throw (.notFolder typed)
    | none => throw (.missing typed)
  let place ← w.walk typed (w.startOf p) p.parts
  let inFolder := typed.endsWith "/" || typed.endsWith "/."
  match w.nodeAt? place with
  | some .folder => throw (.isFolder typed)
  | some (.file _) => if inFolder then throw (.notFolder typed)
  | none =>
    if inFolder then throw (.missing typed)
    match w.nodeAt? place.dropLast with
    | some .folder => pure ()
    | some (.file _) => throw (.notFolder typed)
    | none => throw (.missing typed)
  return place

/-- The path of the file that a copy makes: the typed one, or the source's name in the folder there. -/
def copyName (w : Workspace) (source : Path) (typed : String) : String :=
  match w.nodeNamed typed with
  | .ok .folder =>
    if typed.endsWith "/" then typed ++ source.lastPiece else typed ++ "/" ++ source.lastPiece
  | _ => typed

/-- Whether a typed path leads to what stands at a place. -/
def leadsTo (w : Workspace) (typed : String) (place : List String) : Bool :=
  match w.nodeNamed typed, w.placeOf (.parse typed) with
  | .ok _, .ok reached => reached = place
  | _, _ => false

/-- Copies a file. A copy to a folder goes into it, under the name of the source. -/
def copy (source : Path) (typed : String) : Filing Unit := fun w =>
  let target := w.copyName source typed
  let outcome : Except SystemFault Workspace := do
    let origin ← w.placeOf source
    let node ← w.nodeOf source
    if target.toList.contains '\x00' then throw .nullInPath
    if w.leadsTo target origin then throw (.sameFile source.text target)
    match node with
    | .folder => throw (.isFolder source.text)
    | .file content => return w.withFile (← w.placeToWrite target) content
  match outcome with
  | .ok after => (.answer (), after)
  | .error fault => (.fail (.system fault), w)

/-- The name of a backup made at the present time. -/
def backupOf (w : Workspace) (p : Path) : Path :=
  p.parent.child (p.stem ++ "." ++ w.stamp ++ ".backup" ++ p.suffix)

/-- Copies a file to a backup beside it. -/
def backUp (p : Path) : Filing Path := do
  let w ← Filing.look
  if !(← Filing.ofOutcome (w.isFile p)) then Filing.fail (.file (.noBackupOf p))
  let backup := w.backupOf p
  (copy p backup.text).orElse fun failure => Filing.fail (.file (.backupFailed p failure.text))
  Filing.note .debug .filesystem s!"Created timestamped backup: {backup}"
  return backup

/-- Copies a backup over a file. A target that no path can have is told as it is. -/
def restore (backup : Path) (target : String) : Filing Unit := do
  let w ← Filing.look
  if (← Filing.ofOutcome (w.node? backup)).isNone then Filing.fail (.file (.noBackup backup))
  Filing.note .debug .filesystem s!"Restoring {target} from backup {backup}"
  (copy backup target).orElse fun failure =>
    Filing.fail <|
      match failure with
      | .system .nullInPath => failure
      | _ => .file (.restoreFailed target failure.text)

end Pruning.Workspace
