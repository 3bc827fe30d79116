import Pruning.Failure

/-!
Workspaces: the files and folders that the program sees. Places are absolute, given by the names on the
way from the root of the file tree. A path leads to a place by way of folders that exist; two dots lead
to the folder above.
-/

namespace Pruning

/-- A file tree. -/
structure Workspace where
  /-- The folder that relative paths start from. -/
  current : List String
  folders : List (List String)
  files : List (List String × ByteArray)
  /-- The present time, as it is written in the names of backups. -/
  stamp : String
  /-- What tells the names of temporary files apart. -/
  salt : String
  /-- Why the folders at and below a path cannot all be walked, if so: they are nested too deep, or the
  system refuses to follow one of them. -/
  walkFault? : Path → Option String := fun _ => none

/-- What stands at a place. -/
inductive Node where
  | folder
  | file (content : ByteArray)

namespace Workspace

/-- The content of the file at a place. -/
def fileAt? (w : Workspace) (place : List String) : Option ByteArray :=
  (w.files.find? fun file => file.1 = place).map Prod.snd

/-- Whether there is a folder at a place. The root of the tree always exists. -/
def isFolderAt (w : Workspace) (place : List String) : Bool :=
  place.isEmpty || w.folders.contains place

/-- What stands at a place. -/
def nodeAt? (w : Workspace) (place : List String) : Option Node :=
  match w.fileAt? place with
  | some content => some (.file content)
  | none => if w.isFolderAt place then some .folder else none

/-- The longest name, in bytes. -/
def maxName : Nat := 255

/-- The longest path, in bytes. -/
def maxPath : Nat := 4095

/-- Where the path `p` starts. -/
def startOf (w : Workspace) (p : Path) : List String :=
  match p.anchor with
  | .relative => w.current
  | _ => []

/-- Follows names from a place; `path` is the path shown in a fault. -/
def walk (w : Workspace) (path : String) (place : List String) :
    List String → Except SystemFault (List String)
  | [] => .ok place
  | name :: rest =>
    match w.nodeAt? place with
    | none => .error (.missing path)
    | some (.file _) => .error (.notFolder path)
    | some .folder =>
      if maxName < name.utf8ByteSize then .error (.nameTooLong path)
      else if name = ".." then walk w path place.dropLast rest
      else walk w path (place ++ [name]) rest

/-- The place that a path leads to, whether or not anything stands there. -/
def placeOf (w : Workspace) (p : Path) : Except SystemFault (List String) :=
  if p.text.toList.contains '\x00' then .error .nullInPath
  else if maxPath < p.text.utf8ByteSize then .error (.nameTooLong p.text)
  else w.walk p.text (w.startOf p) p.parts

/-- What a path leads to. -/
def nodeOf (w : Workspace) (p : Path) : Except SystemFault Node :=
  match w.placeOf p with
  | .error fault => .error fault
  | .ok place =>
    match w.nodeAt? place with
    | some node => .ok node
    | none => .error (.missing p.text)

/-- What a path, as it was typed, leads to. A file is not found under a path that ends like a folder's. -/
def nodeNamed (w : Workspace) (typed : String) : Except SystemFault Node :=
  if typed.isEmpty then .error (.missing typed)
  else if maxPath < typed.utf8ByteSize then .error (.nameTooLong typed)
  else
    match w.nodeOf (.parse typed) with
    | .ok (.file content) =>
      if typed.endsWith "/" || typed.endsWith "/." then .error (.notFolder typed)
      else .ok (.file content)
    | outcome => outcome

/-- What a path leads to, if anything. A name that is too long is a failure of its own. -/
def node? (w : Workspace) (p : Path) : Except Failure (Option Node) :=
  match w.nodeOf p with
  | .ok node => .ok (some node)
  | .error (.nameTooLong path) => .error (.system (.nameTooLong path))
  | .error _ => .ok none

/-- Whether a path leads to a file. -/
def isFile (w : Workspace) (p : Path) : Except Failure Bool := do
  match ← w.node? p with
  | some (.file _) => return true
  | _ => return false

/-- Takes the dots out of a path by its names alone. -/
def collapse (place : List String) : List String → List String
  | [] => place
  | name :: rest => collapse (if name = ".." then place.dropLast else place ++ [name]) rest

/-- The absolute path without dots of a path. -/
def resolve (w : Workspace) (p : Path) : Path :=
  ⟨.root, collapse (w.startOf p) p.parts⟩

/-- Puts a file at a place, instead of one that may be there. -/
def putFile (place : List String) (content : ByteArray) :
    List (List String × ByteArray) → List (List String × ByteArray)
  | [] => [(place, content)]
  | file :: rest =>
    if file.1 = place then (place, content) :: rest else file :: putFile place content rest

/-- The workspace with a file at a place. -/
def withFile (w : Workspace) (place : List String) (content : ByteArray) : Workspace :=
  { w with files := putFile place content w.files }

/-- The workspace with a folder at a place. -/
def withFolder (w : Workspace) (place : List String) : Workspace :=
  if w.isFolderAt place then w else { w with folders := w.folders ++ [place] }

/-- The workspace without the file at a place. -/
def withoutFile (w : Workspace) (place : List String) : Workspace :=
  { w with files := w.files.filter fun file => file.1 ≠ place }

/-- The workspace with all folders on the way to a place, the place itself included. -/
def withFolders (w : Workspace) (place : List String) : Workspace :=
  (List.range (place.length + 1)).foldl (fun w depth => w.withFolder (place.take depth)) w

/-- The workspace with a file, and with the folders that lead to it. -/
def seed (w : Workspace) (place : List String) (content : ByteArray) : Workspace :=
  (w.withFolders place.dropLast).withFile place content

end Workspace

end Pruning
