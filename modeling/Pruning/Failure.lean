import Pruning.Console
import Pruning.Json.Reader
import Pruning.Manifest.Fault
import Pruning.Path
import Pruning.Text.Charset
import Pruning.Version.Reader

/-!
Failures: every reason for which an operation of the library does not give an answer. A failure is a
cause; `Failure.report` says how it is told, and `Failure.text` is the same on one line.
-/

namespace Pruning

/-- Why a snapshot of a registry is refused. -/
inductive SnapshotFault where
  /-- The file is not JSON. -/
  | notJson (complaint : String)
  /-- The file is not an object with a list of modules. -/
  | layout
  | entryNotObject (index : Nat)
  | entryHeaders (index : Nat)
  | entryExports (index : Nat)
  /-- A dependency header of an entry cannot be read. -/
  | entryMalformed (index : Nat) (refusal : Manifest.Refusal)
  | entryWithoutId (index : Nat)
  deriving DecidableEq, Repr

/-- What is wrong with a snapshot. -/
def SnapshotFault.message : SnapshotFault → String
  | .notJson complaint => "Invalid JSON snapshot: " ++ complaint
  | .layout => "Snapshot must be an object with a 'modules' list"
  | .entryNotObject index => s!"Snapshot entry {index} is not an object"
  | .entryHeaders index => s!"Snapshot entry {index} needs a 'headers' object of strings"
  | .entryExports index => s!"Snapshot entry {index} has a non-list 'exports' value"
  | .entryMalformed index refusal =>
    s!"Snapshot entry {index} has malformed headers: {refusal.report.text}"
  | .entryWithoutId index => s!"Snapshot entry {index} has no module id"

/-- Why a registry cannot be built. -/
inductive RegistryFault where
  /-- A module without an id cannot be registered. -/
  | withoutId (location : Option Path)
  | snapshot (source : String) (fault : SnapshotFault)
  deriving DecidableEq, Repr

/-- The report of a registry that cannot be built. -/
def RegistryFault.report : RegistryFault → Report
  | .withoutId location =>
    ⟨"Cannot register a module without an id", Report.detail "source" (location.map Path.text)⟩
  | .snapshot source fault => ⟨fault.message, Report.detail "source" (some source)⟩

/-- Why the used packages of a module are not known. -/
inductive OracleFault where
  /-- The file is not JSON. -/
  | notJson (file complaint : String)
  /-- The file holds JSON, but no lists of packages. -/
  | layout (file : String)
  /-- The oracle was asked while it was closed. -/
  | closed (moduleId : String)
  /-- Something else went wrong while an oracle was at work. -/
  | failed (moduleId cause : String)
  /-- A fault that an oracle tells in words of its own. -/
  | reported (message : String)
  deriving DecidableEq, Repr

/-- The report of used packages that are not known. -/
def OracleFault.report : OracleFault → Report
  | .notJson file complaint =>
    ⟨s!"Invalid JSON in {file}: {complaint}", Report.detail "original_error" (some complaint)⟩
  | .layout file =>
    ⟨s!"{file} must hold a list of package names or an object mapping module ids to lists", []⟩
  | .closed moduleId =>
    ⟨"Oracle used outside of its context", Report.detail "module" (some moduleId)⟩
  | .failed moduleId cause =>
    ⟨"Failed to compute used packages: " ++ cause,
      Report.detail "module" (some moduleId) ++ Report.detail "original_error" (some cause)⟩
  | .reported message => ⟨message, []⟩

/-- What the file system answers to a request that it cannot fulfil. -/
inductive SystemFault where
  | missing (path : String)
  | busy (path : String) (target : String)
  | exists (path : String)
  | notFolder (path : String)
  | isFolder (path : String)
  /-- A file cannot take the place of a folder. -/
  | overFolder (path : String) (target : String)
  | nameTooLong (path : String)
  /-- A copy of a file onto itself. -/
  | sameFile (source target : String)
  /-- A path that ends in a folder that is not there. -/
  | missingFolder (path : String)
  /-- A path with a character that no path can have. -/
  | nullInPath
  /-- The folders below a folder cannot all be walked. -/
  | unwalkable (complaint : String)
  deriving DecidableEq, Repr

/-- The wording of an answer of the file system. -/
def SystemFault.message : SystemFault → String
  | .missing path => "[Errno 2] No such file or directory: " ++ Text.quoted path
  | .busy path target =>
    "[Errno 16] Device or resource busy: " ++ Text.quoted path ++ " -> " ++ Text.quoted target
  | .exists path => "[Errno 17] File exists: " ++ Text.quoted path
  | .notFolder path => "[Errno 20] Not a directory: " ++ Text.quoted path
  | .isFolder path => "[Errno 21] Is a directory: " ++ Text.quoted path
  | .overFolder path target =>
    "[Errno 21] Is a directory: " ++ Text.quoted path ++ " -> " ++ Text.quoted target
  | .nameTooLong path => "[Errno 36] File name too long: " ++ Text.quoted path
  | .sameFile source target =>
    "PosixPath(" ++ Text.quoted source ++ ") and " ++ Text.quoted target ++ " are the same file"
  | .missingFolder path => "Directory does not exist: " ++ path
  | .nullInPath => "embedded null byte"
  | .unwalkable complaint => complaint

/-- Why an operation on a file fails. -/
inductive FileFault where
  | notFound (path : Path)
  | notAFile (path : Path)
  | tooLarge (path : Path) (size limit : Nat)
  | unreadable (path : Path) (cause : String)
  | unwritable (path : Path) (cause : String)
  | noBackupOf (path : Path)
  | backupFailed (path : Path) (cause : String)
  | noBackup (path : Path)
  | restoreFailed (path : String) (cause : String)
  /-- A module that was not read from a file has no file to be written to. -/
  | noLocation (moduleId : String)
  deriving DecidableEq, Repr

/-- The report of a failed operation on a file. -/
def FileFault.report (fault : FileFault) : Report :=
  let details (path operation : String) (cause : Option String) : Fields Json :=
    Report.detail "path" (some path) ++ Report.detail "operation" (some operation) ++
      Report.detail "original_error" cause
  match fault with
  | .notFound path => ⟨s!"File not found: {path}", details path.text "read" none⟩
  | .notAFile path => ⟨s!"Not a file: {path}", details path.text "read" none⟩
  | .tooLarge path size limit =>
    ⟨s!"File too large: {size} bytes (max {limit})", details path.text "read" none⟩
  | .unreadable path cause =>
    ⟨"Failed to read file: " ++ cause, details path.text "read" (some cause)⟩
  | .unwritable path cause =>
    ⟨"Atomic write failed: " ++ cause, details path.text "write" (some cause)⟩
  | .noBackupOf path => ⟨s!"Cannot backup invalid file: {path}", details path.text "backup" none⟩
  | .backupFailed path cause =>
    ⟨"Failed to create backup: " ++ cause, details path.text "backup" (some cause)⟩
  | .noBackup path => ⟨s!"Backup file not found: {path}", details path.text "restore" none⟩
  | .restoreFailed path cause =>
    ⟨"Failed to restore backup: " ++ cause, details path "restore" (some cause)⟩
  | .noLocation moduleId =>
    let named := if moduleId.isEmpty then "<no id>" else moduleId
    ⟨"No manifest location known for " ++ named, Report.detail "operation" (some "write")⟩

/-- What is wrong with a configuration file. -/
inductive ConfigFault where
  | missing
  /-- The file cannot be read. -/
  | unreadable (cause : String)
  /-- The file, known by its last name, is not TOML. -/
  | notToml (file complaint : String)
  /-- Options that the program does not have, in order. -/
  | unknownOptions (names : List String)
  /-- The list of registry paths is something else. -/
  | registryPaths
  /-- The path of the used packages is no text. -/
  | usedPackages (found : String)
  /-- The switch for backups is no truth value. -/
  | createBackup (found : String)
  deriving DecidableEq, Repr

/-- The report of a fault of the configuration file `path`. -/
def ConfigFault.report (path : String) (fault : ConfigFault) : Report :=
  let details (option : Option String) : Fields Json :=
    Report.detail "path" (some path) ++ Report.detail "option" option
  match fault with
  | .missing => ⟨s!"Configuration file not found: {path}", details none⟩
  | .unreadable cause => ⟨s!"Cannot read configuration file {path}: {cause}", details none⟩
  | .notToml file complaint => ⟨s!"Invalid TOML in {file}: {complaint}", details none⟩
  | .unknownOptions names =>
    ⟨"Unknown configuration keys: " ++ ", ".intercalate names, details none⟩
  | .registryPaths => ⟨"registry_paths must be a list of strings", details (some "registry_paths")⟩
  | .usedPackages found =>
    ⟨"used_packages must be a string, got " ++ found, details (some "used_packages")⟩
  | .createBackup found =>
    ⟨"create_backup must be a boolean, got " ++ found, details (some "create_backup")⟩

/-- Inputs that a command needs and that nothing gives. -/
inductive MissingInput where
  | registry
  | usedPackages
  deriving DecidableEq, Repr

/-- What is told when an input is missing. -/
def MissingInput.message : MissingInput → String
  | .registry =>
    "No module registry given; pass --registry or --snapshot, or set registry_paths in the configuration"
  | .usedPackages =>
    "No used-package file given; pass --used-packages or set used_packages in the configuration"

/-- The reason for which an operation does not give an answer. -/
inductive Failure where
  | manifest (refusal : Manifest.Refusal)
  | registry (fault : RegistryFault)
  | oracle (fault : OracleFault)
  /-- The analysis was cancelled. -/
  | cancelled (message : String) (moduleId : Option String)
  | file (fault : FileFault)
  | config (path : String) (fault : ConfigFault)
  | missingInput (input : MissingInput)
  | version (refusal : Version.Refusal)
  /-- An integer has more digits than are read. -/
  | longInteger (digits : Nat)
  /-- JSON is nested too deeply. -/
  | jsonTooDeep (container : String)
  | system (fault : SystemFault)
  /-- A file whose bytes are no text. -/
  | notText (fault : Text.DecodeFault)
  /-- A name that is not that of an encoding of texts. -/
  | charset (fault : Text.CharsetFault)
  /-- A configuration file with a value of type `found` where a table is needed. -/
  | notATable (found member : String)
  /-- A configuration file whose values are nested too deeply. -/
  | tomlTooDeep
  /-- A configuration file with a key of too many parts. -/
  | longTomlKey
  /-- Something cannot be shown on the console. -/
  | display (fault : Console.Fault)
  /-- A pruned manifest could not be written. -/
  | notWritten (cause : String)
  /-- A question was not answered. -/
  | unanswered
  /-- The program was interrupted. -/
  | interrupted
  /-- A failure from outside of the library, told in words of its own. -/
  | other (message : String)
  deriving DecidableEq, Repr

namespace Failure

/-- The report of a failure that has one. -/
def report? : Failure → Option Report
  | .manifest refusal => some refusal.report
  | .registry fault => some fault.report
  | .oracle fault => some fault.report
  | .cancelled message moduleId => some ⟨message, Report.detail "module" moduleId⟩
  | .file fault => some fault.report
  | .config path fault => some (fault.report path)
  | .missingInput input => some ⟨input.message, []⟩
  | .notWritten cause => some ⟨"Failed to write pruned manifest: " ++ cause, []⟩
  | _ => none

/-- A failure on one line. -/
def text (failure : Failure) : String :=
  match failure with
  | .version refusal => refusal.message
  | .longInteger digits => Text.longNumberMessage digits
  | .jsonTooDeep container =>
    s!"maximum recursion depth exceeded while decoding a JSON {container} from a unicode string"
  | .system fault => fault.message
  | .notText fault => fault.message
  | .charset fault => fault.message
  | .notATable found member =>
    Text.quoted found ++ " object has no attribute " ++ Text.quoted member
  | .tomlTooDeep => "TOML inline arrays/tables are nested more than the allowed 400 levels"
  | .longTomlKey => "TOML key has more than the allowed 1000 parts"
  | .display fault => fault.message
  | .other message => message
  | failure => (failure.report?.map Report.text).getD ""

/-- The failure to read a JSON text; `told` says how a fault of the text itself is told. -/
def ofJson (text : String) (told : String → Failure) : Json.Refusal → Failure
  | .malformed complaint offset => told (Json.faultMessage text complaint offset)
  | .tooDeep container => .jsonTooDeep container
  | .longInteger digits => .longInteger digits

/-- The message of a cancelled analysis. -/
def cancelMessage : String := "Analysis cancelled"

end Failure

end Pruning
