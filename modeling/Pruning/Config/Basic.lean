import Pruning.Failure

/-!
The configuration: defaults for the inputs of a command. It is read from a section of a configuration
file, whose options are checked for their names first and for their kinds after that.
-/

namespace Pruning

/-- The value of an option, as far as options tell values apart. -/
inductive Setting where
  | text (value : String)
  | bool (value : Bool)
  | texts (values : List String)
  /-- A value of a kind that no option takes. -/
  | other (typeName : String)
  deriving DecidableEq, Repr

/-- The name of the type of a setting, as messages give it. -/
def Setting.typeName : Setting → String
  | .text _ => "str"
  | .bool _ => "bool"
  | .texts _ => "list"
  | .other typeName => typeName

/-- A JSON value as a setting. -/
def Setting.ofJson (value : Json) : Setting :=
  match value with
  | .text s => .text s
  | .bool b => .bool b
  | value =>
    match value.texts? with
    | some values => .texts values
    | none => .other value.typeName

/-- Defaults for the inputs of a command. -/
structure Config where
  /-- Folders and manifests of the registry, beside those given to a command. -/
  registryPaths : List Path
  /-- The file with the used packages. -/
  usedPackages : Option Path
  /-- Whether a manifest is backed up before it is pruned. -/
  createBackup : Bool
  /-- The file that the configuration was read from. -/
  source : Option Path
  deriving DecidableEq, Repr

namespace Config

/-- The configuration without a file. -/
def default : Config :=
  ⟨[], none, true, none⟩

/-- The options of a section. -/
def optionNames : List String := ["registry_paths", "used_packages", "create_backup"]

/-- Reads the registry paths of a section, taken from the folder `base`. -/
def readRegistryPaths (base : Path) (settings : Fields Setting) : Except ConfigFault (List Path) :=
  match Fields.get? "registry_paths" settings with
  | none => .ok []
  | some (.texts values) => .ok (values.map fun value => base.join (.parse value))
  | some _ => .error .registryPaths

/-- Reads the path of the used packages, taken from the folder `base`. -/
def readUsedPackages (base : Path) (settings : Fields Setting) : Except ConfigFault (Option Path) :=
  match Fields.get? "used_packages" settings with
  | none => .ok none
  | some (.text value) => .ok (some (base.join (.parse value)))
  | some setting => .error (.usedPackages setting.typeName)

/-- Reads whether backups are made. -/
def readCreateBackup (settings : Fields Setting) : Except ConfigFault Bool :=
  match Fields.get? "create_backup" settings with
  | none => .ok default.createBackup
  | some (.bool value) => .ok value
  | some setting => .error (.createBackup setting.typeName)

/-- Reads a section. Relative paths are taken from the folder `base`. -/
def ofSection (base : Path) (settings : Fields Setting) : Except ConfigFault Config := do
  let unknown := (Fields.keys settings).filter fun name => !optionNames.contains name
  if !unknown.isEmpty then
    throw (.unknownOptions (unknown.mergeSort fun a b => decide (a ≤ b)))
  let registryPaths ← readRegistryPaths base settings
  let usedPackages ← readUsedPackages base settings
  let createBackup ← readCreateBackup settings
  return ⟨registryPaths, usedPackages, createBackup, none⟩

/-- The options of a configuration, for the log. -/
def json (config : Config) : Json :=
  .object [("registry_paths", .ofTexts (config.registryPaths.map Path.text)),
    ("used_packages", .optional (config.usedPackages.map Path.text)),
    ("create_backup", .bool config.createBackup)]

end Config

end Pruning
