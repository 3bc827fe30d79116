import Pruning.Config.Basic
import Pruning.Script
import Pruning.Toml.Reader
import Pruning.Workspace.Basic

/-!
Configuration files. A file of the program's own is looked for first, then a project file with a section
for the program. A project file that is not TOML is passed over when it was not asked for.
-/

namespace Pruning

/-- A TOML value as a setting. -/
def Setting.ofToml (value : Toml) : Setting :=
  match value with
  | .text s => .text s
  | .bool b => .bool b
  | value =>
    match value.texts? with
    | some values => .texts values
    | none => .other value.typeName

namespace Config

/-- The configuration file of the program. -/
def ownName : String := "depprune.toml"

/-- The project file that may have a section for the program. -/
def projectName : String := "pyproject.toml"

/-- The name of the section. -/
def sectionName : String := "depprune"

/-- The table of a project file that holds the sections of programs. -/
def toolsName : String := "tool"

/-- Reads the TOML file at an absolute path. -/
def readToml (w : Workspace) (p : Path) : Except Failure (Fields Toml) :=
  let failed (fault : ConfigFault) : Except Failure (Fields Toml) := .error (.config p.text fault)
  match w.nodeOf p with
  | .error fault => failed (.unreadable fault.message)
  | .ok .folder => failed (.unreadable (SystemFault.isFolder p.text).message)
  | .ok (.file content) =>
    match Text.decode .utf8 content with
    | .error fault => .error (.notText fault)
    | .ok text =>
      match Toml.read text with
      | .ok root => .ok root
      | .error (.malformed complaint) => failed (.notToml p.name complaint)
      | .error .tooDeep => .error .tomlTooDeep
      | .error .longKey => .error .longTomlKey
      | .error (.longInteger digits) => .error (.longInteger digits)

/-- Whether a project file has a section for the program. -/
def hasSection (w : Workspace) (p : Path) : Except Failure Bool :=
  match readToml w p with
  | .error (.config _ _) => .ok false
  | .error failure => .error failure
  | .ok root =>
    match (Fields.get? toolsName root).bind Toml.table? with
    | some tools => .ok (Fields.has sectionName tools)
    | none => .ok false

/-- The configuration file to load: the given one, or the one that is found. -/
def discover (w : Workspace) (given : Option Path) : Script (Option Path) := do
  match given with
  | some p =>
    let resolved := w.resolve p
    if !(← .ofOutcome (w.isFile resolved)) then .fail (.config p.text .missing)
    .note .debug .config s!"Using explicit config: {resolved}"
    return some resolved
  | none =>
    let own := w.resolve (.parse ownName)
    let project := w.resolve (.parse projectName)
    if ← .ofOutcome (w.isFile own) then
      .note .debug .config s!"Found {ownName}: {own}"
      return some own
    if ← .ofOutcome (w.isFile project) then
      if ← .ofOutcome (hasSection w project) then
        .note .debug .config s!"Found [tool.depprune] in {projectName}: {project}"
        return some project
    .note .debug .config "No configuration file found"
    return none

/-- The section of a configuration file: under the tools in a project file, at the top in any other. -/
def sectionOf (p : Path) (root : Fields Toml) : Except Failure (Option Toml) :=
  if p.name = projectName then
    match Fields.get? toolsName root with
    | none => .ok none
    | some (.table tools) => .ok (Fields.get? sectionName tools)
    | some other => .error (.notATable other.fullTypeName "get")
  else .ok (Fields.get? sectionName root)

/-- Loads the configuration. Without a file, or without a section in it, there are the defaults. -/
def load (w : Workspace) (given : Option Path) : Script Config := do
  match ← discover w given with
  | none =>
    .note .debug .config "No config file found, using defaults"
    return default
  | some p =>
    .note .info .config s!"Loading configuration from {p}"
    let root ← .ofOutcome (readToml w p)
    let defaults : Script Config := do
      .note .debug .config "Config file found but no depprune section, using defaults"
      return { default with source := some p }
    match ← .ofOutcome (sectionOf p root) with
    | none => defaults
    | some value =>
      if value.isVoid then defaults
      else
        match value with
        | .table entries =>
          let settings := entries.map fun entry => (entry.1, Setting.ofToml entry.2)
          let config ← .ofOutcome ((ofSection p.parent settings).mapError (Failure.config p.text))
          .note .debug .config s!"Loaded configuration: {config.json.literal}"
          return { config with source := some p }
        | other => .fail (.notATable other.fullTypeName "keys")

end Config

end Pruning
