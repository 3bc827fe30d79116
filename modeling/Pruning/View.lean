import Pruning.Analysis
import Pruning.Config.Basic
import Pruning.Manifest.Clause

/-!
Views: what the things of the library look like as JSON, member by member.
-/

namespace Pruning

/-- The view of a clause. -/
def Manifest.Clause.view (clause : Clause) : Json :=
  .object [("names", .ofTexts clause.names), ("attributes", .ofTextFields clause.attributes),
    ("directives", .ofTextFields clause.directives), ("text", .text clause.text)]

/-- The view of a requirement. -/
def ModuleImport.view (required : ModuleImport) : Json :=
  .object [("id", .text required.id), ("reexported", .bool required.reexported),
    ("optional", .bool required.optional), ("version_range", .optional required.versionRange),
    ("attributes", .ofTextFields required.attributes),
    ("directives", .ofTextFields required.directives)]

/-- The view of a package import. -/
def PackageImport.view (package : PackageImport) : Json :=
  .object [("name", .text package.name), ("value", .text package.name),
    ("provider", .optional package.provider), ("attributes", .ofTextFields package.attributes),
    ("directives", .ofTextFields package.directives)]

namespace Module

/-- The members of the view of a module. -/
def view (m : Module) : Fields Json :=
  let packages :=
    match m.packages with
    | some packages => .list (packages.map PackageImport.view)
    | none => .null
  let exports :=
    match m.metadataExports with
    | some names => .ofTexts names
    | none => .null
  [("id", .text m.id), ("version", .text m.version), ("structured", .bool m.hasId),
    ("requires", .list (m.requires.map ModuleImport.view)), ("packages", packages),
    ("headers", .ofTextFields m.headers), ("metadata_exports", exports),
    ("line_ending", .text m.lineEnding), ("location", .optional (m.location.map Path.text))]

/-- What is left of the declarations of a module, by name. -/
def leftView (m : Module) : Fields Json :=
  let packages := m.packages.map fun packages => packages.map PackageImport.name
  let names :=
    match packages with
    | some names => .ofTexts names
    | none => .null
  let count :=
    match packages with
    | some names => .int names.length
    | none => .null
  [("requires", .ofTexts (m.requires.map ModuleImport.id)), ("packages", names), ("count", count)]

/-- The id and version of a module. -/
def brief (m : Module) : String :=
  m.id ++ "@" ++ m.version

end Module

/-- The view of a registry. -/
def Registry.view (registry : Registry) : Fields Json :=
  [("ids", .ofTexts registry.ids), ("modules", .ofTexts (registry.modules.map Module.brief)),
    ("len", .int registry.size)]

/-- The view of an entry. -/
def Entry.view (entry : Entry) : Json :=
  .object [("json", entry.json), ("text", .text entry.text), ("detail", .text entry.detail)]

/-- Whether an entry is a required module. -/
def Entry.isRequirement : Entry → Bool
  | .requirement _ => true
  | .packageImport _ => false

/-- The view of findings. -/
def Findings.view (findings : Findings) : Fields Json :=
  let (modules, packages) := findings.unused.partition Entry.isRequirement
  [("result", findings.json), ("summary", .text findings.summary),
    ("has_unused", .bool findings.hasUnused), ("used_packages", .ofTexts findings.usedPackages),
    ("entries", .list (findings.unused.map Entry.view)),
    ("modules", .ofTexts (modules.map Entry.name)),
    ("packages", .ofTexts (packages.map Entry.name))]

/-- The view of an update. -/
def Update.view (update : Update) : Json :=
  .list [.int update.completed, .int update.total, .text update.task]

/-- The view of a monitor, with the updates after the first `told`. -/
def Monitor.view (monitor : Monitor) (told : Nat) : Fields Json :=
  [("state", monitor.state.view),
    ("updates", .list ((monitor.updates.drop told).map Update.view))]

/-- The view of a configuration. -/
def Config.view (config : Config) : Fields Json :=
  [("registry_paths", .ofTexts (config.registryPaths.map Path.text)),
    ("used_packages", .optional (config.usedPackages.map Path.text)),
    ("create_backup", .bool config.createBackup),
    ("source_path", .optional (config.source.map Path.text)), ("log_dict", config.json)]

/-- The view of a report. -/
def Report.view (report : Report) : Json :=
  .ofFields report.details

/-- The view of a record of the log. -/
def Record.view (record : Record) : Json :=
  .list [.text record.severity.name, .text record.channel.name, .text record.text]

end Pruning
