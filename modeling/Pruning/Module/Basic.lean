import Pruning.Fields
import Pruning.Path
import Pruning.Text.Casing
import Pruning.Text.Quoted
import Pruning.Version.Reader

/-!
Module descriptors: what one manifest declares. Declarations are told apart by a mark, not by what they
say: two requirements of one module id are two declarations, and each can be removed without the
other.
-/

namespace Pruning

/-- The identity of a declaration: the module that made it, and a number within that module. -/
structure Mark where
  owner : Nat
  index : Nat
  deriving DecidableEq, Repr

/-- A required module. -/
structure ModuleImport where
  mark : Mark
  id : String
  /-- The exports of the required module are visible through the one that requires it. -/
  reexported : Bool
  optional : Bool
  attributes : Fields String
  directives : Fields String
  deriving DecidableEq, Repr

/-- An imported package. -/
structure PackageImport where
  mark : Mark
  name : String
  attributes : Fields String
  directives : Fields String
  deriving DecidableEq, Repr

/-- A module descriptor. -/
structure Module where
  /-- The identity of the descriptor. -/
  mark : Nat
  /-- The id of the module; empty when the manifest declares none. -/
  id : String
  version : String
  requires : List ModuleImport
  /-- The imported packages; none when the manifest has no header for them. -/
  packages : Option (List PackageImport)
  /-- The headers as they were read. -/
  headers : Fields String
  /-- Exported packages known from compiled code, for a manifest that declares no exports. -/
  metadataExports : Option (List String)
  /-- The file the module was read from. -/
  location : Option Path
  /-- What ends a line when the manifest is written. -/
  lineEnding : String
  deriving DecidableEq, Repr

namespace Header

/-- The header that names the module. -/
def moduleId : String := "Bundle-SymbolicName"

/-- The header that gives the version. -/
def version : String := "Bundle-Version"

/-- The header that lists required modules. -/
def require : String := "Require-Bundle"

/-- The header that lists imported packages. -/
def importPackage : String := "Import-Package"

/-- The header that lists exported packages. -/
def exportPackage : String := "Export-Package"

/-- The header that lists the modules this one is a buddy of. -/
def buddy : String := "Eclipse-RegisterBuddy"

end Header

namespace ModuleImport

/-- The attribute with the accepted range of versions. -/
def versionKey : String := "bundle-version"

/-- The directive that makes a requirement visible to others. -/
def visibilityKey : String := "visibility"

/-- The value of `visibilityKey` for a re-exported requirement. -/
def reexportValue : String := "reexport"

/-- The directive that makes a requirement optional. -/
def resolutionKey : String := "resolution"

/-- The value of `resolutionKey` for an optional requirement. -/
def optionalValue : String := "optional"

/-- The accepted range of versions, if one is declared. -/
def versionRange (required : ModuleImport) : Option String :=
  Fields.get? versionKey required.attributes

/-- A requirement inside a message. -/
def describe (required : ModuleImport) : String :=
  "ModuleImport(module_id=" ++ Text.quoted required.id ++ ", reexported=" ++
    (if required.reexported then "True" else "False") ++ ")"

end ModuleImport

namespace PackageImport

/-- The attribute that names the module a package comes from. -/
def providerKey : String := "bundle-symbolic-name"

/-- The id of the module that the package is expected from. -/
def provider (package : PackageImport) : Option String :=
  Fields.get? providerKey package.attributes

/-- A package import inside a message. -/
def describe (package : PackageImport) : String :=
  "PackageImport(name=" ++ Text.quoted package.name ++ ")"

end PackageImport

namespace Module

/-- The version of a module that declares none. -/
def defaultVersion : String := "0.0.0"

/-- The version as it is compared. -/
def parsedVersion [Version.Casing] (m : Module) : Except Version.Refusal Version :=
  Version.ofManifest m.version

/-- The imported packages. -/
def packageImports (m : Module) : List PackageImport :=
  m.packages.getD []

/-- Whether the manifest declares a module at all. -/
def hasId (m : Module) : Bool :=
  !m.id.isEmpty

/-- The value of a header, by its exact name if there is one, by any spelling of its capitals
otherwise. -/
def header (m : Module) (name : String) : Option String :=
  match Fields.get? name m.headers with
  | some value => some value
  | none =>
    (m.headers.find? fun entry => Text.lowered entry.1 = Text.lowered name).map Prod.snd

/-- A module inside a message. -/
def describe (m : Module) : String :=
  "Module(module_id=" ++ Text.quoted m.id ++ ", version=" ++ Text.quoted m.version ++ ")"

/-- The imported packages inside a message. -/
def describePackages (m : Module) : Option String :=
  m.packages.map fun packages =>
    "ImportPackageHeader(packages=" ++ Text.quotedList (packages.map PackageImport.name) ++ ")"

end Module

end Pruning
