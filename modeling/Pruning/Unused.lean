import Pruning.Json.Value
import Pruning.Module.Basic

/-!
Entries: declarations that can be removed, and how they are shown.
-/

namespace Pruning

/-- A declaration that can be removed. -/
inductive Entry where
  | requirement (required : ModuleImport)
  | packageImport (package : PackageImport)
  deriving DecidableEq, Repr

namespace Entry

/-- What kind of declaration an entry is. -/
def kind : Entry → String
  | .requirement _ => "module"
  | .packageImport _ => "package"

/-- What an entry names. -/
def name : Entry → String
  | .requirement required => required.id
  | .packageImport package => package.name

/-- The identity of the declaration. -/
def mark : Entry → Mark
  | .requirement required => required.mark
  | .packageImport package => package.mark

/-- An entry inside a message. -/
def text : Entry → String
  | .requirement required => Header.require ++ ": " ++ required.id
  | .packageImport package => Header.importPackage ++ ": " ++ package.name

/-- What is shown of an entry beside its name. -/
def detail : Entry → String
  | .requirement required =>
    let range := required.versionRange.getD ""
    if range.isEmpty then "-" else range
  | .packageImport package =>
    let provider := package.provider.getD ""
    if provider.isEmpty then "-" else "provided by " ++ provider

/-- An entry as JSON. -/
def json (entry : Entry) : Json :=
  let shared : Fields Json := [("kind", .text entry.kind), ("name", .text entry.name)]
  match entry with
  | .requirement required => .object (shared ++ [("version_range", Json.optional required.versionRange)])
  | .packageImport package => .object (shared ++ [("providing_module", Json.optional package.provider)])

end Entry

end Pruning
