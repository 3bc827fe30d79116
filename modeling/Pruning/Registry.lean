import Pruning.Failure
import Pruning.Manifest.Clause
import Pruning.Module.Basic

/-!
The registry of known modules. Several versions of one module may be registered; they are kept in
descending order of their versions, and modules of equal versions in the order they were added.
-/

namespace Pruning

/-- Known modules by id, the ids in the order they were first registered. -/
structure Registry where
  entries : Fields (List Module)
  deriving DecidableEq, Repr

namespace Registry

/-- The registry without modules. -/
def empty : Registry :=
  ⟨[]⟩

/-- Every registered version of a module, the highest first. -/
def candidates (registry : Registry) (id : String) : List Module :=
  (Fields.get? id registry.entries).getD []

/-- The highest registered version of a module. -/
def resolve (registry : Registry) (id : String) : Option Module :=
  (registry.candidates id).head?

/-- The registered ids. -/
def ids (registry : Registry) : List String :=
  Fields.keys registry.entries

/-- Whether a module of this id was ever registered. -/
def contains (registry : Registry) (id : String) : Bool :=
  Fields.has id registry.entries

/-- Every registered module, those of one id together. -/
def modules (registry : Registry) : List Module :=
  registry.entries.flatMap Prod.snd

/-- How many modules are registered. -/
def size (registry : Registry) : Nat :=
  registry.modules.length

/-- A registry inside a message. -/
def describe (registry : Registry) : String :=
  s!"ModuleRegistry(modules={registry.size})"

section Additions

variable [Version.Casing]

/-- A module together with the version it is ordered by. -/
def versioned (m : Module) : Except Failure (Version × Module) :=
  match m.parsedVersion with
  | .ok version => .ok (version, m)
  | .error refusal => .error (.version refusal)

/-- Modules in descending order of their versions. -/
def descending (modules : List Module) : Except Failure (List Module) :=
  match modules.mapM versioned with
  | .ok versioned => .ok ((versioned.mergeSort fun a b => b.1.le a.1).map Prod.snd)
  | .error failure => .error failure

/-- Registers a module. A module without an id is refused. When a version among the modules of its id
cannot be read, that failure is given, and the module is left at the end of them. -/
def add (registry : Registry) (m : Module) : Registry × Except Failure Unit :=
  if m.hasId then
    let versions := registry.candidates m.id ++ [m]
    match descending versions with
    | .ok sorted => (⟨Fields.put m.id sorted registry.entries⟩, .ok ())
    | .error failure => (⟨Fields.put m.id versions registry.entries⟩, .error failure)
  else (registry, .error (.registry (.withoutId m.location)))

/-- The registry with modules added one after the other. -/
def addAll (registry : Registry) : List Module → Except Failure Registry
  | [] => .ok registry
  | m :: rest =>
    match registry.add m with
    | (registry, .ok ()) => registry.addAll rest
    | (_, .error failure) => .error failure

/-- The registry of a list of modules. -/
def ofModules (modules : List Module) : Except Failure Registry :=
  empty.addAll modules

end Additions

end Registry

end Pruning
