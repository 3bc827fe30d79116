import Pruning.PackageSet
import Pruning.Script
import Pruning.Module.Basic

/-!
Oracles: sources of the packages that the code of a module uses. An oracle is opened, asked, and closed
again on every way out.
-/

namespace Pruning

/-- A source of used packages. -/
structure Oracle where
  /-- Gets ready; the answer gives the used packages of a module. -/
  opening : Script (Module → Script PackageSet)
  closing : Script Unit

namespace Oracle

/-- The oracle that gives the same packages for every module. -/
def fixed (packages : PackageSet) : Oracle :=
  ⟨.answer fun _ => .answer packages, .answer ()⟩

/-- An oracle with fixed packages inside a message. -/
def describeFixed (packages : PackageSet) : String :=
  "StaticOracle(packages=" ++ Text.quotedList packages ++ ")"

/-- The oracle that gives fixed packages, or fails in one phase. -/
def failing (packages : PackageSet) (phase : Phase) (failure : Failure) : Oracle :=
  let computing := if phase = .computing then .fail failure else .answer packages
  { opening := if phase = .opening then .fail failure else .answer fun _ => computing
    closing := if phase = .closing then .fail failure else .answer () }

/-- Opens an oracle, asks it for a module, and closes it. A failure to close takes the place of the
answer. -/
def consult (oracle : Oracle) (m : Module) : Script PackageSet := do
  .event (.phase .opening)
  let packagesOf ← oracle.opening
  .event (.phase .computing)
  let packages := packagesOf m
  let closing : Script Unit := do
    .event (.phase .closing)
    oracle.closing
  ⟨packages.events ++ closing.events,
    match closing.outcome with
    | .error failure => .error failure
    | .ok () => packages.outcome⟩

end Oracle

end Pruning
