import Pruning.Minimization
import Pruning.Oracle
import Pruning.Policy
import Pruning.Progress
import Pruning.Visibility

/-!
The analysis of one module: which of its declared dependencies can be removed. Required modules and
imported packages are classified as used or unused, redundant declarations among the used ones are added
to the unused, and those that a policy keeps are taken out again.
-/

namespace Pruning

/-- What an analysis finds. -/
structure Findings where
  moduleId : String
  /-- The declarations that can be removed, in the order they were found. -/
  unused : List Entry
  usedPackages : PackageSet
  /-- How many declarations were classified. -/
  declared : Nat
  deriving DecidableEq, Repr

namespace Findings

/-- The findings for a manifest that declares no module. -/
def none : Findings :=
  ⟨"", [], [], 0⟩

/-- Whether anything can be removed. -/
def hasUnused (findings : Findings) : Bool :=
  !findings.unused.isEmpty

/-- The findings in one sentence. -/
def summary (findings : Findings) : String :=
  let count := findings.unused.length
  let noun := if count = 1 then "dependency" else "dependencies"
  s!"{findings.moduleId}: {count} unused {noun} out of {findings.declared} declared"

/-- The findings as JSON. -/
def json (findings : Findings) : Json :=
  .object [("module", .text findings.moduleId), ("declared", .int findings.declared),
    ("unused", .list (findings.unused.map Entry.json))]

end Findings

namespace Analysis

/-- The units of work of a required module. A package takes one. -/
def requirementWork : Nat := 3

/-- How a failure of an oracle is told. A cancellation and an oracle's own fault stay as they are, an
interrupt cancels the analysis. -/
def oracleFailure (moduleId : String) : Failure → Failure
  | .cancelled message owner => .cancelled message owner
  | .oracle fault => .oracle fault
  | .interrupted => .cancelled Failure.cancelMessage (some moduleId)
  | failure => .oracle (.failed moduleId failure.text)

/-- Declarations classified so far. -/
structure Classified where
  unused : List Entry
  usedModules : UsedModules
  usedPackages : List PackageImport

/-- Asks whether to go on. -/
def poll (m : Module) : Script Unit :=
  .event (.poll (some m.id))

/-- Tells how many entries have been found. -/
def tellCount (unused : List Entry) : Script Unit :=
  .event (.task (countMessage unused.length))

/-- Classifies required modules. Of several used declarations of one id the last is kept in mind. -/
def classifyRequires (m : Module) (used : PackageSet) (registry : Registry) (graph : ReexportGraph)
    (classified : Classified) : List ModuleImport → Script Classified
  | [] => .answer classified
  | required :: rest => do
    poll m
    let isUnused ← .ofOutcome (required.isUnused used registry graph)
    let classified :=
      if isUnused then { classified with unused := classified.unused ++ [.requirement required] }
      else
        { classified with usedModules := Fields.put required.id required classified.usedModules }
    .event (.worked requirementWork)
    tellCount classified.unused
    classifyRequires m used registry graph classified rest

/-- Classifies imported packages. -/
def classifyPackages (m : Module) (exported : List String) (used : PackageSet)
    (classified : Classified) : List PackageImport → Script Classified
  | [] => .answer classified
  | package :: rest => do
    poll m
    let classified ←
      if package.isUnused exported used then do
        let unused := classified.unused ++ [.packageImport package]
        tellCount unused
        pure { classified with unused }
      else pure { classified with usedPackages := classified.usedPackages ++ [package] }
    .event (.worked 1)
    classifyPackages m exported used classified rest

/-- Finds the entries of a module whose used packages are known. -/
def search (m : Module) (registry : Registry) (used : PackageSet) : Script (List Entry) := do
  let packages := m.packageImports
  .event (.start (m.requires.length * requirementWork + packages.length + 1) (countMessage 0))
  let graph := ReexportGraph.ofRegistry registry
  let exported ← .ofOutcome m.exports
  let classified ← classifyRequires m used registry graph ⟨[], [], []⟩ m.requires
  let classified ← classifyPackages m exported used classified packages
  poll m
  let (redundant, _) ← minimize classified.usedModules classified.usedPackages graph (some m.id)
  let unused := classified.unused ++ redundant
  .event (.worked 1)
  tellCount unused
  let unused ← keepBuddies m unused
  keepReexported unused

/-- Analyses a module. A manifest without a module id has nothing to find. -/
def run (m : Module) (registry : Registry) (oracle : Oracle) : Script Findings := do
  if !m.hasId then
    .note .info .analyzer "Manifest has no module id; nothing to analyze"
    return .none
  poll m
  let used ← (oracle.consult m).mapFailure (oracleFailure m.id)
  .note .debug .analyzer s!"{m.id} references {used.length} package(s)"
  let unused ← search m registry used
  let findings : Findings := ⟨m.id, unused, used, m.requires.length + m.packageImports.length⟩
  .note .info .analyzer findings.summary
  return findings

end Analysis

end Pruning
