import Pruning.Reexport
import Pruning.Script
import Pruning.Unused

/-!
Redundant declarations among the used ones. A package is absorbed by the used module that its import
names as provider. A required module is contracted when another used module makes it visible, directly
or through others. Two modules that re-export each other are both contracted.
-/

namespace Pruning

/-- Used required modules by id, in the order of their declarations. -/
abbrev UsedModules := Fields ModuleImport

/-- Whether a package comes from a used module. -/
def PackageImport.isAbsorbed (used : UsedModules) (package : PackageImport) : Bool :=
  match package.provider with
  | some provider => Fields.has provider used
  | none => false

/-- The packages that come from used modules. -/
def absorbed (used : UsedModules) (packages : List PackageImport) : List PackageImport :=
  packages.filter (PackageImport.isAbsorbed used)

/-- Finds the absorbed packages, with a record for each. -/
def absorb (used : UsedModules) (packages : List PackageImport) : Script (List PackageImport) := do
  for package in absorbed used packages do
    let provider := package.provider.getD ""
    .note .debug .minimizer s!"Package {package.name} is provided by used module {provider}"
  return absorbed used packages

/-- One step of a contraction: a module, the ids that it re-exports, the used modules that are dropped
because of that, and those that are left then. -/
structure Expansion where
  id : String
  targets : List String
  dropped : List ModuleImport
  left : UsedModules
  deriving DecidableEq, Repr

namespace ReexportGraph

/-- Drops the ids of a list from the used modules: the imports that are dropped, and those left. -/
def drop (used : UsedModules) : List String → List ModuleImport × UsedModules
  | [] => ([], used)
  | id :: rest =>
    match Fields.get? id used with
    | none => drop used rest
    | some required =>
      let (dropped, left) := drop (Fields.erase id used) rest
      (required :: dropped, left)

/-- Expands the ids of a stack, the top first: every id is expanded once, drops the used modules it
re-exports, and puts what it re-exports on the stack. -/
def expandFrom (graph : ReexportGraph) (visited : List String) (used : UsedModules) :
    List String → List Expansion
  | [] => []
  | id :: rest =>
    if id ∈ visited then expandFrom graph visited used rest
    else
      let (dropped, left) := drop used (graph.successors id)
      ⟨id, graph.successors id, dropped, left⟩ ::
        expandFrom graph (id :: visited) left ((graph.successors id).reverse ++ rest)
termination_by stack => (graph.unvisited visited, stack.length)
decreasing_by
  · exact Prod.Lex.right _ (by simp)
  · rename_i isNew
    by_cases hasEdges : graph.successors id = []
    · rw [hasEdges]
      rcases Nat.lt_or_eq_of_le (unvisited_cons_le graph visited id) with less | same
      · exact Prod.Lex.left _ _ less
      · rw [same]
        exact Prod.Lex.right _ (by simp)
    · exact Prod.Lex.left _ _ (unvisited_cons_lt graph visited id isNew hasEdges)

/-- The steps that contract the used modules. The one declared last is expanded first. -/
def expansions (graph : ReexportGraph) (used : UsedModules) : List Expansion :=
  graph.expandFrom [] used (Fields.keys used).reverse

/-- The used modules that steps have left of those there were at the start. -/
def leftBy (used : UsedModules) (steps : List Expansion) : UsedModules :=
  (steps.getLast?.map Expansion.left).getD used

end ReexportGraph

/-- One step of a contraction as a script: the question whether to go on, and a record for each module
that is dropped. -/
def Expansion.script (moduleId : Option String) (step : Expansion) : Script Unit := do
  .event (.poll moduleId)
  for required in step.dropped do
    .note .debug .minimizer s!"Module {required.id} is re-exported by {step.id}"

/-- Contracts the used modules: those that are dropped, in the order they are found, and those that are
left. -/
def contract (used : UsedModules) (graph : ReexportGraph) (moduleId : Option String) :
    Script (List ModuleImport × UsedModules) := do
  let steps := graph.expansions used
  for step in steps do
    step.script moduleId
  return (steps.flatMap Expansion.dropped, ReexportGraph.leftBy used steps)

/-- Finds the redundant declarations, and the used modules that are left without them. Packages are
absorbed before modules are contracted. -/
def minimize (used : UsedModules) (packages : List PackageImport) (graph : ReexportGraph)
    (moduleId : Option String) : Script (List Entry × UsedModules) := do
  let absorbed ← absorb used packages
  let (contracted, left) ← contract used graph moduleId
  return (absorbed.map Entry.packageImport ++ contracted.map Entry.requirement, left)

end Pruning
