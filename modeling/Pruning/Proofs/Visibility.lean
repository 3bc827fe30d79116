import Mathlib
import Pruning.Proofs.Fields
import Pruning.Proofs.Reexport.Traversal
import Pruning.Visibility

/-!
# What requirements make visible

A requirement of `id` shows every registered version of `id`, and the resolved module of each id that
`id` reaches in the re-export graph (`mem_visible_iff`). Along an edge of the graph all of this is
inherited but the versions that are registered beside the resolved one (`Registry.mem_visible_of_edge`);
where no id has two versions, whatever is shown is inherited along whole paths
(`Registry.Shows.of_path`).
-/

namespace Pruning

open Relation

/-- A requirement without parameters. -/
def ModuleImport.plain (mark : Mark) (id : String) (reexported : Bool) : ModuleImport :=
  ⟨mark, id, reexported, false, [], []⟩

namespace Module

/-- What the module exports can be told: its export header, if it has one, is well formed. -/
def Readable (m : Module) : Prop :=
  ∃ names, m.exports = .ok names

/-- The packages that a module exports; none when they cannot be told. -/
def exported (m : Module) : List String :=
  match m.exports with
  | .ok names => names
  | .error _ => []

theorem exported_eq {m : Module} {names : List String} (told : m.exports = .ok names) :
    m.exported = names := by
  rw [exported, told]

/-- A descriptor without headers, whose exports are known from its compiled code. -/
def plain (mark : Nat) (id version : String) (requires : List ModuleImport)
    (exports : List String) : Module :=
  ⟨mark, id, version, requires, none, [], some exports, none, "\n"⟩

@[simp]
theorem plain_id {mark : Nat} {id version : String} {requires : List ModuleImport}
    {exports : List String} : (plain mark id version requires exports).id = id :=
  rfl

end Module

namespace Registry

/-- A mark is the identity of a descriptor: no two registered descriptors share one. -/
def Identified (registry : Registry) : Prop :=
  ∀ m ∈ registry.modules, ∀ other ∈ registry.modules, m.mark = other.mark → m = other

/-- The exports of every registered module can be told. -/
def Readable (registry : Registry) : Prop :=
  ∀ m ∈ registry.modules, m.Readable

/-- A requirement of `id` makes the package visible. -/
def Shows (registry : Registry) (id package : String) : Prop :=
  ∃ m ∈ registry.visible (.ofRegistry registry) id, package ∈ m.exported

variable {registry : Registry} {graph : ReexportGraph} {id a b : String} {m : Module}

theorem readable_of_metadata
    (told : ∀ m ∈ registry.modules, m.exports = .ok (m.metadataExports.getD [])) :
    registry.Readable :=
  fun m registered => ⟨_, told m registered⟩

/-! ## The visible modules -/

theorem mem_modules_of_candidates (candidate : m ∈ registry.candidates id) :
    m ∈ registry.modules := by
  rw [candidates] at candidate
  cases found : Fields.get? id registry.entries with
  | none =>
    rw [found] at candidate
    cases candidate
  | some versions =>
    rw [found] at candidate
    exact List.mem_flatMap.mpr ⟨_, Fields.mem_of_get? found, candidate⟩

theorem mem_candidates_of_resolve (resolved : registry.resolve id = some m) :
    m ∈ registry.candidates id :=
  List.mem_of_mem_head? resolved

theorem mem_of_distinct {seen : List Nat} {modules : List Module}
    (member : m ∈ distinct seen modules) : m ∈ modules := by
  induction modules generalizing seen with
  | nil => cases member
  | cons first rest ih =>
    rw [distinct] at member
    split at member
    case isTrue => exact List.mem_cons_of_mem _ (ih member)
    case isFalse =>
      rcases List.mem_cons.mp member with rfl | later
      · exact List.mem_cons_self
      · exact List.mem_cons_of_mem _ (ih later)

theorem mem_distinct_of_mem {seen : List Nat} {modules : List Module}
    (identified : ∀ other ∈ modules, m.mark = other.mark → m = other)
    (member : m ∈ modules) (isNew : m.mark ∉ seen) : m ∈ distinct seen modules := by
  induction modules generalizing seen with
  | nil => cases member
  | cons first rest ih =>
    have identifiedRest : ∀ other ∈ rest, m.mark = other.mark → m = other :=
      fun other later => identified other (List.mem_cons_of_mem _ later)
    rw [distinct]
    by_cases same : m.mark = first.mark
    · have isFirst : m = first := identified first List.mem_cons_self same
      rw [if_neg (same ▸ isNew), isFirst]
      exact List.mem_cons_self
    · have isRest : m ∈ rest :=
        (List.mem_cons.mp member).resolve_left fun isFirst => same (congrArg Module.mark isFirst)
      split
      case isTrue => exact ih identifiedRest isRest isNew
      case isFalse =>
        exact List.mem_cons_of_mem _ (ih identifiedRest isRest (by simp [same, isNew]))

/-- The modules that are looked up for the ids that `id` reaches, before those met twice are dropped. -/
def lookedUp (registry : Registry) (graph : ReexportGraph) (id : String) : List Module :=
  (graph.closure id).flatMap fun reached =>
    if reached = id then registry.candidates id else (registry.resolve reached).toList

theorem mem_lookedUp_iff :
    m ∈ registry.lookedUp graph id ↔
      m ∈ registry.candidates id ∨
        ∃ reached, reached ≠ id ∧ ReflTransGen graph.Edge id reached ∧
          registry.resolve reached = some m := by
  rw [lookedUp, List.mem_flatMap]
  constructor
  · rintro ⟨reached, member, found⟩
    split at found
    case isTrue => exact Or.inl found
    case isFalse other =>
      exact Or.inr ⟨reached, other, graph.mem_closure_iff.mp member, Option.mem_toList.mp found⟩
  · rintro (candidate | ⟨reached, other, path, resolved⟩)
    · exact ⟨id, graph.mem_closure_iff.mpr .refl, by rwa [if_pos rfl]⟩
    · exact ⟨reached, graph.mem_closure_iff.mpr path,
        by rw [if_neg other]; exact Option.mem_toList.mpr resolved⟩

theorem mem_modules_of_lookedUp (found : m ∈ registry.lookedUp graph id) :
    m ∈ registry.modules := by
  rcases mem_lookedUp_iff.mp found with candidate | ⟨_, _, _, resolved⟩
  · exact mem_modules_of_candidates candidate
  · exact mem_modules_of_candidates (mem_candidates_of_resolve resolved)

theorem mem_modules_of_visible (shown : m ∈ registry.visible graph id) :
    m ∈ registry.modules :=
  mem_modules_of_lookedUp (mem_of_distinct shown)

/-- A requirement shows every version of what it names, and the resolved modules of what that
re-exports. -/
theorem mem_visible_iff (identified : registry.Identified) :
    m ∈ registry.visible graph id ↔
      m ∈ registry.candidates id ∨
        ∃ reached, reached ≠ id ∧ ReflTransGen graph.Edge id reached ∧
          registry.resolve reached = some m := by
  rw [← mem_lookedUp_iff]
  constructor
  · exact mem_of_distinct
  · intro member
    refine mem_distinct_of_mem (fun other found => ?_) member (by simp)
    exact identified m (mem_modules_of_lookedUp member) other (mem_modules_of_lookedUp found)

/-! ## Inheritance along re-exports -/

/-- What `b` shows, `a` shows when it re-exports `b`: only the versions of `b` beside the resolved one
are left out. -/
theorem mem_visible_of_edge (identified : registry.Identified) (edge : graph.Edge a b)
    (shown : m ∈ registry.visible graph b)
    (highest : m ∈ registry.candidates b → registry.resolve b = some m) :
    m ∈ registry.visible graph a := by
  have throughResolved : ∀ reached, ReflTransGen graph.Edge b reached →
      registry.resolve reached = some m → m ∈ registry.visible graph a := by
    intro reached path resolved
    rw [mem_visible_iff identified]
    by_cases back : reached = a
    · exact Or.inl (mem_candidates_of_resolve (back ▸ resolved))
    · exact Or.inr ⟨reached, back, .head edge path, resolved⟩
  rcases (mem_visible_iff identified).mp shown with candidate | ⟨reached, _, path, resolved⟩
  · exact throughResolved b .refl (highest candidate)
  · exact throughResolved reached path resolved

/-- Requiring a re-exporter makes every package visible that some module visible through the re-exported
requirement exports, unless that module is a version registered beside the resolved one. -/
theorem shows_of_edge (identified : registry.Identified)
    (edge : (ReexportGraph.ofRegistry registry).Edge a b)
    (shown : m ∈ registry.visible (.ofRegistry registry) b)
    (highest : m ∈ registry.candidates b → registry.resolve b = some m)
    {package : String} (exports : package ∈ m.exported) : registry.Shows a package :=
  ⟨m, mem_visible_of_edge identified edge shown highest, exports⟩

/-- A facade that re-exports a library, and the library in two versions of which only the older one
exports `library.legacy`. -/
def facadeOfTwo : Registry :=
  ⟨[("facade", [.plain 0 "facade" "1.0" [.plain ⟨0, 0⟩ "library" true] []]),
    ("library", [.plain 2 "library" "2.0" [] ["library.api"],
      .plain 1 "library" "1.0" [] ["library.api", "library.legacy"]])]⟩

theorem identified_facadeOfTwo : facadeOfTwo.Identified := by
  unfold Identified
  decide

theorem readable_facadeOfTwo : facadeOfTwo.Readable :=
  readable_of_metadata (by decide)

theorem shows_of_edge_facade : facadeOfTwo.Identified ∧
    (ReexportGraph.ofRegistry facadeOfTwo).Edge "facade" "library" ∧
    facadeOfTwo.Shows "facade" "library.api" := by
  have edge : (ReexportGraph.ofRegistry facadeOfTwo).Edge "facade" "library" := by
    unfold ReexportGraph.Edge
    decide
  have shown : .plain 2 "library" "2.0" [] ["library.api"] ∈
      facadeOfTwo.visible (.ofRegistry facadeOfTwo) "library" :=
    (mem_visible_iff identified_facadeOfTwo).mpr (Or.inl (by decide))
  exact ⟨identified_facadeOfTwo, edge,
    shows_of_edge identified_facadeOfTwo edge shown (fun _ => rfl) (by decide)⟩

/-- Requiring a re-exporter shows whatever the re-exported requirement shows. -/
def Inherits (registry : Registry) : Prop :=
  ∀ a b package, (ReexportGraph.ofRegistry registry).Edge a b → registry.Shows b package →
    registry.Shows a package

/-- A version beside the resolved one is visible to those who require it directly, and to nobody
else. -/
theorem not_inherits_facadeOfTwo :
    facadeOfTwo.Identified ∧ facadeOfTwo.Readable ∧ ¬ facadeOfTwo.Inherits := by
  refine ⟨identified_facadeOfTwo, readable_facadeOfTwo, fun inherits => ?_⟩
  have edge : (ReexportGraph.ofRegistry facadeOfTwo).Edge "facade" "library" := by
    unfold ReexportGraph.Edge
    decide
  have direct : facadeOfTwo.Shows "library" "library.legacy" :=
    ⟨.plain 1 "library" "1.0" [] ["library.api", "library.legacy"],
      (mem_visible_iff identified_facadeOfTwo).mpr (Or.inl (by decide)), by decide⟩
  obtain ⟨m, shown, exports⟩ := inherits _ _ _ edge direct
  have visible : facadeOfTwo.visible (.ofRegistry facadeOfTwo) "facade" =
      [.plain 0 "facade" "1.0" [.plain ⟨0, 0⟩ "library" true] [],
        .plain 2 "library" "2.0" [] ["library.api"]] := by
    cbv
  rw [visible] at shown
  have hidden : ∀ m ∈ [Module.plain 0 "facade" "1.0" [.plain ⟨0, 0⟩ "library" true] [],
      .plain 2 "library" "2.0" [] ["library.api"]], "library.legacy" ∉ m.exported := by
    decide
  exact hidden m shown exports

/-- No id has two versions. -/
def SingleVersioned (registry : Registry) : Prop :=
  ∀ id, (registry.candidates id).length ≤ 1

theorem resolve_eq_of_mem_candidates (single : registry.SingleVersioned)
    (candidate : m ∈ registry.candidates id) : registry.resolve id = some m := by
  have atMostOne := single id
  rw [resolve]
  match found : registry.candidates id with
  | [] =>
    rw [found] at candidate
    cases candidate
  | [only] =>
    rw [found] at candidate
    rw [List.mem_singleton.mp candidate]
    rfl
  | _ :: _ :: _ =>
    rw [found] at atMostOne
    simp at atMostOne

/-- Without second versions, everything shown is inherited along a path of re-exports. -/
theorem Shows.of_path (identified : registry.Identified) (single : registry.SingleVersioned)
    {package : String} (shown : registry.Shows b package)
    (path : ReflTransGen (ReexportGraph.ofRegistry registry).Edge a b) :
    registry.Shows a package := by
  induction path using ReflTransGen.head_induction_on with
  | refl => exact shown
  | head edge _ ih =>
    obtain ⟨m, visible, exports⟩ := ih
    exact ⟨m, mem_visible_of_edge identified edge visible
      (resolve_eq_of_mem_candidates single), exports⟩

end Registry

end Pruning
