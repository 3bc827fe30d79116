import Mathlib.Data.List.Perm.Basic
import Pruning.Proofs.Analysis.Classification

/-!
# What a contraction leaves

A contraction divides the used modules in two: those that some used module reaches by one or more
re-export edges (`Redundant`) are dropped, the others stay as they are and where they are. The steps of
the loop take the modules out one by one while it walks from the same map, so each step is first told as
a filter (`left_drop`, `perm_drop`), and the filters of all steps are put together along the walk
(`leftBy_expandFrom`, `perm_dropped_expandFrom`). Which ids the steps mention is a question about paths
only (`mem_targets_expansions`), and that is why no order matters in the end.

Where no module re-exports itself, every used module can still be reached from one that is left.
-/

namespace Pruning

open Relation

namespace Fields

variable {α : Type} {key : String} {value : α} {fields : Fields α}

theorem ne_of_missing {entry : String × α} (missing : get? key fields = none)
    (held : entry ∈ fields) : entry.1 ≠ key :=
  fun same => get?_eq_none_iff.mp missing (same ▸ List.mem_map_of_mem held)

/-- The one entry of a key stands before all the others, up to order. -/
theorem perm_cons_erase (distinct : (keys fields).Nodup) (found : get? key fields = some value) :
    fields.Perm ((key, value) :: erase key fields) := by
  induction fields with
  | nil => cases found
  | cons entry rest ih =>
    rw [keys, List.map_cons, List.nodup_cons] at distinct
    rw [get?_cons] at found
    by_cases same : entry.1 = key
    · rw [if_pos same] at found
      cases found
      subst same
      rw [erase_cons, if_pos rfl, erase_of_not_mem distinct.1]
    · rw [if_neg same] at found
      rw [erase_cons, if_neg same]
      exact ((ih distinct.2 found).cons entry).trans (.swap _ _ _)

theorem nodup_filter (distinct : (keys fields).Nodup) (keeps : String × α → Bool) :
    (keys (fields.filter keeps)).Nodup :=
  distinct.sublist (List.filter_sublist.map Prod.fst)

end Fields

namespace ReexportGraph

variable {graph : ReexportGraph} {used : UsedModules} {ids : List String} {id : String}

/-! ## One step -/

/-- What a step leaves: the entries of other ids, in their order. -/
theorem left_drop (used : UsedModules) (ids : List String) :
    (drop used ids).2 = used.filter fun entry => entry.1 ∉ ids := by
  induction ids generalizing used with
  | nil => simp [drop]
  | cons first rest ih =>
    rw [drop]
    split
    case h_1 missing =>
      rw [ih]
      refine List.filter_congr fun entry held => ?_
      simp [Fields.ne_of_missing missing held]
    case h_2 =>
      dsimp only
      rw [ih, Fields.erase, List.filter_filter]
      refine List.filter_congr fun entry _ => ?_
      simp [Bool.and_comm]

/-- What a step drops: the imports of its ids, each as often as it is there. -/
theorem perm_drop (distinct : (Fields.keys used).Nodup) (ids : List String) :
    (drop used ids).1.Perm ((used.filter fun entry => entry.1 ∈ ids).map Prod.snd) := by
  induction ids generalizing used with
  | nil => simp [drop]
  | cons first rest ih =>
    rw [drop]
    split
    case h_1 missing =>
      have same : used.filter (fun entry => entry.1 ∈ first :: rest) =
          used.filter fun entry => entry.1 ∈ rest := by
        refine List.filter_congr fun entry held => ?_
        simp [Fields.ne_of_missing missing held]
      rw [same]
      exact ih distinct
    case h_2 required found =>
      have others : (Fields.erase first used).filter (fun entry => entry.1 ∈ first :: rest) =
          (Fields.erase first used).filter fun entry => entry.1 ∈ rest := by
        refine List.filter_congr fun entry held => ?_
        have apart : entry.1 ≠ first := by simpa using (List.mem_filter.mp held).2
        simp [apart]
      have divided := ((Fields.perm_cons_erase distinct found).filter
        fun entry => decide (entry.1 ∈ first :: rest)).map Prod.snd
      rw [List.filter_cons_of_pos (by simp), others, List.map_cons] at divided
      exact ((ih (Fields.nodup_filter distinct _)).cons required).trans divided.symm

/-! ## All steps -/

/-- What a first step leaves is what the later steps start from. -/
theorem leftBy_cons (used : UsedModules) (step : Expansion) (steps : List Expansion) :
    leftBy used (step :: steps) = leftBy step.left steps := by
  cases steps with
  | nil => rfl
  | cons next rest => simp [leftBy, List.getLast?_cons]

/-- The entries of the ids that the steps re-export are gone, and the others are as they were. -/
theorem leftBy_expandFrom (visited : List String) (used : UsedModules) (stack : List String) :
    leftBy used (graph.expandFrom visited used stack) =
      used.filter fun entry =>
        entry.1 ∉ (graph.expandFrom visited used stack).flatMap Expansion.targets := by
  fun_induction expandFrom graph visited used stack with
  | case1 => simp [leftBy]
  | case2 visited used first rest before ih => exact ih
  | case3 visited used first rest isNew dropped left dropping ih =>
    have isLeft : left = used.filter fun entry => entry.1 ∉ graph.successors first := by
      rw [← left_drop, dropping]
    rw [leftBy_cons, ih, List.flatMap_cons]
    generalize (graph.expandFrom (first :: visited) left
      ((graph.successors first).reverse ++ rest)).flatMap Expansion.targets = targets
    rw [isLeft, List.filter_filter]
    refine List.filter_congr fun entry _ => ?_
    simp [Bool.and_comm]

/-- The imports of the ids that the steps re-export are dropped, each as often as it is there. -/
theorem perm_dropped_expandFrom (distinct : (Fields.keys used).Nodup)
    (visited stack : List String) :
    ((graph.expandFrom visited used stack).flatMap Expansion.dropped).Perm
      ((used.filter fun entry =>
        entry.1 ∈ (graph.expandFrom visited used stack).flatMap Expansion.targets).map Prod.snd) := by
  fun_induction expandFrom graph visited used stack with
  | case1 => simp
  | case2 visited used first rest before ih => exact ih distinct
  | case3 visited used first rest isNew dropped left dropping ih =>
    have here : dropped.Perm
        ((used.filter fun entry => entry.1 ∈ graph.successors first).map Prod.snd) := by
      have dropped := perm_drop distinct (graph.successors first)
      rwa [dropping] at dropped
    have isLeft : left = used.filter fun entry => entry.1 ∉ graph.successors first := by
      rw [← left_drop, dropping]
    have later := ih (isLeft ▸ Fields.nodup_filter distinct _)
    -- What is dropped is dropped by this step, or left by it and dropped by a later one.
    let targets := (graph.expandFrom (first :: visited) left
      ((graph.successors first).reverse ++ rest)).flatMap Expansion.targets
    let wanted (entry : String × ModuleImport) : Bool :=
      entry.1 ∈ graph.successors first ++ targets
    have divided := List.filter_append_perm (fun entry => entry.1 ∈ graph.successors first)
      (used.filter wanted)
    have atOnce : (used.filter wanted).filter (fun entry => entry.1 ∈ graph.successors first) =
        used.filter fun entry => entry.1 ∈ graph.successors first := by
      rw [List.filter_filter]
      refine List.filter_congr fun entry _ => ?_
      by_cases held : entry.1 ∈ graph.successors first <;> simp [wanted, held]
    have afterwards : (used.filter wanted).filter
        (fun entry => !decide (entry.1 ∈ graph.successors first)) =
        left.filter fun entry => entry.1 ∈ targets := by
      rw [isLeft, List.filter_filter, List.filter_filter]
      refine List.filter_congr fun entry _ => ?_
      by_cases held : entry.1 ∈ graph.successors first <;> simp [wanted, held]
    rw [atOnce, afterwards] at divided
    rw [List.flatMap_cons, List.flatMap_cons]
    exact (here.append later).trans ((List.map_append ▸ divided.map Prod.snd))

/-- A module that is redundant among the used ones: one of them reaches it by one or more re-export
edges. -/
def Redundant (graph : ReexportGraph) (used : UsedModules) (id : String) : Prop :=
  ∃ start ∈ Fields.keys used, TransGen graph.Edge start id

theorem redundant_iff : graph.Redundant used id ↔
    ∃ start ∈ Fields.keys used, ∃ target ∈ graph.successors start, id ∈ graph.closure target := by
  simp only [Redundant, mem_closure_iff, TransGen.head'_iff]
  rfl

instance (graph : ReexportGraph) (used : UsedModules) : DecidablePred (graph.Redundant used) :=
  fun _ => decidable_of_iff _ redundant_iff.symm

theorem targets_expandFrom {visited stack : List String} {step : Expansion}
    (taken : step ∈ graph.expandFrom visited used stack) :
    step.targets = graph.successors step.id := by
  fun_induction expandFrom graph visited used stack with
  | case1 => cases taken
  | case2 visited used first rest before ih => exact ih taken
  | case3 visited used first rest isNew dropped left dropping ih =>
    rcases List.mem_cons.mp taken with rfl | later
    · rfl
    · exact ih later

/-- The steps of a contraction mention what is reached from used modules by one or more edges. -/
theorem mem_targets_expansions :
    id ∈ (graph.expansions used).flatMap Expansion.targets ↔ graph.Redundant used id := by
  rw [List.mem_flatMap]
  constructor
  · rintro ⟨step, taken, mentioned⟩
    rw [targets_expandFrom taken] at mentioned
    obtain ⟨start, member, path⟩ := (mem_expansions_iff graph).mp (List.mem_map_of_mem taken)
    exact ⟨start, member, .tail' path mentioned⟩
  · rintro ⟨start, member, path⟩
    obtain ⟨source, path, edge⟩ := TransGen.tail'_iff.mp path
    obtain ⟨step, taken, rfl⟩ :=
      List.mem_map.mp ((mem_expansions_iff graph).mpr ⟨start, member, path⟩)
    exact ⟨step, taken, by rwa [targets_expandFrom taken]⟩

/-- A contraction leaves the modules that are not redundant, as they are and in their order. -/
theorem kept_eq (graph : ReexportGraph) (used : UsedModules) :
    graph.kept used = used.filter fun entry => ¬ graph.Redundant used entry.1 := by
  rw [kept, expansions, leftBy_expandFrom]
  refine List.filter_congr fun entry _ => ?_
  rw [decide_eq_decide]
  exact not_congr mem_targets_expansions

/-- A contraction drops the imports of the redundant modules, each as often as it is there. -/
theorem perm_contracted (distinct : (Fields.keys used).Nodup) :
    (graph.contracted used).Perm
      ((used.filter fun entry => graph.Redundant used entry.1).map Prod.snd) := by
  have same : used.filter (fun entry => decide (graph.Redundant used entry.1)) =
      used.filter fun entry => entry.1 ∈ (graph.expansions used).flatMap Expansion.targets := by
    refine List.filter_congr fun entry _ => ?_
    rw [decide_eq_decide]
    exact mem_targets_expansions.symm
  rw [same]
  exact perm_dropped_expandFrom distinct [] _

/-- Neither the order of the used modules nor that of the edges decides what is redundant. -/
theorem redundant_congr {graph' : ReexportGraph} {used' : UsedModules} (sameModules : used'.Perm used)
    (sameEdges : ∀ a b, graph'.Edge a b ↔ graph.Edge a b) :
    graph'.Redundant used' id ↔ graph.Redundant used id := by
  have edges : graph'.Edge = graph.Edge := by
    funext a b
    exact propext (sameEdges a b)
  have keys (start : String) : start ∈ Fields.keys used' ↔ start ∈ Fields.keys used :=
    (sameModules.map Prod.fst).mem_iff
  simp only [Redundant, edges, keys]

/-! ## What becomes of the used modules -/

/-- A contraction that is not cancelled drops exactly the redundant modules, each once, and leaves the
others as they are and in their order. The order of the used modules and that of the edges decide at most
in which order the imports are dropped. -/
theorem play_contract_effect {owner : Option String} {monitor : Monitor}
    (distinct : (Fields.keys used).Nodup)
    (uncancelled : ¬ monitor.Cancels (contract used graph owner)) :
    ∃ dropped left,
      (monitor.play (contract used graph owner)).1.outcome = .ok (dropped, left) ∧
      dropped.Perm ((used.filter fun entry => graph.Redundant used entry.1).map Prod.snd) ∧
      left = (used.filter fun entry => ¬ graph.Redundant used entry.1) ∧
      ∀ (used' : UsedModules) (graph' : ReexportGraph) (owner' : Option String),
        used'.Perm used → (∀ a b, graph'.Edge a b ↔ graph.Edge a b) →
          ∃ dropped' left', (contract used' graph' owner').outcome = .ok (dropped', left') ∧
            dropped'.Perm dropped ∧ left'.Perm left := by
  refine ⟨graph.contracted used, graph.kept used, ?_, perm_contracted distinct, kept_eq graph used, ?_⟩
  · rw [Monitor.play_eq_of_not_cancels uncancelled, contract_outcome]
  intro used' graph' owner' sameModules sameEdges
  have distinct' : (Fields.keys used').Nodup :=
    (sameModules.map Prod.fst).nodup_iff.mpr distinct
  have same (entry : String × ModuleImport) :
      decide (graph'.Redundant used' entry.1) = decide (graph.Redundant used entry.1) :=
    decide_eq_decide.mpr (redundant_congr sameModules sameEdges)
  refine ⟨graph'.contracted used', graph'.kept used', contract_outcome used' graph' owner', ?_, ?_⟩
  · refine (perm_contracted distinct').trans (.trans ?_ (perm_contracted distinct).symm)
    simp only [same]
    exact (sameModules.filter _).map Prod.snd
  · rw [kept_eq, kept_eq]
    simp only [decide_not, same]
    exact sameModules.filter _

/-- Two modules that re-export each other. One of them also re-exports itself, the other one twice, and a
module that nobody has. -/
def knot : ReexportGraph :=
  ⟨[("left", ["left", "right", "right", "missing"]), ("right", ["left"])]⟩

/-- Requirements of both modules of the knot, and of one apart from them. -/
def knotted : UsedModules :=
  [("left", .plain ⟨0, 0⟩ "left" false), ("apart", .plain ⟨0, 1⟩ "apart" false),
    ("right", .plain ⟨0, 2⟩ "right" false)]

/-- Both modules of the knot are dropped. -/
theorem play_contract_effect_knot :
    (Fields.keys knotted).Nodup ∧ ¬ Monitor.silent.Cancels (contract knotted knot none) ∧
      ∃ dropped left,
        (Monitor.silent.play (contract knotted knot none)).1.outcome = .ok (dropped, left) ∧
        dropped.Perm [.plain ⟨0, 0⟩ "left" false, .plain ⟨0, 2⟩ "right" false] ∧
        left = [("apart", .plain ⟨0, 1⟩ "apart" false)] := by
  have distinct : (Fields.keys knotted).Nodup := by decide
  have uncancelled : ¬ Monitor.silent.Cancels (contract knotted knot none) :=
    Monitor.idle_silent.not_cancels (contract_outcome knotted knot none)
  obtain ⟨dropped, left, outcome, redundant, others, -⟩ := play_contract_effect distinct uncancelled
  refine ⟨distinct, uncancelled, dropped, left, outcome, ?_, others.trans (by cbv)⟩
  have both : (knotted.filter fun entry => knot.Redundant knotted entry.1).map Prod.snd =
      [.plain ⟨0, 0⟩ "left" false, .plain ⟨0, 2⟩ "right" false] := by cbv
  rwa [both] at redundant

/-! ## Graphs without cycles -/

/-- A graph whose edges all lead downwards has no cycle. -/
theorem acyclic_of_descends (height : String → Nat)
    (descends : ∀ a b, graph.Edge a b → height b < height a) : graph.Acyclic := by
  intro id cycle
  have falls {a b : String} (path : TransGen graph.Edge a b) : height b < height a := by
    induction path with
    | single edge => exact descends _ _ edge
    | tail _ edge ih => exact (descends _ _ edge).trans ih
  exact lt_irrefl _ (falls cycle)

/-- Where no module re-exports itself, a contraction that is not cancelled loses no module: each of the
used ones is reached by zero or more edges from one that is left. -/
theorem reached_from_remaining {owner : Option String} {monitor : Monitor} (acyclic : graph.Acyclic)
    (uncancelled : ¬ monitor.Cancels (contract used graph owner)) :
    ∃ dropped left,
      (monitor.play (contract used graph owner)).1.outcome = .ok (dropped, left) ∧
      ∀ id ∈ Fields.keys used, ∃ start ∈ Fields.keys left, ReflTransGen graph.Edge start id := by
  refine ⟨graph.contracted used, graph.kept used, ?_, ?_⟩
  · rw [Monitor.play_eq_of_not_cancels uncancelled, contract_outcome]
  intro id member
  obtain ⟨start, isUsed, path, highest⟩ := exists_start acyclic member
  refine ⟨start, ?_, path⟩
  obtain ⟨entry, held, rfl⟩ := List.mem_map.mp isUsed
  have needed : ¬ graph.Redundant used entry.1 :=
    fun ⟨other, among, above⟩ => highest other among above
  rw [kept_eq]
  exact List.mem_map_of_mem (List.mem_filter.mpr ⟨held, decide_eq_true needed⟩)

/-- A portal above two modules that both re-export a library. -/
def diamond : ReexportGraph :=
  ⟨[("portal", ["left", "right"]), ("left", ["library"]), ("right", ["library", "missing"])]⟩

theorem acyclic_diamond : diamond.Acyclic := by
  let height (id : String) : Nat :=
    if id = "portal" then 2 else if id = "left" ∨ id = "right" then 1 else 0
  refine acyclic_of_descends height fun a b edge => ?_
  have edges : ∀ entry ∈ diamond.edges, ∀ target ∈ entry.2, height target < height entry.1 := by
    decide
  obtain ⟨targets, held, member⟩ : ∃ targets, (a, targets) ∈ diamond.edges ∧ b ∈ targets := by
    cases found : Fields.get? a diamond.edges with
    | none => rw [Edge, successors, found] at edge; cases edge
    | some targets => exact ⟨targets, Fields.mem_of_get? found, by rwa [Edge, successors, found] at edge⟩
  exact edges _ held b member

/-- Requirements of all modules of the diamond. -/
def faceted : UsedModules :=
  ["library", "left", "portal", "right"].map fun id => (id, .plain ⟨0, 0⟩ id false)

/-- The library is dropped and so are both modules above it, but not the portal. -/
theorem reached_from_remaining_diamond :
    diamond.Acyclic ∧ ¬ Monitor.silent.Cancels (contract faceted diamond none) ∧
      ∃ dropped left,
        (Monitor.silent.play (contract faceted diamond none)).1.outcome = .ok (dropped, left) ∧
        Fields.keys left = ["portal"] ∧ ReflTransGen diamond.Edge "portal" "library" := by
  have uncancelled : ¬ Monitor.silent.Cancels (contract faceted diamond none) :=
    Monitor.idle_silent.not_cancels (contract_outcome faceted diamond none)
  obtain ⟨dropped, left, outcome, reached⟩ := reached_from_remaining acyclic_diamond uncancelled
  have isKept : left = diamond.kept faceted := by
    rw [Monitor.play_eq_of_not_cancels uncancelled, contract_outcome] at outcome
    cases outcome
    rfl
  have portal : Fields.keys left = ["portal"] := by
    rw [isKept]
    cbv
  obtain ⟨start, isLeft, path⟩ := reached "library" (by decide)
  rw [portal] at isLeft
  obtain rfl := List.mem_singleton.mp isLeft
  exact ⟨acyclic_diamond, uncancelled, dropped, left, outcome, portal, path⟩

end ReexportGraph

end Pruning
