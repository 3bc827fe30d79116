import Pruning.Proofs.Analysis.Findings
import Pruning.Proofs.Patience

/-!
# When an analysis is cancelled

An analysis asks whether to go on before it consults the oracle, before each declaration it classifies,
before it minimizes, and before each expansion of a contraction. The number of expansions is that of
the ids reached from the requirements in use (`ReexportGraph.length_expansions`), so the number of all
questions is known before the run (`Analysis.questions_run`). A cancellation cuts the run at one of them
and leaves no result (`Analysis.run_cancelled_iff`).
-/

namespace Pruning

open Relation

/-! ## The questions of a minimization -/

namespace ReexportGraph

/-- A contraction expands each id once that it reaches from the used modules by zero or more edges. -/
theorem length_expansions (graph : ReexportGraph) (used : UsedModules) :
    (graph.expansions used).length =
      {id | ∃ start ∈ Fields.keys used, ReflTransGen graph.Edge start id}.ncard := by
  have once : ((graph.expansions used).map Expansion.id).Nodup :=
    (graph.expandFrom_traversal [] used _).nodup
  have reached : {id | ∃ start ∈ Fields.keys used, ReflTransGen graph.Edge start id} =
      (((graph.expansions used).map Expansion.id).toFinset : Set String) := by
    ext id
    rw [List.coe_toFinset, Set.mem_ofPred_eq, Set.mem_ofPred_eq, graph.mem_expansions_iff]
  rw [reached, Set.ncard_coe_finset, List.toFinset_card_of_nodup once, List.length_map]

end ReexportGraph

/-- Records ask nothing. -/
theorem Script.questions_noteEach {α β : Type} {items : List α} {severity : Severity}
    {channel : Channel} {text : α → String} {b : β} : (do
      for item in items do
        note severity channel (text item)
      return b : Script β).questions = 0 := by
  rw [questions_bind_of_ok _ (outcome_forIn_of_yield fun _ _ => rfl),
    questions_forIn_of_yield 0 (fun _ _ => rfl) fun _ _ => rfl]
  rfl

theorem questions_absorb (used : UsedModules) (packages : List PackageImport) :
    (absorb used packages).questions = 0 :=
  Script.questions_noteEach

theorem questions_script (owner : Option String) (step : Expansion) :
    (step.script owner).questions = 1 := by
  rw [Expansion.script, Script.questions_event_bind, Script.questions_noteEach]
  rfl

theorem questions_contract (used : UsedModules) (graph : ReexportGraph) (owner : Option String) :
    (contract used graph owner).questions = (graph.expansions used).length := by
  have goesOn (step : Expansion) := Script.outcome_bind_of_ok
    (fun _ => (pure (ForInStep.yield PUnit.unit) : Script (ForInStep PUnit)))
    (script_outcome owner step)
  have asks (step : Expansion) := Script.questions_bind_of_ok
    (fun _ => (pure (ForInStep.yield PUnit.unit) : Script (ForInStep PUnit)))
    (script_outcome owner step)
  simp only [questions_script, Script.questions_pure] at asks
  rw [contract, Script.questions_bind_of_ok _ (Script.outcome_forIn_of_yield fun step _ => goesOn step),
    Script.questions_forIn_of_yield 1 (fun step _ => goesOn step) fun step _ => asks step,
    Script.questions_pure]
  omega

theorem questions_minimize (used : UsedModules) (packages : List PackageImport)
    (graph : ReexportGraph) (owner : Option String) :
    (minimize used packages graph owner).questions = (graph.expansions used).length := by
  rw [minimize, Script.questions_bind_of_ok _ (absorb_outcome used packages), questions_absorb,
    Script.questions_bind_of_ok _ (contract_outcome used graph owner), questions_contract,
    Script.questions_pure]
  omega

theorem questions_keepBuddies (m : Module) (entries : List Entry) :
    (keepBuddies m entries).questions = 0 :=
  Script.questions_noteEach

theorem questions_keepReexported (entries : List Entry) :
    (keepReexported entries).questions = 0 :=
  Script.questions_noteEach

/-! ## The questions of an analysis -/

namespace Analysis

variable {m : Module} {registry : Registry} {used : PackageSet}

theorem questions_classifyRequires {requires : List ModuleImport}
    (readable : ∀ required ∈ requires,
      ∀ n ∈ registry.visible (.ofRegistry registry) required.id, n.Readable)
    (classified : Classified) :
    (classifyRequires m used registry (.ofRegistry registry) classified requires).questions =
      requires.length := by
  induction requires generalizing classified with
  | nil => rfl
  | cons required rest ih =>
    rw [classifyRequires, poll, Script.questions_event_bind,
      ModuleImport.isUnused_eq (readable required List.mem_cons_self),
      Script.questions_bind_of_ok _ rfl]
    dsimp only
    rw [Script.questions_event_bind, tellCount, Script.questions_event_bind,
      ih fun other later => readable other (List.mem_cons_of_mem _ later), List.length_cons]
    simp [Event.isQuestion]
    omega

theorem questions_classifyPackages (exported : List String) (classified : Classified)
    (packages : List PackageImport) :
    (classifyPackages m exported used classified packages).questions = packages.length := by
  induction packages generalizing classified with
  | nil => rfl
  | cons package rest ih =>
    rw [classifyPackages, poll, Script.questions_event_bind]
    cases isUnused : package.isUnused exported used with
    | true =>
      rw [if_pos rfl]
      dsimp only
      rw [tellCount, Script.questions_event_bind, Script.questions_bind_of_ok _ (Script.outcome_pure _),
        Script.questions_event_bind, ih]
      simp [Event.isQuestion]
      omega
    | false =>
      rw [if_neg Bool.false_ne_true]
      dsimp only
      rw [Script.questions_bind_of_ok _ (Script.outcome_pure _), Script.questions_event_bind, ih]
      simp [Event.isQuestion]
      omega

/-- The ids that a run meets when it contracts the requirements in use. -/
def reached (m : Module) (registry : Registry) (used : PackageSet) : Set String :=
  {id | ∃ user, m.ReliesOn registry used user ∧
    ReflTransGen (ReexportGraph.ofRegistry registry).Edge user id}

theorem length_expansions_usedModules (m : Module) (registry : Registry) (used : PackageSet) :
    ((ReexportGraph.ofRegistry registry).expansions (usedModules m registry used)).length =
      (reached m registry used).ncard := by
  rw [ReexportGraph.length_expansions, reached]
  simp only [mem_keys_usedModules]

theorem questions_search (legible : m.Legible registry) :
    (search m registry used).questions =
      m.requires.length + m.packageImports.length + 1 + (reached m registry used).ncard := by
  obtain ⟨names, told⟩ := legible.own
  rw [search]
  dsimp only
  rw [Script.questions_event_bind, told, Script.questions_bind_of_ok _ rfl,
    Script.questions_bind_of_ok _ (classifyRequires_outcome legible.shown _),
    questions_classifyRequires legible.shown,
    Script.questions_bind_of_ok _ (classifyPackages_outcome _ _ _), questions_classifyPackages, poll,
    Script.questions_event_bind, Script.questions_bind_of_ok _ (minimize_outcome _ _ _ _),
    questions_minimize, Script.questions_event_bind, tellCount, Script.questions_event_bind,
    Script.questions_bind_of_ok _ (keepBuddies_outcome _ _), questions_keepBuddies,
    questions_keepReexported]
  have expansions := length_expansions_usedModules m registry used
  rw [usedModules] at expansions
  simp [Event.isQuestion, expansions]
  omega

/-- An analysis asks once before the oracle, once for each declaration, once before it minimizes, and once
for each id it meets then; the oracle may ask as well. -/
theorem questions_run {oracle : Oracle} (hasId : m.hasId) (told : m.Readable)
    (readable : registry.Readable) (answers : (oracle.consult m).outcome = .ok used) :
    (run m registry oracle).questions = 2 + m.requires.length + m.packageImports.length +
      (reached m registry used).ncard + (oracle.consult m).questions := by
  have legible : m.Legible registry := .of_readable told readable
  rw [run, if_neg (by simp [hasId]), poll, Script.questions_event_bind,
    Script.questions_bind_of_ok _ (Script.outcome_mapFailure_of_ok _ answers),
    Script.questions_mapFailure, Script.note, Script.questions_event_bind,
    Script.questions_bind_of_ok _ (search_outcome legible), questions_search legible]
  dsimp only
  rw [Script.note, Script.questions_event_bind, Script.questions_pure]
  simp [Event.isQuestion]
  omega

/-- Cancellation is all or nothing. A monitor that answers `k` questions with yes cancels an analysis iff
the analysis asks more than that: two questions, one for each declaration, one for each id that the
requirements in use reach, and those of the oracle, which asks none unless it is handed the monitor.
What is told until then is the beginning of what an analysis tells that nobody cancels; an analysis that
is not cut ends like that one and tells the same. -/
theorem run_cancelled_iff {oracle : Oracle} (monitor : Monitor) (k : Nat) (hasId : m.hasId)
    (told : m.Readable) (readable : registry.Readable)
    (answers : (oracle.consult m).outcome = .ok used) :
    let script := run m registry oracle
    let asked := 2 + m.requires.length + m.packageImports.length + (reached m registry used).ncard +
      (oracle.consult m).questions
    let whole := monitor.calm.play script
    let cut := (monitor.lasting k).play script
    (∃ findings, whole.1.outcome = .ok findings) ∧
      ((monitor.lasting k).Cancels script ↔ k < asked) ∧
      (k < asked → cut.2.updates <+: whole.2.updates) ∧
      (asked ≤ k → cut.1.outcome = whole.1.outcome ∧ cut.2.updates = whole.2.updates) := by
  intro script asked whole cut
  obtain ⟨findings, outcome⟩ : ∃ findings, script.outcome = .ok findings :=
    ⟨_, run_outcome hasId told readable answers⟩
  have calmly : ¬ monitor.calm.Cancels script := monitor.idle_calm.not_cancels outcome
  have wholeTells : whole.2.updates = (monitor.calm.watch script.events).updates :=
    Monitor.updates_play_of_not_cancels calmly
  have cancels_iff : (monitor.lasting k).Cancels script ↔ k < asked := by
    rw [(monitor.patient_lasting k).cancels_iff outcome, questions_run hasId told readable answers]
  refine ⟨⟨findings, ?_⟩, cancels_iff, fun _ => ?_, fun enough => ?_⟩
  · rw [Monitor.play_eq_of_not_cancels calmly, outcome]
  · rw [wholeTells]
    exact Monitor.updates_play_prefix (monitor.lasting k) script
  · have uncancelled : ¬ (monitor.lasting k).Cancels script := by
      rw [cancels_iff]
      omega
    refine ⟨?_, ?_⟩
    · rw [Monitor.play_eq_of_not_cancels uncancelled, Monitor.play_eq_of_not_cancels calmly]
    · rw [wholeTells]
      exact Monitor.updates_play_of_not_cancels uncancelled

/-- Two modules that re-export each other, and one of them also an id that nobody has. -/
def ring : Registry :=
  ⟨[("left", [.plain 0 "left" "1.0" [.plain ⟨0, 0⟩ "right" true, .plain ⟨0, 1⟩ "missing" true]
      ["left.api"]]),
    ("right", [.plain 1 "right" "1.0" [.plain ⟨1, 0⟩ "left" true] []])]⟩

/-- A module that requires one of the two, and a module that nobody has. -/
def clientOfRing : Module :=
  .plain 2 "client" "1.0" [.plain ⟨2, 0⟩ "right" false, .plain ⟨2, 1⟩ "other" false] []

theorem readable_ring : ring.Readable :=
  Registry.readable_of_metadata (by decide)

/-- Only `right` is in use, and it reaches three ids: the analysis asks seven questions. -/
theorem run_cancelled_iff_ring :
    clientOfRing.hasId = true ∧ clientOfRing.Readable ∧ ring.Readable ∧
      (Monitor.silent.lasting 6).Cancels (run clientOfRing ring (.fixed ["left.api"])) ∧
      ¬ (Monitor.silent.lasting 7).Cancels (run clientOfRing ring (.fixed ["left.api"])) := by
  have told : clientOfRing.Readable := ⟨[], rfl⟩
  have three : (reached clientOfRing ring ["left.api"]).ncard = 3 := by
    rw [← length_expansions_usedModules]
    cbv
  have six := (run_cancelled_iff Monitor.silent 6 rfl told readable_ring
    (rfl : ((Oracle.fixed ["left.api"]).consult clientOfRing).outcome = .ok ["left.api"])).2.1
  have seven := (run_cancelled_iff Monitor.silent 7 rfl told readable_ring
    (rfl : ((Oracle.fixed ["left.api"]).consult clientOfRing).outcome = .ok ["left.api"])).2.1
  have asked : 2 + clientOfRing.requires.length + clientOfRing.packageImports.length +
      (reached clientOfRing ring ["left.api"]).ncard +
      ((Oracle.fixed ["left.api"]).consult clientOfRing).questions = 7 := by
    rw [three]
    rfl
  rw [asked] at six seven
  exact ⟨rfl, told, readable_ring, six.mpr (by decide), fun cancels => absurd (seven.mp cancels) (by decide)⟩

end Analysis

end Pruning
