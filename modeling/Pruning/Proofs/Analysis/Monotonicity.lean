import Pruning.Proofs.Analysis.Cancellation

/-!
# More used packages

When more packages turn out to be used, a requirement that showed nothing may begin to serve, and then
others that it re-exports become redundant. Without second versions this reports no requirement that was
not reported before: whoever re-exports a requirement that already served shows the same package, so the
module relied on it all along (`Module.ReliesOn.of_path`).
-/

namespace Pruning

open Relation

namespace Module.ReliesOn

variable {m : Module} {registry : Registry} {used used' : PackageSet} {id user : String}

theorem mono (relies : m.ReliesOn registry used id) (more : used ⊆ used') :
    m.ReliesOn registry used' id := by
  obtain ⟨declared, package, isUsed, shown⟩ := relies
  exact ⟨declared, package, more isUsed, shown⟩

/-- A module relies on each of its requirements that re-export one on which it relies. -/
theorem of_path (identified : registry.Identified) (single : registry.SingleVersioned)
    (relies : m.ReliesOn registry used id) (declared : ∃ required ∈ m.requires, required.id = user)
    (path : ReflTransGen (ReexportGraph.ofRegistry registry).Edge user id) :
    m.ReliesOn registry used user := by
  obtain ⟨_, package, isUsed, shown⟩ := relies
  exact ⟨declared, package, isUsed, shown.of_path identified single path⟩

end Module.ReliesOn

namespace Analysis

variable {m : Module} {registry : Registry} {used used' : PackageSet} {required : ModuleImport}

/-- A requirement that is reported with more used packages is reported with fewer. -/
theorem requirement_reported_of_subset (identified : registry.Identified)
    (single : registry.SingleVersioned) (more : used ⊆ used')
    (isReported : .requirement required ∈ reported m registry used') :
    .requirement required ∈ reported m registry used := by
  obtain ⟨declared, notReexported, noBuddy, why⟩ := mem_reported_requirement.mp isReported
  refine mem_reported_requirement.mpr ⟨declared, notReexported, noBuddy, ?_⟩
  by_cases serves : ∃ package ∈ used, registry.Shows required.id package
  · -- It serves already, so it was not idle with more packages either: others re-export it.
    have relies : m.ReliesOn registry used required.id := ⟨⟨required, declared, rfl⟩, serves⟩
    rcases why with idle | ⟨last, user, ⟨userDeclared, _⟩, above⟩
    · exact absurd (relies.mono more).2 idle
    · exact Or.inr ⟨last, user,
        relies.of_path identified single userDeclared above.to_reflTransGen, above⟩
  · exact Or.inl serves

/-- Of two analyses of one module, the one that knows of more used packages reports no requirement that
the other one does not report. -/
theorem run_reports_no_more {oracle oracle' : Oracle} {monitor monitor' : Monitor} (hasId : m.hasId)
    (told : m.Readable) (readable : registry.Readable) (identified : registry.Identified)
    (single : registry.SingleVersioned) (more : used ⊆ used')
    (answers : (oracle.consult m).outcome = .ok used)
    (answers' : (oracle'.consult m).outcome = .ok used')
    (uncancelled : ¬ monitor.Cancels (run m registry oracle))
    (uncancelled' : ¬ monitor'.Cancels (run m registry oracle')) :
    ∃ findings findings' : Findings,
      (monitor.play (run m registry oracle)).1.outcome = .ok findings ∧
      (monitor'.play (run m registry oracle')).1.outcome = .ok findings' ∧
      ∀ required, .requirement required ∈ findings'.unused →
        .requirement required ∈ findings.unused := by
  exact ⟨_, _, play_run_outcome hasId told readable answers uncancelled,
    play_run_outcome hasId told readable answers' uncancelled',
    fun _ => requirement_reported_of_subset identified single more⟩

theorem singleVersioned_ring : ring.SingleVersioned := by
  intro id
  simp only [Registry.candidates, ring, Fields.get?_cons]
  split
  · simp
  · split <;> simp

/-- Once the package of the other module of the ring is used, the requirement serves; but it stands above
itself in the ring, and is reported as it was before. -/
theorem run_reports_no_more_ring :
    clientOfRing.hasId = true ∧ clientOfRing.Readable ∧ ring.Readable ∧ ring.Identified ∧
      ring.SingleVersioned ∧ ([] : PackageSet) ⊆ ["left.api"] ∧
      ∃ findings findings' : Findings,
        (Monitor.silent.play (run clientOfRing ring (.fixed []))).1.outcome = .ok findings ∧
        (Monitor.silent.play (run clientOfRing ring (.fixed ["left.api"]))).1.outcome =
          .ok findings' ∧
        .requirement (.plain ⟨2, 0⟩ "right" false) ∈ findings'.unused ∧
        .requirement (.plain ⟨2, 0⟩ "right" false) ∈ findings.unused := by
  have told : clientOfRing.Readable := ⟨[], rfl⟩
  have identified : ring.Identified := by
    unfold Registry.Identified
    decide
  have outcome (used : PackageSet) : (run clientOfRing ring (.fixed used)).outcome =
      .ok ⟨clientOfRing.id, reported clientOfRing ring used, used, 2⟩ :=
    run_outcome rfl told readable_ring rfl
  have uncancelled (used : PackageSet) := Monitor.idle_silent.not_cancels (outcome used)
  obtain ⟨findings, findings', first, second, fewer⟩ :=
    run_reports_no_more rfl told readable_ring identified singleVersioned_ring (List.nil_subset _) rfl rfl
      (uncancelled []) (uncancelled ["left.api"])
  have both : reported clientOfRing ring ["left.api"] =
      [.requirement (.plain ⟨2, 1⟩ "other" false), .requirement (.plain ⟨2, 0⟩ "right" false)] := by
    cbv
  have isReported : .requirement (.plain ⟨2, 0⟩ "right" false) ∈ findings'.unused := by
    rw [Monitor.play_of_idle Monitor.idle_silent, outcome, both] at second
    cases second
    simp
  exact ⟨rfl, told, readable_ring, identified, singleVersioned_ring, List.nil_subset _, findings, findings',
    first, second, isReported, fewer _ isReported⟩

end Analysis

end Pruning
