import Pruning.Proofs.Registry.Ranking

/-!
# Registries that are built in stages

A registry lists its modules id by id, and those of one id in descending order, so they can be added to
another registry in an order in which they were never added to the first. This makes no difference: the
modules of one id are added in the ranking that they get anyway (`Ranks.of_append`), and new ids first
occur in the order in which the first registry lists them (`Filed.ids_modules`). So adding what another
registry holds comes to the same as adding what was added to it (`addAll_in_stages`).
-/

namespace Pruning.Registry

variable {registry : Registry} {modules : List Module} {m : Module} {id : String}

/-! ## Registries as lists of modules -/

/-- Each id is listed once, with modules of that id, of which there is at least one. -/
structure Filed (registry : Registry) : Prop where
  distinct : registry.ids.Nodup
  own : ∀ entry ∈ registry.entries, ∀ m ∈ entry.2, m.id = entry.1
  filled : ∀ entry ∈ registry.entries, entry.2 ≠ []

theorem filed_empty : empty.Filed :=
  ⟨List.nodup_nil, List.forall_mem_nil _, List.forall_mem_nil _⟩

theorem Filed.id_of_mem_candidates (filed : registry.Filed) (held : m ∈ registry.candidates id) :
    m.id = id := by
  rw [candidates] at held
  cases found : Fields.get? id registry.entries with
  | none =>
    rw [found] at held
    exact absurd held List.not_mem_nil
  | some versions =>
    rw [found] at held
    exact filed.own _ (Fields.mem_of_get? found) m held

/-- Among all modules, those of one id stand in their ranking. -/
theorem Filed.filter_modules (filed : registry.Filed) (id : String) :
    (registry.modules.filter fun m => m.id = id) = registry.candidates id := by
  obtain ⟨entries⟩ := registry
  obtain ⟨distinct, own, -⟩ := filed
  rw [modules, candidates]
  dsimp only [ids] at distinct own ⊢
  induction entries with
  | nil => rfl
  | cons entry rest ih =>
    rw [Fields.keys, List.map_cons, List.nodup_cons] at distinct
    have here := own entry List.mem_cons_self
    have later := ih distinct.2 fun other held => own other (List.mem_cons_of_mem _ held)
    rw [List.flatMap_cons, List.filter_append, later, Fields.get?_cons]
    by_cases same : entry.1 = id
    · have whole : (entry.2.filter fun m => m.id = id) = entry.2 :=
        List.filter_eq_self.mpr fun m held => by simpa using (here m held).trans same
      have absent : Fields.get? id rest = none := Fields.get?_eq_none_iff.mpr (same ▸ distinct.1)
      rw [whole, if_pos same, absent]
      exact List.append_nil _
    · have nobody : (entry.2.filter fun m => m.id = id) = [] :=
        List.filter_eq_nil_iff.mpr fun m held => by simpa [here m held] using same
      rw [nobody, if_neg same, List.nil_append]

/-- A name that is repeated occurs once. -/
theorem eraseDups_of_same {name : String} {names : List String} (filled : names ≠ [])
    (same : ∀ other ∈ names, other = name) : names.eraseDups = [name] := by
  obtain ⟨first, rest, rfl⟩ := List.exists_cons_of_ne_nil filled
  obtain rfl := same first List.mem_cons_self
  have others : (rest.filter fun other => !other == first) = [] := by
    rw [List.filter_eq_nil_iff]
    intro other held
    simpa using same other (List.mem_cons_of_mem _ held)
  rw [List.eraseDups_cons, others, List.eraseDups_nil]

/-- The ids of all modules first occur in the order in which they are listed. -/
theorem Filed.ids_modules (filed : registry.Filed) :
    (registry.modules.map Module.id).eraseDups = registry.ids := by
  obtain ⟨entries⟩ := registry
  obtain ⟨distinct, own, filled⟩ := filed
  rw [modules, ids]
  dsimp only [ids] at distinct own filled ⊢
  induction entries with
  | nil => rfl
  | cons entry rest ih =>
    rw [Fields.keys, List.map_cons, List.nodup_cons] at distinct
    have ownRest : ∀ other ∈ rest, ∀ m ∈ other.2, m.id = other.1 :=
      fun other held => own other (List.mem_cons_of_mem _ held)
    have later := ih distinct.2 ownRest fun other held => filled other (List.mem_cons_of_mem _ held)
    have here : ∀ name ∈ entry.2.map Module.id, name = entry.1 := by
      intro name held
      obtain ⟨m, among, rfl⟩ := List.mem_map.mp held
      exact own entry List.mem_cons_self m among
    have others : ((rest.flatMap Prod.snd).map Module.id).removeAll (entry.2.map Module.id) =
        (rest.flatMap Prod.snd).map Module.id := by
      refine List.filter_eq_self.mpr fun name held => ?_
      obtain ⟨m, among, rfl⟩ := List.mem_map.mp held
      obtain ⟨other, listed, among⟩ := List.mem_flatMap.mp among
      have apart : m.id ∉ entry.2.map Module.id := fun known =>
        distinct.1 ((ownRest other listed m among).symm.trans (here _ known) ▸
          List.mem_map_of_mem listed)
      simpa using apart
    have filledHere : entry.2.map Module.id ≠ [] := by
      simpa using filled entry List.mem_cons_self
    rw [List.flatMap_cons, List.map_append, List.eraseDups_append, others, later,
      eraseDups_of_same filledHere here]
    rfl

/-! ## Stages -/

section Stages

variable [Version.Casing]

theorem Filed.insert (filed : registry.Filed) (m : Module) : (registry.insert m).Filed := by
  have sorted := List.mergeSort_perm (registry.candidates m.id ++ [m]) Module.mayPrecede
  refine ⟨Fields.nodup_keys_put filed.distinct, fun entry held n among => ?_, fun entry held => ?_⟩
  · rcases Fields.mem_put held with rfl | before
    · rcases List.mem_append.mp (sorted.mem_iff.mp among) with known | isNew
      · exact filed.id_of_mem_candidates known
      · rw [List.mem_singleton.mp isNew]
    · exact filed.own entry before n among
  · rcases Fields.mem_put held with rfl | before
    · exact List.ne_nil_of_mem (sorted.mem_iff.mpr (List.mem_append_right _ List.mem_cons_self))
    · exact filed.filled entry before

theorem Filed.insertAll (filed : registry.Filed) (modules : List Module) :
    (registry.insertAll modules).Filed := by
  induction modules generalizing registry with
  | nil => exact filed
  | cons m rest ih => exact ih (filed.insert m)

theorem insertAll_append (registry : Registry) (modules more : List Module) :
    registry.insertAll (modules ++ more) = (registry.insertAll modules).insertAll more :=
  List.foldl_append

theorem Sound.ranks (sound : registry.Sound) (id : String) :
    Ranks (registry.candidates id) (registry.candidates id) :=
  ⟨.refl _, (sound.ordered id).imp Module.mayPrecede_iff.mp, fun _ => rfl⟩

/-- The modules of an id that another registry holds are ranked like those that were added to it. -/
theorem candidates_insertAll_modules (sound : registry.Sound) (modules : List Module) (id : String) :
    (registry.insertAll (empty.insertAll modules).modules).candidates id =
      (registry.insertAll modules).candidates id := by
  have filed : (empty.insertAll modules).Filed := filed_empty.insertAll modules
  have other : Ranks ((empty.insertAll modules).candidates id)
      (modules.filter fun m => m.id = id) :=
    (sound_empty.ranks id).insertAll
  have staged : Ranks ((registry.insertAll (empty.insertAll modules).modules).candidates id)
      (registry.candidates id ++ (empty.insertAll modules).modules.filter fun m => m.id = id) :=
    (sound.ranks id).insertAll
  rw [filed.filter_modules] at staged
  exact (staged.of_append other).eq (sound.ranks id).insertAll

/-- The ids that another registry lists are listed like those of the modules that were added to it. -/
theorem ids_insertAll_modules (registry : Registry) (modules : List Module) :
    (registry.insertAll (empty.insertAll modules).modules).ids = (registry.insertAll modules).ids := by
  have filed : (empty.insertAll modules).Filed := filed_empty.insertAll modules
  rw [ids_insertAll_append, ids_insertAll_append, filed.ids_modules, ids_insertAll]

/-- Modules with ids and readable versions can be added in two stages, the second time by way of a registry of
their own: every id gets the same candidates, and the ids are listed in the same order, as when all
modules are added at once. This holds of additions to any registry with the candidates of each id in
order, such as the empty one. -/
theorem addAll_in_stages {first second : List Module} (sound : registry.Sound)
    (addable : ∀ m ∈ first, m.hasId = true ∧ m.Versioned)
    (addable' : ∀ m ∈ second, m.hasId = true ∧ m.Versioned) :
    ∃ started other staged whole, registry.addAll first = .ok started ∧
      ofModules second = .ok other ∧ started.addAll other.modules = .ok staged ∧
      registry.addAll (first ++ second) = .ok whole ∧
      staged.ids = whole.ids ∧ ∀ id, staged.candidates id = whole.candidates id := by
  have startedSound : (registry.insertAll first).Sound :=
    sound.insertAll fun m held => (addable m held).2
  have held : ((empty.insertAll second).modules).Perm second := modules_insertAll_perm
  refine ⟨_, _, _, _, addAll_of_sound sound addable, addAll_of_sound sound_empty addable',
    addAll_of_sound startedSound fun m among => addable' m (held.mem_iff.mp among),
    addAll_of_sound sound (List.forall_mem_append.mpr ⟨addable, addable'⟩), ?_, fun id => ?_⟩
  · rw [insertAll_append, ids_insertAll_modules]
  · rw [insertAll_append, candidates_insertAll_modules startedSound]

end Stages

section Library

attribute [local instance] Version.Casing.ascii

/-- Modules of a snapshot. -/
def shelved : List Module :=
  [release 0 "library" "1.2.0.v1", release 1 "core" "1.0"]

/-- Modules that were found below a path. Their registry lists them in another order. -/
def found : List Module :=
  [release 2 "library" "1.2.0.v2", release 3 "editor" "1.0", release 4 "library" "2.0"]

/-- The second stage meets the newest library first. The other versions of the library compare as equal, and
the one of the snapshot stays in front. -/
theorem addAll_in_stages_library :
    empty.Sound ∧ (∀ m ∈ shelved, m.hasId = true ∧ m.Versioned) ∧
      (∀ m ∈ found, m.hasId = true ∧ m.Versioned) ∧
      ∃ started other staged, empty.addAll shelved = .ok started ∧ ofModules found = .ok other ∧
        other.modules = [release 4 "library" "2.0", release 2 "library" "1.2.0.v2",
          release 3 "editor" "1.0"] ∧
        started.addAll other.modules = .ok staged ∧ staged.ids = ["library", "core", "editor"] ∧
        staged.candidates "library" = [release 4 "library" "2.0", release 0 "library" "1.2.0.v1",
          release 2 "library" "1.2.0.v2"] := by
  have addable : ∀ m ∈ shelved, m.hasId = true ∧ m.Versioned := by decide +kernel
  have addable' : ∀ m ∈ found, m.hasId = true ∧ m.Versioned := by decide +kernel
  have tie : (release 0 "library" "1.2.0.v1").mayPrecede (release 2 "library" "1.2.0.v2") = true := by
    decide +kernel
  have older : (release 0 "library" "1.2.0.v1").mayPrecede (release 4 "library" "2.0") = false := by
    decide +kernel
  have older' : (release 2 "library" "1.2.0.v2").mayPrecede (release 4 "library" "2.0") = false := by
    decide +kernel
  have ownTold : ofModules found = .ok ⟨[
      ("library", [release 4 "library" "2.0", release 2 "library" "1.2.0.v2"]),
      ("editor", [release 3 "editor" "1.0"])]⟩ := by
    rw [ofModules, addAll_of_sound sound_empty addable']
    simp [insertAll, insert, candidates, empty, Fields.put, found, List.mergeSort, older']
  have allTold : empty.addAll (shelved ++ found) = .ok ⟨[
      ("library", [release 4 "library" "2.0", release 0 "library" "1.2.0.v1",
        release 2 "library" "1.2.0.v2"]),
      ("core", [release 1 "core" "1.0"]), ("editor", [release 3 "editor" "1.0"])]⟩ := by
    rw [addAll_of_sound sound_empty (List.forall_mem_append.mpr ⟨addable, addable'⟩)]
    simp [insertAll, insert, candidates, empty, Fields.put, shelved, found, List.mergeSort,
      tie, older]
  obtain ⟨started, other, staged, whole, start, own, stage, all, ids, candidates⟩ :=
    addAll_in_stages sound_empty addable addable'
  obtain rfl := Except.ok.inj (ownTold.symm.trans own)
  obtain rfl := Except.ok.inj (allTold.symm.trans all)
  exact ⟨sound_empty, addable, addable', started, _, staged, start, own, rfl, stage, ids,
    candidates "library"⟩

end Library

end Pruning.Registry
