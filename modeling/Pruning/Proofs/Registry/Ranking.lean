import Mathlib.Data.List.Induction
import Pruning.Proofs.Registry.Additions

/-!
# The order of the modules of one id

A ranking of modules is in descending order of their versions, and leaves modules of equal versions in the
order in which they were added (`Ranks`). There is just one ranking of a list (`Ranks.eq`), and it is found
by sorting (`ranks_mergeSort`), also when a module comes after a list that is ranked already
(`Ranks.resort`). So the registry holds the rankings of the modules that were added (`ofModules_ranking`).
-/

namespace Pruning.Registry

open Pruning.Module (mayPrecede mayPrecede_iff mayPrecede_trans mayPrecede_total)

section Rankings

variable [Version.Casing] {registry : Registry} {modules ranked ranked' added more : List Module}
  {m : Module} {id : String}

/-! ## Rankings -/

/-- The modules whose versions have one key, in their order. -/
def ofKey (key : List (List Nat)) (modules : List Module) : List Module :=
  modules.filter fun m => m.versionKey = key

/-- The modules of a list in descending order of their versions, those of equal versions in the order of the
list. -/
structure Ranks (ranked added : List Module) : Prop where
  perm : ranked.Perm added
  descending : ranked.Pairwise fun a b => b.versionKey ≤ a.versionKey
  stable : ∀ key, ofKey key ranked = ofKey key added

theorem mem_ofKey {key : List (List Nat)} : m ∈ ofKey key modules ↔ m ∈ modules ∧ m.versionKey = key := by
  rw [ofKey, List.mem_filter, decide_eq_true_iff]

theorem ofKey_cons {key : List (List Nat)} : ofKey key (m :: modules) =
    if m.versionKey = key then m :: ofKey key modules else ofKey key modules := by
  rw [ofKey, List.filter_cons]
  by_cases same : m.versionKey = key
  · simp [same, ofKey]
  · simp [same, ofKey]

theorem ofKey_append (key : List (List Nat)) (modules more : List Module) :
    ofKey key (modules ++ more) = ofKey key modules ++ ofKey key more :=
  List.filter_append modules more

/-- Sorting leaves modules of equal versions in their order. -/
theorem ofKey_mergeSort (key : List (List Nat)) (modules : List Module) :
    ofKey key (modules.mergeSort mayPrecede) = ofKey key modules := by
  have equal : (ofKey key modules).Pairwise fun a b => mayPrecede a b = true := by
    refine List.pairwise_of_forall_mem_list fun a first b second => ?_
    rw [mayPrecede_iff, (mem_ofKey.mp first).2, (mem_ofKey.mp second).2]
  have kept : (ofKey key modules).Sublist (modules.mergeSort mayPrecede) :=
    List.sublist_mergeSort mayPrecede_trans mayPrecede_total equal List.filter_sublist
  have kept' : (ofKey key modules).Sublist (ofKey key (modules.mergeSort mayPrecede)) := by
    have own : ofKey key (ofKey key modules) = ofKey key modules := by
      simp [ofKey, List.filter_filter]
    exact own ▸ kept.filter _
  have sameLength : (ofKey key (modules.mergeSort mayPrecede)).length = (ofKey key modules).length :=
    ((List.mergeSort_perm modules mayPrecede).filter _).length_eq
  exact (kept'.eq_of_length sameLength.symm).symm

theorem ranks_mergeSort (modules : List Module) : Ranks (modules.mergeSort mayPrecede) modules where
  perm := List.mergeSort_perm _ _
  descending :=
    (List.pairwise_mergeSort mayPrecede_trans mayPrecede_total modules).imp mayPrecede_iff.mp
  stable key := ofKey_mergeSort key modules

/-- A list that is ranked is ranked again with what comes after it. -/
theorem Ranks.resort (ranks : Ranks ranked added) (more : List Module) :
    Ranks ((ranked ++ more).mergeSort mayPrecede) (added ++ more) where
  perm := (List.mergeSort_perm _ _).trans (ranks.perm.append_right more)
  descending := (ranks_mergeSort _).descending
  stable key := by rw [ofKey_mergeSort, ofKey_append, ofKey_append, ranks.stable]

theorem mem_iff_of_ofKey (same : ∀ key, ofKey key ranked = ofKey key ranked') :
    m ∈ ranked ↔ m ∈ ranked' := by
  have here : m ∈ ofKey m.versionKey ranked ↔ m ∈ ofKey m.versionKey ranked' := by rw [same]
  simpa [mem_ofKey] using here

/-- The head of a list in descending order has the highest version. -/
theorem versionKey_le_head (descending : (m :: ranked).Pairwise fun a b => b.versionKey ≤ a.versionKey)
    {n : Module} (held : n ∈ m :: ranked) : n.versionKey ≤ m.versionKey := by
  rcases List.mem_cons.mp held with rfl | later
  · exact le_rfl
  · exact (List.pairwise_cons.mp descending).1 n later

/-- Lists in descending order are the same when the same modules stand under each version. -/
theorem eq_of_ofKey (descending : ranked.Pairwise fun a b => b.versionKey ≤ a.versionKey)
    (descending' : ranked'.Pairwise fun a b => b.versionKey ≤ a.versionKey)
    (same : ∀ key, ofKey key ranked = ofKey key ranked') : ranked = ranked' := by
  induction ranked generalizing ranked' with
  | nil =>
    cases ranked' with
    | nil => rfl
    | cons n rest => exact absurd ((mem_iff_of_ofKey same).mpr List.mem_cons_self) List.not_mem_nil
  | cons m rest ih =>
    cases ranked' with
    | nil => exact absurd ((mem_iff_of_ofKey same).mp List.mem_cons_self) List.not_mem_nil
    | cons n rest' =>
      -- Both heads have the highest version, and the first module of that version is one module.
      have equal : m.versionKey = n.versionKey := le_antisymm
        (versionKey_le_head descending' ((mem_iff_of_ofKey same).mp List.mem_cons_self))
        (versionKey_le_head descending ((mem_iff_of_ofKey same).mpr List.mem_cons_self))
      have heads := same n.versionKey
      rw [ofKey_cons, ofKey_cons, if_pos equal, if_pos rfl] at heads
      obtain rfl : m = n := (List.cons.inj heads).1
      have rests (key : List (List Nat)) : ofKey key rest = ofKey key rest' := by
        have both := same key
        rw [ofKey_cons, ofKey_cons] at both
        split at both
        case isTrue => exact (List.cons.inj both).2
        case isFalse => exact both
      rw [ih (List.pairwise_cons.mp descending).2 (List.pairwise_cons.mp descending').2 rests]

/-- There is one ranking of a list. -/
theorem Ranks.eq (ranks : Ranks ranked added) (ranks' : Ranks ranked' added) : ranked = ranked' :=
  eq_of_ofKey ranks.descending ranks'.descending fun key =>
    (ranks.stable key).trans (ranks'.stable key).symm

/-- What comes after a list can be ranked on its own before. -/
theorem Ranks.of_append (ranks : Ranks ranked (added ++ ranked')) (later : Ranks ranked' more) :
    Ranks ranked (added ++ more) where
  perm := ranks.perm.trans (later.perm.append_left added)
  descending := ranks.descending
  stable key := by rw [ranks.stable, ofKey_append, ofKey_append, later.stable]

/-! ## Additions -/

/-- Additions rank the modules of an id, those before them included. -/
theorem Ranks.insertAll (ranks : Ranks (registry.candidates id) added) :
    Ranks ((registry.insertAll modules).candidates id)
      (added ++ modules.filter fun m => m.id = id) := by
  induction modules generalizing registry added with
  | nil => simpa [Registry.insertAll] using ranks
  | cons m rest ih =>
    by_cases same : m.id = id
    · have sorted : Ranks ((registry.insert m).candidates id) (added ++ [m]) := by
        rw [candidates_insert, if_pos same]
        exact ranks.resort [m]
      rw [List.filter_cons_of_pos (by simpa using same), List.append_cons]
      exact ih sorted
    · have kept : Ranks ((registry.insert m).candidates id) added := by
        rwa [candidates_insert, if_neg same]
      rw [List.filter_cons_of_neg (by simpa using same)]
      exact ih kept

theorem ranks_insertAll
    (before : ∀ id, Ranks (registry.candidates id) (added.filter fun m => m.id = id)) (id : String) :
    Ranks ((registry.insertAll modules).candidates id)
      ((added ++ modules).filter fun m => m.id = id) := by
  rw [List.filter_append]
  exact (before id).insertAll

/-- After the ids that are listed already, new ones are listed in the order in which they first occur. -/
theorem ids_insertAll_append (registry : Registry) (modules : List Module) :
    (registry.insertAll modules).ids =
      registry.ids ++ (modules.map Module.id).eraseDups.filter fun id => id ∉ registry.ids := by
  induction modules using List.reverseRecOn with
  | nil => simp [insertAll]
  | append_singleton modules m ih =>
    have last : registry.insertAll (modules ++ [m]) = (registry.insertAll modules).insert m := by
      rw [insertAll, List.foldl_append]
      rfl
    rw [last, ids_insert, ih, List.map_append, List.eraseDups_append]
    generalize modules.map Module.id = names
    by_cases known : m.id ∈ names
    · by_cases listed : m.id ∈ registry.ids <;> simp [List.removeAll, known, listed]
    · by_cases listed : m.id ∈ registry.ids <;>
        simp [List.removeAll, known, listed, List.eraseDups_cons]

/-- The ids are listed in the order in which they first occur. -/
theorem ids_insertAll (modules : List Module) :
    (empty.insertAll modules).ids = (modules.map Module.id).eraseDups := by
  rw [ids_insertAll_append]
  simp [ids, empty, Fields.keys]

/-- Modules with ids and readable versions are all registered. Then each id has the one ranking of the modules
that were added with it, of which the first is the one it stands for; the ids are listed in the order in
which they first occurred; and there are as many modules as were added. -/
theorem ofModules_ranking (addable : ∀ m ∈ modules, m.hasId = true ∧ m.Versioned) :
    ∃ registry, ofModules modules = .ok registry ∧
      (∀ id ranked, registry.candidates id = ranked ↔
        Ranks ranked (modules.filter fun m => m.id = id)) ∧
      (∀ id, registry.resolve id = (registry.candidates id).head?) ∧
      (∀ id, registry.resolve id = none ↔ ∀ m ∈ modules, m.id ≠ id) ∧
      registry.ids = (modules.map Module.id).eraseDups ∧
      registry.size = modules.length := by
  have start : ∀ id, Ranks (empty.candidates id) (([] : List Module).filter fun m => m.id = id) :=
    fun _ => ⟨.refl _, .nil, fun _ => rfl⟩
  have ranks (id : String) : Ranks ((empty.insertAll modules).candidates id)
      (modules.filter fun m => m.id = id) := ranks_insertAll start id
  refine ⟨empty.insertAll modules, addAll_of_sound sound_empty addable, ?_, fun _ => rfl, ?_,
    ids_insertAll modules, modules_insertAll_perm.length_eq⟩
  · intro id ranked
    constructor
    · rintro rfl
      exact ranks id
    · exact (ranks id).eq
  · intro id
    rw [resolve, List.head?_eq_none_iff, ← List.length_eq_zero_iff, (ranks id).perm.length_eq]
    simp

end Rankings

/-- A descriptor of which only the id and the version are known. -/
def release (mark : Nat) (id version : String) : Module :=
  ⟨mark, id, version, [], none, [], none, none, "\n"⟩

@[simp]
theorem release_id {mark : Nat} {id version : String} : (release mark id version).id = id :=
  rfl

section Releases

attribute [local instance] Version.Casing.ascii

/-- Releases of two modules. The versions of the library are two pairs that compare as equal. -/
def releases : List Module :=
  [release 0 "library" "1.2.0.v1", release 1 "core" "1.0", release 2 "library" "2.0.0",
    release 3 "library" "1.2.0.v2", release 4 "library" "2.0"]

theorem ranks_releases : Ranks
    [release 2 "library" "2.0.0", release 4 "library" "2.0", release 0 "library" "1.2.0.v1",
      release 3 "library" "1.2.0.v2"]
    (releases.filter fun m => m.id = "library") where
  perm := by decide
  descending := by decide +kernel
  stable key := by
    have newer : (release 4 "library" "2.0").versionKey = (release 2 "library" "2.0.0").versionKey := by
      decide +kernel
    have older : (release 3 "library" "1.2.0.v2").versionKey =
        (release 0 "library" "1.2.0.v1").versionKey := by
      decide +kernel
    have apart : (release 2 "library" "2.0.0").versionKey ≠
        (release 0 "library" "1.2.0.v1").versionKey := by
      decide +kernel
    have added : (releases.filter fun m => m.id = "library") =
        [release 0 "library" "1.2.0.v1", release 2 "library" "2.0.0",
          release 3 "library" "1.2.0.v2", release 4 "library" "2.0"] := by
      decide
    simp only [added, ofKey_cons, newer, older]
    grind

theorem ofModules_ranking_releases :
    (∀ m ∈ releases, m.hasId = true ∧ m.Versioned) ∧
      ∃ registry, ofModules releases = .ok registry ∧
        registry.candidates "library" =
          [release 2 "library" "2.0.0", release 4 "library" "2.0", release 0 "library" "1.2.0.v1",
            release 3 "library" "1.2.0.v2"] ∧
        registry.resolve "library" = some (release 2 "library" "2.0.0") ∧
        registry.resolve "editor" = none ∧
        registry.ids = ["library", "core"] ∧ registry.size = 5 := by
  have addable : ∀ m ∈ releases, m.hasId = true ∧ m.Versioned := by decide +kernel
  obtain ⟨registry, built, ranking, first, unknown, ids, size⟩ := ofModules_ranking addable
  have library := (ranking "library" _).mpr ranks_releases
  refine ⟨addable, registry, built, library, ?_, (unknown "editor").mpr (by decide), ?_, size⟩
  · rw [first, library]
    rfl
  · rw [ids]
    decide

end Releases

end Pruning.Registry
