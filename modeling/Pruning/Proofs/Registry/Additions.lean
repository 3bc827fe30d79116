import Mathlib.Data.List.Lex
import Mathlib.Data.List.Pairwise
import Mathlib.Data.List.Sort
import Pruning.Proofs.Fields
import Pruning.Registry

/-!
# What a registry holds after additions

A module can be added when it has an id and its version can be read, as those of the modules before it
were (`Registry.add_of_sound`). The modules of each id are then the ones that were added, in descending
order of their versions (`Registry.candidates_insertAll_perm`). Where no two modules of an id have equal
versions this order leaves no choice, so the candidates of an id do not depend on the order of the additions
(`Registry.candidates_insertAll_of_perm`).
-/

namespace Pruning

namespace Module

variable [Version.Casing]

/-- The version of the module can be read. -/
def Versioned (m : Module) : Prop :=
  ∃ version, m.parsedVersion = .ok version

/-- The versions of both modules can be read, and compare as equal. -/
def SameVersion (a b : Module) : Prop :=
  ∃ v w, a.parsedVersion = .ok v ∧ b.parsedVersion = .ok w ∧ v.key = w.key

/-- What the modules of one id are ordered by; a version that cannot be read has an empty key. -/
def versionKey (m : Module) : List (List Nat) :=
  match m.parsedVersion with
  | .ok version => version.key
  | .error _ => []

/-- Whether a module may stand before another one of its id. -/
def mayPrecede (a b : Module) : Bool :=
  !decide (a.versionKey < b.versionKey)

variable {a b c : Module}

theorem SameVersion.symm (same : a.SameVersion b) : b.SameVersion a := by
  obtain ⟨v, w, told, told', keys⟩ := same
  exact ⟨w, v, told', told, keys.symm⟩

theorem versioned_iff : a.Versioned ↔ a.parsedVersion.isOk = true := by
  rw [Versioned]
  cases a.parsedVersion with
  | ok version => exact iff_of_true ⟨version, rfl⟩ rfl
  | error refusal => exact iff_of_false (by simp) (by simp [Except.isOk, Except.toBool])

instance (m : Module) : Decidable m.Versioned :=
  decidable_of_iff _ versioned_iff.symm

theorem refused_of_not_versioned (unreadable : ¬ a.Versioned) :
    ∃ refusal, a.parsedVersion = .error refusal := by
  cases told : a.parsedVersion with
  | ok version => exact absurd ⟨version, told⟩ unreadable
  | error refusal => exact ⟨refusal, rfl⟩

theorem versionKey_eq {version : Version} (told : a.parsedVersion = .ok version) :
    a.versionKey = version.key := by
  rw [versionKey, told]

theorem mayPrecede_iff : a.mayPrecede b = true ↔ b.versionKey ≤ a.versionKey := by
  simp [mayPrecede]

theorem mayPrecede_trans (a b c : Module) (first : a.mayPrecede b = true)
    (second : b.mayPrecede c = true) : a.mayPrecede c = true :=
  mayPrecede_iff.mpr ((mayPrecede_iff.mp second).trans (mayPrecede_iff.mp first))

theorem mayPrecede_total (a b : Module) : (a.mayPrecede b || b.mayPrecede a) = true := by
  rw [Bool.or_eq_true, mayPrecede_iff, mayPrecede_iff]
  exact le_total _ _

/-- Modules that may stand in either order have equal versions. -/
theorem sameVersion_of_mayPrecede (versioned : a.Versioned) (versioned' : b.Versioned)
    (before : a.mayPrecede b = true) (after : b.mayPrecede a = true) : a.SameVersion b := by
  obtain ⟨v, told⟩ := versioned
  obtain ⟨w, told'⟩ := versioned'
  have same := le_antisymm (mayPrecede_iff.mp after) (mayPrecede_iff.mp before)
  rw [versionKey_eq told, versionKey_eq told'] at same
  exact ⟨v, w, told, told', same⟩

end Module

namespace Registry

variable {registry after after' : Registry} {modules modules' sorted : List Module} {m : Module}
  {id : String}

/-! ## The place of an id -/

/-- The registry with other modules of one id. -/
def place (registry : Registry) (id : String) (versions : List Module) : Registry :=
  ⟨Fields.put id versions registry.entries⟩

theorem candidates_place {other : String} {versions : List Module} :
    (registry.place id versions).candidates other =
      if id = other then versions else registry.candidates other := by
  rw [candidates, place, Fields.get?_put]
  split
  case isTrue => rfl
  case isFalse => rfl

theorem contains_place {other : String} {versions : List Module} :
    (registry.place id versions).contains other = (decide (id = other) || registry.contains other) := by
  rw [contains, Fields.has, place, Fields.get?_put]
  by_cases same : id = other
  · simp [same]
  · simp [same, contains, Fields.has]

theorem ids_place {versions : List Module} : (registry.place id versions).ids =
    if id ∈ registry.ids then registry.ids else registry.ids ++ [id] := by
  rw [ids, place]
  by_cases known : id ∈ registry.ids
  · rw [if_pos known, Fields.keys_put_of_mem known, ids]
  · rw [if_neg known, Fields.put_of_not_mem known, Fields.keys, List.map_append]
    rfl

/-- When an id has one module more, there is one module more in all. -/
theorem modules_place_perm {versions : List Module}
    (more : versions.Perm (registry.candidates id ++ [m])) :
    ((registry.place id versions).modules).Perm (registry.modules ++ [m]) := by
  have put_perm (entries : Fields (List Module))
      (held : versions.Perm ((Fields.get? id entries).getD [] ++ [m])) :
      ((Fields.put id versions entries).flatMap Prod.snd).Perm
        (entries.flatMap Prod.snd ++ [m]) := by
    induction entries with
    | nil => simpa [Fields.put] using held
    | cons entry rest ih =>
      rw [Fields.get?_cons] at held
      rw [Fields.put]
      split
      case isTrue same =>
        rw [if_pos same, Option.getD_some] at held
        rw [List.flatMap_cons, List.flatMap_cons]
        refine (held.append_right _).trans ?_
        rw [List.append_assoc, List.append_assoc]
        exact List.perm_append_comm.append_left _
      case isFalse apart =>
        rw [if_neg apart] at held
        rw [List.flatMap_cons, List.flatMap_cons, List.append_assoc]
        exact (ih held).append_left _
  exact put_perm registry.entries more

/-! ## Sorting -/

variable [Version.Casing]

theorem mapM_versioned (readable : ∀ m ∈ modules, m.Versioned) :
    ∃ pairs, modules.mapM versioned = .ok pairs ∧ pairs.map Prod.snd = modules ∧
      ∀ pair ∈ pairs, pair.2.parsedVersion = .ok pair.1 := by
  induction modules with
  | nil => exact ⟨[], rfl, rfl, by simp⟩
  | cons m rest ih =>
    obtain ⟨version, told⟩ := readable m List.mem_cons_self
    obtain ⟨pairs, paired, seconds, keyed⟩ := ih fun n later => readable n (List.mem_cons_of_mem _ later)
    have first : versioned m = .ok (version, m) := by rw [versioned, told]
    refine ⟨(version, m) :: pairs, ?_, by rw [List.map_cons, seconds], ?_⟩
    · rw [List.mapM_cons, first, paired]
      rfl
    · rintro pair held
      rcases List.mem_cons.mp held with rfl | later
      · exact told
      · exact keyed pair later

/-- Modules whose versions can be read are sorted by these. -/
theorem descending_of_versioned (readable : ∀ m ∈ modules, m.Versioned) :
    descending modules = .ok (modules.mergeSort Module.mayPrecede) := by
  obtain ⟨pairs, paired, seconds, keyed⟩ := mapM_versioned readable
  rw [descending, paired]
  dsimp only
  rw [List.map_mergeSort (s := Module.mayPrecede), seconds]
  intro a first b second
  rw [Module.mayPrecede, Module.versionKey_eq (keyed a first), Module.versionKey_eq (keyed b second)]
  rfl

/-- A version that cannot be read is what the sorting fails with. -/
theorem descending_of_refused {refusal : Version.Refusal} (readable : ∀ n ∈ modules, n.Versioned)
    (refused : m.parsedVersion = .error refusal) :
    descending (modules ++ [m]) = .error (.version refusal) := by
  obtain ⟨pairs, paired, -⟩ := mapM_versioned readable
  have last : versioned m = .error (.version refusal) := by rw [versioned, refused]
  rw [descending, List.mapM_append, paired, List.mapM_cons, last]
  rfl

/-! ## One addition -/

/-- The modules of every id stand in the order in which additions leave them, and all their versions can
be read. -/
structure Sound (registry : Registry) : Prop where
  versioned : ∀ id, ∀ m ∈ registry.candidates id, m.Versioned
  ordered : ∀ id, (registry.candidates id).Pairwise fun a b => a.mayPrecede b = true

theorem sound_empty : empty.Sound :=
  ⟨fun _ _ member => (List.not_mem_nil member).elim, fun _ => .nil⟩

/-- The registry with a module sorted in among those of its id. -/
def insert (registry : Registry) (m : Module) : Registry :=
  ⟨Fields.put m.id ((registry.candidates m.id ++ [m]).mergeSort Module.mayPrecede) registry.entries⟩

theorem candidates_insert : (registry.insert m).candidates id =
    if m.id = id then (registry.candidates id ++ [m]).mergeSort Module.mayPrecede
    else registry.candidates id := by
  refine candidates_place.trans ?_
  by_cases same : m.id = id
  · rw [if_pos same, if_pos same, same]
  · rw [if_neg same, if_neg same]

theorem candidates_insert_perm : ((registry.insert m).candidates id).Perm
    (registry.candidates id ++ [m].filter fun n => n.id = id) := by
  rw [candidates_insert]
  by_cases same : m.id = id
  · simpa [same] using List.mergeSort_perm _ _
  · simp [same]

/-- A module more, wherever it is sorted in. -/
theorem modules_insert_perm : ((registry.insert m).modules).Perm (registry.modules ++ [m]) :=
  modules_place_perm (List.mergeSort_perm _ _)

theorem ids_insert : (registry.insert m).ids =
    if m.id ∈ registry.ids then registry.ids else registry.ids ++ [m.id] :=
  ids_place

theorem Sound.insert (sound : registry.Sound) (versioned : m.Versioned) :
    (registry.insert m).Sound where
  versioned id n candidate := by
    rcases List.mem_append.mp (candidates_insert_perm.mem_iff.mp candidate) with before | isNew
    · exact sound.versioned id n before
    · obtain rfl := List.mem_singleton.mp (List.mem_of_mem_filter isNew)
      exact versioned
  ordered id := by
    rw [candidates_insert]
    split
    case isTrue => exact List.pairwise_mergeSort Module.mayPrecede_trans Module.mayPrecede_total _
    case isFalse => exact sound.ordered id

/-- A module with an id and a version that can be read is sorted in. -/
theorem add_of_sound (sound : registry.Sound) (hasId : m.hasId) (versioned : m.Versioned) :
    registry.add m = (registry.insert m, .ok ()) := by
  have readable : ∀ n ∈ registry.candidates m.id ++ [m], n.Versioned := by
    intro n member
    rcases List.mem_append.mp member with before | isNew
    · exact sound.versioned m.id n before
    · exact List.mem_singleton.mp isNew ▸ versioned
  rw [add, if_pos hasId]
  dsimp only
  rw [descending_of_versioned readable]
  rfl

/-- A module whose version cannot be read is refused. -/
theorem add_of_refused {refusal : Version.Refusal} (sound : registry.Sound) (hasId : m.hasId)
    (refused : m.parsedVersion = .error refusal) :
    (registry.add m).2 = .error (.version refusal) := by
  rw [add, if_pos hasId]
  dsimp only
  rw [descending_of_refused (sound.versioned m.id) refused]

/-! ## Many additions -/

/-- The registry with modules sorted in one after the other. -/
def insertAll (registry : Registry) (modules : List Module) : Registry :=
  modules.foldl insert registry

theorem candidates_insertAll_perm : ((registry.insertAll modules).candidates id).Perm
    (registry.candidates id ++ modules.filter fun m => m.id = id) := by
  induction modules generalizing registry with
  | nil => simp [insertAll]
  | cons m rest ih =>
    refine ih.trans ((candidates_insert_perm.append_right _).trans ?_)
    rw [List.append_assoc, ← List.filter_append, List.singleton_append]

theorem modules_insertAll_perm :
    ((registry.insertAll modules).modules).Perm (registry.modules ++ modules) := by
  induction modules generalizing registry with
  | nil => simp [insertAll]
  | cons m rest ih =>
    refine ih.trans ((modules_insert_perm.append_right _).trans ?_)
    rw [List.append_assoc, List.singleton_append]

theorem Sound.insertAll (sound : registry.Sound) (versioned : ∀ m ∈ modules, m.Versioned) :
    (registry.insertAll modules).Sound := by
  induction modules generalizing registry with
  | nil => exact sound
  | cons m rest ih =>
    exact ih (sound.insert (versioned m List.mem_cons_self))
      fun n later => versioned n (List.mem_cons_of_mem _ later)

/-- Modules with ids and with versions that can be read are all sorted in. -/
theorem addAll_of_sound (sound : registry.Sound)
    (addable : ∀ m ∈ modules, m.hasId = true ∧ m.Versioned) :
    registry.addAll modules = .ok (registry.insertAll modules) := by
  induction modules generalizing registry with
  | nil => rfl
  | cons m rest ih =>
    obtain ⟨hasId, versioned⟩ := addable m List.mem_cons_self
    rw [addAll, add_of_sound sound hasId versioned]
    exact ih (sound.insert versioned) fun n later => addable n (List.mem_cons_of_mem _ later)

theorem addAll_of_refused {refusal : Version.Refusal} (sound : registry.Sound) (hasId : m.hasId)
    (refused : m.parsedVersion = .error refusal) :
    registry.addAll (m :: modules) = .error (.version refusal) := by
  have failed := add_of_refused sound hasId refused
  rw [addAll]
  split
  case h_1 addition =>
    rw [addition] at failed
    cases failed
  case h_2 addition =>
    rw [addition] at failed
    cases failed
    rfl

/-- What was added one after the other had ids, and versions that can be read. -/
theorem addable_of_addAll (sound : registry.Sound) (added : registry.addAll modules = .ok after) :
    ∀ m ∈ modules, m.hasId = true ∧ m.Versioned := by
  induction modules generalizing registry with
  | nil => simp
  | cons m rest ih =>
    by_cases hasId : m.hasId = true
    case neg =>
      rw [addAll, add, if_neg hasId] at added
      cases added
    by_cases versioned : m.Versioned
    case neg =>
      obtain ⟨refusal, refused⟩ := Module.refused_of_not_versioned versioned
      rw [addAll_of_refused sound hasId refused] at added
      cases added
    rw [addAll, add_of_sound sound hasId versioned] at added
    intro n member
    rcases List.mem_cons.mp member with rfl | later
    · exact ⟨hasId, versioned⟩
    · exact ih (sound.insert versioned) added n later

theorem sound_of_ofModules (built : ofModules modules = .ok registry) : registry.Sound := by
  have addable := addable_of_addAll sound_empty built
  rw [ofModules, addAll_of_sound sound_empty addable] at built
  cases built
  exact sound_empty.insertAll fun m member => (addable m member).2

/-- No two modules of one id have equal versions. -/
def Unambiguous (modules : List Module) : Prop :=
  modules.Pairwise fun a b => a.id = b.id → ¬ a.SameVersion b

/-- Of an unambiguous list, no two different modules have one id and equal versions. -/
theorem Unambiguous.eq (unambiguous : Unambiguous modules) {a b : Module} (first : a ∈ modules)
    (second : b ∈ modules) (sameId : a.id = b.id) (sameVersion : a.SameVersion b) : a = b := by
  by_contra differ
  have : Std.Symm fun a b : Module => a.id = b.id → ¬ a.SameVersion b :=
    ⟨fun _ _ unequal sameId sameVersion => unequal sameId.symm sameVersion.symm⟩
  exact unambiguous.forall first second differ sameId sameVersion

/-- The order of the additions does not matter when no two modules of one id have equal versions. -/
theorem candidates_insertAll_of_perm (perm : modules.Perm modules')
    (versioned : ∀ m ∈ modules, m.Versioned) (unambiguous : Unambiguous modules) :
    (empty.insertAll modules).candidates id = (empty.insertAll modules').candidates id := by
  have held : ((empty.insertAll modules).candidates id).Perm (modules.filter fun m => m.id = id) :=
    candidates_insertAll_perm
  have held' : ((empty.insertAll modules').candidates id).Perm (modules'.filter fun m => m.id = id) :=
    candidates_insertAll_perm
  have added {n : Module} (candidate : n ∈ (empty.insertAll modules).candidates id) :
      n ∈ modules ∧ n.id = id := by
    simpa using held.mem_iff.mp candidate
  have same := held.trans ((perm.filter _).trans held'.symm)
  -- Both lists are sorted, and modules that could change places are one module.
  refine List.Perm.eq_of_pairwise ?_ ((sound_empty.insertAll versioned).ordered id)
    ((sound_empty.insertAll fun m member => versioned m (perm.mem_iff.mpr member)).ordered id) same
  intro a b candidate candidate' before after
  obtain ⟨first, firstId⟩ := added candidate
  obtain ⟨second, secondId⟩ := added (same.mem_iff.mpr candidate')
  exact unambiguous.eq first second (firstId.trans secondId.symm)
    (Module.sameVersion_of_mayPrecede (versioned a first) (versioned b second) before after)

end Registry

end Pruning
