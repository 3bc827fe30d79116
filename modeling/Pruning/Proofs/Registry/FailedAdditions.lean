import Pruning.Proofs.Mapping
import Pruning.Proofs.Registry.Ranking
import Pruning.Proofs.Version.Reading

/-!
# Additions that fail

An addition of a module without an id leaves the registry as it was. An addition of a module with an id
enters it first and sorts then, and where a version of that id cannot be read the module stays behind, as
the last of its id (`add_of_hasId`, `add_effect`). After that every addition of the id fails
(`Blocked.refuses`), whatever is added in between (`Blocked.attempts`), while other ids are not affected
(`candidates_attempts_congr`).
-/

namespace Pruning.Registry

section Additions

variable [Version.Casing] {registry other : Registry} {m : Module} {id : String}

/-! ## One addition -/

/-- Modules are sorted, or the version of one of them cannot be read. -/
theorem descending_cases (modules : List Module) :
    ((∀ n ∈ modules, n.Versioned) ∧
      descending modules = .ok (modules.mergeSort Module.mayPrecede)) ∨
    ∃ n ∈ modules, ∃ refusal, n.parsedVersion = .error refusal ∧
      descending modules = .error (.version refusal) := by
  rcases mapM_cases versioned modules with ⟨failure, failed, n, among, met⟩ | ⟨-, each⟩
  · refine Or.inr ⟨n, among, ?_⟩
    rw [versioned] at met
    split at met
    case h_1 => cases met
    case h_2 refusal refused =>
      cases met
      exact ⟨refusal, refused, by rw [descending, failed]⟩
  · have readable : ∀ n ∈ modules, n.Versioned := by
      intro n among
      obtain ⟨pair, paired⟩ := each n among
      rw [versioned] at paired
      split at paired
      case h_1 version told => exact ⟨version, told⟩
      case h_2 => cases paired
    exact Or.inl ⟨readable, descending_of_versioned readable⟩

/-- The modules of an id as an addition leaves them: when they cannot be sorted, in the order they had. -/
def settled (modules : List Module) : List Module :=
  match descending modules with
  | .ok sorted => sorted
  | .error _ => modules

theorem settled_perm (modules : List Module) : (settled modules).Perm modules := by
  rw [settled]
  rcases descending_cases modules with ⟨-, sorted⟩ | ⟨_, -, _, -, failed⟩
  · rw [sorted]
    exact List.mergeSort_perm _ _
  · rw [failed]

/-- The module is entered in either case. -/
theorem add_of_hasId (hasId : m.hasId) : registry.add m =
    (registry.place m.id (settled (registry.candidates m.id ++ [m])),
      (descending (registry.candidates m.id ++ [m])).map fun _ => ()) := by
  rw [add, if_pos hasId, settled]
  dsimp only
  cases descending (registry.candidates m.id ++ [m]) with
  | ok sorted => rfl
  | error failure => rfl

theorem add_of_not_hasId (without : ¬ m.hasId) :
    registry.add m = (registry, .error (.registry (.withoutId m.location))) :=
  if_neg without

theorem candidates_add : (registry.add m).1.candidates id =
    if m.hasId ∧ m.id = id then settled (registry.candidates id ++ [m]) else registry.candidates id := by
  by_cases hasId : m.hasId
  · rw [add_of_hasId hasId, candidates_place]
    by_cases same : m.id = id
    · rw [if_pos same, if_pos ⟨hasId, same⟩, same]
    · rw [if_neg same, if_neg fun both => same both.2]
  · rw [add_of_not_hasId hasId, if_neg fun both => hasId both.1]

/-- How an addition ends depends on the modules of the id alone. -/
theorem add_snd_congr (same : registry.candidates m.id = other.candidates m.id) :
    (registry.add m).2 = (other.add m).2 := by
  by_cases hasId : m.hasId
  · rw [add_of_hasId hasId, add_of_hasId hasId, same]
  · rw [add_of_not_hasId hasId, add_of_not_hasId hasId]

/-! ## Further additions -/

/-- The registry after attempts to add modules, some of which may fail. -/
def attempts (registry : Registry) (modules : List Module) : Registry :=
  modules.foldl (fun registry m => (registry.add m).1) registry

/-- The modules of an id after any attempts depend on the modules of that id alone. -/
theorem candidates_attempts_congr (same : registry.candidates id = other.candidates id)
    (modules : List Module) :
    (registry.attempts modules).candidates id = (other.attempts modules).candidates id := by
  induction modules generalizing registry other with
  | nil => exact same
  | cons m rest ih => exact ih (by rw [candidates_add, candidates_add, same])

/-- A module of the id has a version that cannot be read. -/
def Blocked (registry : Registry) (id : String) : Prop :=
  ∃ n ∈ registry.candidates id, ¬ n.Versioned

theorem Blocked.add (blocked : registry.Blocked id) (m : Module) : (registry.add m).1.Blocked id := by
  obtain ⟨n, held, unreadable⟩ := blocked
  refine ⟨n, ?_, unreadable⟩
  rw [candidates_add]
  split
  case isTrue => exact (settled_perm _).mem_iff.mpr (List.mem_append_left _ held)
  case isFalse => exact held

theorem Blocked.attempts (blocked : registry.Blocked id) (modules : List Module) :
    (registry.attempts modules).Blocked id := by
  induction modules generalizing registry with
  | nil => exact blocked
  | cons m rest ih => exact ih (blocked.add m)

/-- Once a version of an id cannot be read, no addition of that id succeeds. -/
theorem Blocked.refuses (blocked : registry.Blocked m.id) (hasId : m.hasId) :
    ∃ refusal, (registry.add m).2 = .error (.version refusal) := by
  obtain ⟨n, held, unreadable⟩ := blocked
  rw [add_of_hasId hasId]
  rcases descending_cases (registry.candidates m.id ++ [m]) with
    ⟨readable, -⟩ | ⟨_, -, refusal, -, failed⟩
  · exact absurd (readable n (List.mem_append_left _ held)) unreadable
  · exact ⟨refusal, by rw [failed]; rfl⟩

/-! ## What an addition does -/

/-- What a failed addition leaves when it leaves the module behind. -/
structure LeftBehind (registry : Registry) (m : Module) (after : Registry) : Prop where
  /-- The module is the last of its id. -/
  candidates : ∀ id, after.candidates id = registry.candidates id ++ if m.id = id then [m] else []
  /-- The module is what its id stands for if no other one was registered. -/
  resolve : ∀ id, after.resolve id = (registry.resolve id).or (if m.id = id then some m else none)
  contains : ∀ id, after.contains id = (decide (m.id = id) || registry.contains id)
  ids : after.ids = if m.id ∈ registry.ids then registry.ids else registry.ids ++ [m.id]
  size : after.size = registry.size + 1
  /-- Every other module of the id is refused from then on. -/
  refuses : ∀ later n, n.id = m.id →
    ∃ refusal, ((after.attempts later).add n).2 = .error (.version refusal)
  /-- Modules of other ids are added as if nothing had happened. -/
  elsewhere : ∀ later id, id ≠ m.id →
    (after.attempts later).candidates id = (registry.attempts later).candidates id ∧
      ∀ n, n.id = id → ((after.attempts later).add n).2 = ((registry.attempts later).add n).2

theorem leftBehind_place (hasId : m.hasId)
    (unreadable : ∃ n ∈ registry.candidates m.id ++ [m], ¬ n.Versioned) :
    LeftBehind registry m (registry.place m.id (registry.candidates m.id ++ [m])) := by
  have entered (id : String) :
      (registry.place m.id (registry.candidates m.id ++ [m])).candidates id =
        registry.candidates id ++ if m.id = id then [m] else [] := by
    rw [candidates_place]
    by_cases same : m.id = id
    · rw [if_pos same, if_pos same, same]
    · rw [if_neg same, if_neg same, List.append_nil]
  refine
    { candidates := entered
      resolve := fun id => ?_
      contains := fun id => contains_place
      ids := ids_place
      size := (modules_place_perm (.refl _)).length_eq.trans List.length_append
      refuses := fun later n same => ?_
      elsewhere := fun later id apart => ?_ }
  · rw [resolve, entered, List.head?_append]
    split
    · rfl
    · rfl
  · have blocked : (registry.place m.id (registry.candidates m.id ++ [m])).Blocked n.id := by
      rw [Blocked, entered, same, if_pos rfl]
      exact unreadable
    exact (blocked.attempts later).refuses (by rwa [Module.hasId, same])
  · have same := entered id
    rw [if_neg apart.symm, List.append_nil] at same
    have untouched := candidates_attempts_congr same later
    refine ⟨untouched, ?_⟩
    rintro n rfl
    exact add_snd_congr untouched

/-- The registry after an addition, and how the addition ends. -/
inductive Addition (registry : Registry) (m : Module) : Registry × Except Failure Unit → Prop
  /-- The module and those of its id have versions that can be read, and it is sorted in. -/
  | registered (hasId : m.hasId)
      (readable : ∀ n ∈ registry.candidates m.id ++ [m], n.Versioned) :
      Addition registry m (registry.insert m, .ok ())
  /-- A module without an id changes nothing. -/
  | withoutId (missing : ¬ m.hasId) :
      Addition registry m (registry, .error (.registry (.withoutId m.location)))
  /-- The version of the module, or of one of its id, cannot be read. -/
  | leftBehind (hasId : m.hasId) (n : Module) (among : n ∈ registry.candidates m.id ++ [m])
      (refusal : Version.Refusal) (refused : n.parsedVersion = .error refusal)
      (unusual : ¬ Version.Usual n.version.toList)
      (after : Registry) (left : LeftBehind registry m after) :
      Addition registry m (after, .error (.version refusal))

/-- An addition registers the module, or changes nothing when it has no id. When a version of its id cannot be
read, which no version of usual length with digits of ASCII is, the addition fails and leaves the module
behind. -/
theorem add_effect (registry : Registry) (m : Module) : Addition registry m (registry.add m) := by
  by_cases hasId : m.hasId
  case neg =>
    rw [add_of_not_hasId hasId]
    exact .withoutId hasId
  rw [add_of_hasId hasId, settled]
  rcases descending_cases (registry.candidates m.id ++ [m]) with
    ⟨readable, sorted⟩ | ⟨n, among, refusal, refused, failed⟩
  · rw [sorted]
    exact .registered hasId readable
  · have unreadable : ¬ n.Versioned := by
      rintro ⟨version, told⟩
      rw [refused] at told
      cases told
    rw [failed]
    exact .leftBehind hasId n among refusal refused (Version.unusual_of_refused refused) _
      (leftBehind_place hasId ⟨n, among, unreadable⟩)

end Additions

section Library

attribute [local instance] Version.Casing.ascii

/-- A registry with one release of a library. -/
def library : Registry :=
  ⟨[("library", [release 0 "library" "1.0"])]⟩

/-- A release of the library. The digits of its version are none of ASCII. -/
def unread : Module :=
  release 1 "library" "١.٢"

/-- The release is refused, but the library has it afterwards, and a release that could be added before is
refused from then on. -/
theorem add_effect_library :
    ofModules [release 0 "library" "1.0"] = .ok library ∧
      (library.add unread).2 = .error (.version (.malformed "١.٢")) ∧
      library.candidates "library" = [release 0 "library" "1.0"] ∧ library.size = 1 ∧
      (library.add unread).1.candidates "library" = [release 0 "library" "1.0", unread] ∧
      (library.add unread).1.size = 2 ∧
      (library.add (release 2 "library" "2.0")).2 = .ok () ∧
      ((library.add unread).1.add (release 2 "library" "2.0")).2 =
        .error (.version (.malformed "١.٢")) := by
  decide +kernel

end Library

end Pruning.Registry
