import Pruning.Proofs.Registry.Additions
import Pruning.Proofs.Version.Reading
import Pruning.Proofs.Workspace.Reading
import Pruning.Registry.Sources

/-!
# Registries of the manifests below some paths

Manifests that cannot be read, have no readable headers, or declare no id are passed over, so one of them
hides no other manifest (`Registry.ofPaths_outcome`). What is not passed over is a version that cannot be
read: it is met only when the module is sorted in, and one such module leaves no registry at all
(`Registry.ofPaths_outcome_plugins`). Versions of usual length and digits are not among them
(`Version.ofManifest_of_usual`).
-/

namespace Pruning

namespace Workspace

/-- The module of the manifest at a place, if the manifest is read and declares an id. -/
def moduleAt? (w : Workspace) (mark : Nat) (place : List String) : Option Module :=
  match (w.loadModule mark ⟨.root, place⟩).outcome with
  | .ok m => if m.hasId then some m else none
  | .error _ => none

/-- The modules of the manifests at some places, marked with the numbers from `mark` on. -/
def modulesAt (w : Workspace) (mark : Nat) (places : List (List String)) : List Module :=
  (places.zipIdx mark).filterMap fun found => w.moduleAt? found.2 found.1

theorem modulesAt_cons {w : Workspace} {mark : Nat} {place : List String}
    {places : List (List String)} : w.modulesAt mark (place :: places) =
      (w.moduleAt? mark place).toList ++ w.modulesAt (mark + 1) places := by
  rw [modulesAt, List.zipIdx_cons, List.filterMap_cons, modulesAt]
  cases w.moduleAt? mark place <;> rfl

end Workspace

namespace Registry

variable {w : Workspace} {registry : Registry} {mark : Nat} {place : List String}
  {places : List (List String)} {failure : Failure} {m : Module}

section Manifests

theorem isPassedOver_of_isOfManifest (ofManifest : failure.IsOfManifest) :
    isPassedOver failure = true := by
  cases ofManifest <;> rfl

/-! ## One manifest -/

variable [Version.Casing]

theorem addManifest_of_tooLong {path : String}
    (refused : w.nodeOf ⟨.root, place⟩ = .error (.nameTooLong path)) :
    (registry.addManifest w mark ⟨.root, place⟩).outcome = .error (.system (.nameTooLong path)) := by
  rw [addManifest, Workspace.loadModule_of_tooLong refused]
  rfl

theorem addManifest_of_none (inLimits : ¬ w.TooLong ⟨.root, place⟩)
    (nothing : w.moduleAt? mark place = none) :
    (registry.addManifest w mark ⟨.root, place⟩).outcome = .ok registry := by
  rw [Workspace.moduleAt?] at nothing
  cases loading : (w.loadModule mark ⟨.root, place⟩).outcome with
  | error failure =>
    have ofManifest := Workspace.isOfManifest_of_loadModule inLimits loading
    rw [addManifest, loading]
    dsimp only
    rw [if_pos (isPassedOver_of_isOfManifest ofManifest)]
    rfl
  | ok m =>
    have withoutId : ¬ m.hasId = true := by
      intro hasId
      rw [loading] at nothing
      simp [hasId] at nothing
    rw [addManifest, loading]
    dsimp only
    rw [Script.outcome_bind_of_ok _ loading, if_neg withoutId]
    rfl

theorem addManifest_of_some (registry : Registry) (found : w.moduleAt? mark place = some m) :
    m.hasId = true ∧
      (registry.addManifest w mark ⟨.root, place⟩).outcome = registry.addAll [m] := by
  rw [Workspace.moduleAt?] at found
  split at found
  case h_2 => cases found
  case h_1 n loading =>
    split at found
    case isFalse => cases found
    case isTrue hasId =>
      cases found
      refine ⟨hasId, ?_⟩
      rw [addManifest, loading]
      dsimp only
      rw [Script.outcome_bind_of_ok _ loading, if_pos hasId]
      rfl

/-- A manifest is sorted in or passed over, unless its path is too long or the version of its module
cannot be read. -/
theorem addManifest_cases (w : Workspace) (mark : Nat) (place : List String) (sound : registry.Sound) :
    (¬ w.TooLong ⟨.root, place⟩ ∧ (∀ m, w.moduleAt? mark place = some m → m.Versioned) ∧
      (registry.addManifest w mark ⟨.root, place⟩).outcome =
        .ok (registry.insertAll (w.moduleAt? mark place).toList)) ∨
    (∃ path, w.nodeOf ⟨.root, place⟩ = .error (.nameTooLong path) ∧
      (registry.addManifest w mark ⟨.root, place⟩).outcome = .error (.system (.nameTooLong path))) ∨
    (∃ m refusal, w.moduleAt? mark place = some m ∧ m.parsedVersion = .error refusal ∧
      (registry.addManifest w mark ⟨.root, place⟩).outcome = .error (.version refusal)) := by
  by_cases tooLong : w.TooLong ⟨.root, place⟩
  · obtain ⟨path, refused⟩ := tooLong
    exact Or.inr (Or.inl ⟨path, refused, addManifest_of_tooLong refused⟩)
  cases found : w.moduleAt? mark place with
  | none => exact Or.inl ⟨tooLong, by simp, addManifest_of_none tooLong found⟩
  | some m =>
    obtain ⟨hasId, added⟩ := addManifest_of_some registry found
    by_cases versioned : m.Versioned
    · have addable : ∀ n ∈ [m], n.hasId = true ∧ n.Versioned := by
        intro n member
        obtain rfl := List.mem_singleton.mp member
        exact ⟨hasId, versioned⟩
      refine Or.inl ⟨tooLong, ?_, added.trans (addAll_of_sound sound addable)⟩
      rintro n ⟨⟩
      exact versioned
    · obtain ⟨refusal, refused⟩ := Module.refused_of_not_versioned versioned
      exact Or.inr (Or.inr ⟨m, refusal, rfl, refused, added.trans (addAll_of_refused sound hasId refused)⟩)

/-! ## All manifests -/

theorem addManifests_cons :
    registry.addManifests w mark ((place :: places).map fun place => ⟨.root, place⟩) =
      (registry.addManifest w mark ⟨.root, place⟩ >>= fun registry =>
        registry.addManifests w (mark + 1) (places.map fun place => ⟨.root, place⟩)) :=
  rfl

theorem addManifests_cases (w : Workspace) (mark : Nat) (places : List (List String))
    (sound : registry.Sound) :
    ((∀ place ∈ places, ¬ w.TooLong ⟨.root, place⟩) ∧ (∀ m ∈ w.modulesAt mark places, m.Versioned) ∧
      (registry.addManifests w mark (places.map fun place => ⟨.root, place⟩)).outcome =
        .ok (registry.insertAll (w.modulesAt mark places))) ∨
    (∃ place ∈ places, ∃ path, w.nodeOf ⟨.root, place⟩ = .error (.nameTooLong path) ∧
      (registry.addManifests w mark (places.map fun place => ⟨.root, place⟩)).outcome =
        .error (.system (.nameTooLong path))) ∨
    (∃ m ∈ w.modulesAt mark places, ∃ refusal, m.parsedVersion = .error refusal ∧
      (registry.addManifests w mark (places.map fun place => ⟨.root, place⟩)).outcome =
        .error (.version refusal)) := by
  induction places generalizing registry mark with
  | nil => exact Or.inl ⟨by simp, by simp [Workspace.modulesAt], rfl⟩
  | cons place rest ih =>
    rw [addManifests_cons, Workspace.modulesAt_cons]
    rcases addManifest_cases w mark place sound with
      ⟨inLimits, versioned, added⟩ | ⟨path, refused, fails⟩ | ⟨m, refusal, found, refused, fails⟩
    case inr.inl =>
      exact Or.inr (Or.inl
        ⟨place, List.mem_cons_self, path, refused, Script.outcome_bind_of_error _ fails⟩)
    case inr.inr =>
      exact Or.inr (Or.inr ⟨m, by simp [found], refusal, refused, Script.outcome_bind_of_error _ fails⟩)
    have versioned' : ∀ m ∈ (w.moduleAt? mark place).toList, m.Versioned := fun m member =>
      versioned m (Option.mem_toList.mp member)
    rw [Script.outcome_bind_of_ok _ added]
    rcases ih (mark + 1) (sound.insertAll versioned') with
      ⟨inLimitsLater, versionedLater, ends⟩ | ⟨found, later, path, refused, ends⟩ |
        ⟨m, later, refusal, refused, ends⟩
    · refine Or.inl ⟨List.forall_mem_cons.mpr ⟨inLimits, inLimitsLater⟩, ?_, ?_⟩
      · intro m member
        rcases List.mem_append.mp member with first | later
        · exact versioned' m first
        · exact versionedLater m later
      · rw [ends, insertAll, insertAll, insertAll, List.foldl_append]
    · exact Or.inr (Or.inl ⟨found, List.mem_cons_of_mem _ later, path, refused, ends⟩)
    · exact Or.inr (Or.inr ⟨m, List.mem_append_right _ later, refusal, refused, ends⟩)

/-- How a registry of the manifests at some places comes about, or why there is none. -/
inductive Loading (w : Workspace) (mark : Nat) (paths : List Path) (places : List (List String)) :
    Except Failure Registry → Prop
  /-- The registry holds the modules of the manifests that are read and declare an id. -/
  | registered (registry : Registry) (inLimits : ∀ p ∈ paths, ¬ w.TooLong p)
      (walkable : ∀ p ∈ paths, w.Walkable p)
      (foundInLimits : ∀ place ∈ places, ¬ w.TooLong ⟨.root, place⟩)
      (versioned : ∀ m ∈ w.modulesAt mark places, m.Versioned)
      (holds : registry.modules.Perm (w.modulesAt mark places)) :
      Loading w mark paths places (.ok registry)
  /-- A path that is given, or that leads to a manifest, is too long. -/
  | tooLong (p : Path) (path : String) (met : p ∈ paths ∨ ∃ place ∈ places, p = ⟨.root, place⟩)
      (refused : w.nodeOf p = .error (.nameTooLong path)) :
      Loading w mark paths places (.error (.system (.nameTooLong path)))
  /-- A path that is given leads to a folder below which not all folders can be walked. -/
  | unwalkable (p : Path) (complaint : String) (given : p ∈ paths)
      (leads : w.nodeOf p = .ok .folder) (stopped : w.walkFault? p = some complaint) :
      Loading w mark paths places (.error (.system (.unwalkable complaint)))
  /-- The version of one of these modules cannot be read; it is too long or has digits beyond ASCII. -/
  | unversioned (m : Module) (refusal : Version.Refusal) (found : m ∈ w.modulesAt mark places)
      (refused : m.parsedVersion = .error refusal) (unusual : ¬ Version.Usual m.version.toList) :
      Loading w mark paths places (.error (.version refusal))

/-- A registry of paths has one module for each manifest that is read and declares an id. There is no
registry if one of these modules has a version that cannot be read, which no version of usual length with
digits of ASCII is, if a path is too long, or if a folder cannot be walked. -/
theorem ofPaths_outcome (w : Workspace) (mark : Nat) (paths : List Path) :
    ∃ places : List (List String), places.Nodup ∧
      (∀ place, place ∈ places ↔ ∃ p ∈ paths, w.Offers p place) ∧
      Loading w mark paths places (ofPaths w mark paths).outcome := by
  refine ⟨w.manifests paths, w.nodup_manifests paths, fun place => Workspace.mem_manifests, ?_⟩
  rcases w.findManifests_cases paths with ⟨inLimits, walkable, finds⟩ |
    ⟨p, given, path, refused, fails⟩ | ⟨p, given, complaint, leads, stopped, fails⟩
  case inr.inl =>
    rw [ofPaths, Script.outcome_bind_of_error _ fails]
    exact .tooLong p path (Or.inl given) refused
  case inr.inr =>
    rw [ofPaths, Script.outcome_bind_of_error _ fails]
    exact .unwalkable p complaint given leads stopped
  rw [ofPaths, Script.outcome_bind_of_ok _ finds]
  rcases addManifests_cases w mark (w.manifests paths) sound_empty with
    ⟨foundInLimits, versioned, ends⟩ | ⟨place, found, path, refused, ends⟩ |
      ⟨m, found, refusal, refused, ends⟩
  · rw [Script.outcome_bind_of_ok _ ends]
    exact .registered _ inLimits walkable foundInLimits versioned modules_insertAll_perm
  · rw [Script.outcome_bind_of_error _ ends]
    exact .tooLong _ path (Or.inr ⟨place, found, rfl⟩) refused
  · rw [Script.outcome_bind_of_error _ ends]
    exact .unversioned m refusal found refused (Version.unusual_of_refused refused)

end Manifests

section Plugins

attribute [local instance] Version.Casing.ascii

/-- Where the first manifest below the plugins is. -/
def brokenPlace : List String := ["plugins", "broken", "META-INF", "MANIFEST.MF"]

/-- Where the second manifest below the plugins is. -/
def goodPlace : List String := ["plugins", "good", "META-INF", "MANIFEST.MF"]

/-- A folder with two manifests. The digits in the version of the first one are none of ASCII. -/
def plugins : Workspace :=
  { current := []
    folders := [["plugins"], ["plugins", "broken"], ["plugins", "broken", "META-INF"],
      ["plugins", "good"], ["plugins", "good", "META-INF"]]
    files := [
      (brokenPlace, "Bundle-SymbolicName: broken\nBundle-Version: ١.٢\n".toUTF8),
      (goodPlace, "Bundle-SymbolicName: good\nBundle-Version: 1.0\n".toUTF8)]
    stamp := ""
    salt := "" }

theorem manifests_plugins : plugins.manifests [⟨.root, ["plugins"]⟩] = [brokenPlace, goodPlace] := by
  have offered : plugins.offered ⟨.root, ["plugins"]⟩ = [brokenPlace, goodPlace] := by
    decide +kernel
  have sorted : [brokenPlace, goodPlace].Pairwise fun a b => (!decide (b < a)) = true := by
    decide +kernel
  rw [Workspace.manifests, List.flatMap_cons, List.flatMap_nil, List.append_nil, offered,
    List.mergeSort_of_pairwise sorted]
  decide +kernel

/-- The folder is there and both manifests are read and declare an id, but the version of the first one
leaves no registry. -/
theorem ofPaths_outcome_plugins :
    (∃ node, plugins.nodeOf ⟨.root, ["plugins"]⟩ = .ok node) ∧
      (plugins.moduleAt? 0 brokenPlace).map Module.id = some "broken" ∧
      (plugins.moduleAt? 1 goodPlace).map Module.id = some "good" ∧
      (ofPaths plugins 0 [⟨.root, ["plugins"]⟩]).outcome =
        .error (.version (.malformed "١.٢")) := by
  refine ⟨⟨.folder, rfl⟩, by decide +kernel, by decide +kernel, ?_⟩
  have inLimits : ∀ p ∈ [(⟨.root, ["plugins"]⟩ : Path)], ¬ plugins.TooLong p := by
    rintro p member ⟨path, refused⟩
    obtain rfl := List.mem_singleton.mp member
    cases refused
  have walkable : ∀ p ∈ [(⟨.root, ["plugins"]⟩ : Path)], plugins.Walkable p := fun _ _ _ => rfl
  rw [ofPaths, Script.outcome_bind_of_ok _ (Workspace.findManifests_of_walkable inLimits walkable),
    manifests_plugins]
  decide +kernel

end Plugins

end Registry

end Pruning
