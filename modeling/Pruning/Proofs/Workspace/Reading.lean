import Mathlib.Data.List.Pairwise
import Pruning.Proofs.Script
import Pruning.Workspace.Reading

/-!
# What reading a workspace can fail with

The failure to load a manifest is about this manifest, whatever its bytes are, unless the system refuses
to follow its path (`Workspace.isOfManifest_of_loadModule`). The manifests below some paths are found once
each (`Workspace.mem_manifests`, `Workspace.nodup_manifests`), if the system follows all these paths and
walks the folders below them (`Workspace.findManifests_cases`).
-/

namespace Pruning

/-- Wrong bytes of UTF-8 have a place. -/
theorem Text.hasPlace_of_utf8Fault {position : Nat} {bytes : List UInt8} {fault : Text.DecodeFault}
    (found : Text.utf8Fault position bytes = some fault) : fault.hasPlace = true := by
  fun_induction Text.utf8Fault position bytes <;> grind [Text.DecodeFault.hasPlace]

/-- Bytes that are no UTF-8 are refused at a place. -/
theorem Text.hasPlace_of_utf8Text {bytes : ByteArray} {fault : Text.DecodeFault}
    (refused : Text.utf8Text bytes = .error fault) : fault.hasPlace = true := by
  rw [utf8Text] at refused
  split at refused
  case h_1 => cases refused
  case h_2 =>
    cases found : utf8Fault 0 bytes.toList with
    | none =>
      rw [found] at refused
      cases refused
      rfl
    | some first =>
      rw [found] at refused
      cases refused
      exact hasPlace_of_utf8Fault found

/-- Whether a failure is about a manifest itself: the file, its bytes, or its headers. -/
inductive Failure.IsOfManifest : Failure → Prop
  | file (fault : FileFault) : IsOfManifest (.file fault)
  | manifest (refusal : Manifest.Refusal) : IsOfManifest (.manifest refusal)

namespace Workspace

variable {w : Workspace} {p : Path} {path : String} {mark : Nat} {failure : Failure}

/-- The system refuses to follow a path, because it is too long or has a name that is. -/
def TooLong (w : Workspace) (p : Path) : Prop :=
  ∃ path, w.nodeOf p = .error (.nameTooLong path)

theorem node?_of_tooLong (refused : w.nodeOf p = .error (.nameTooLong path)) :
    w.node? p = .error (.system (.nameTooLong path)) := by
  rw [node?, refused]

theorem node?_of_not_tooLong (inLimits : ¬ w.TooLong p) : ∃ node?, w.node? p = .ok node? := by
  rw [node?]
  split
  case h_1 node _ => exact ⟨some node, rfl⟩
  case h_2 path refused => exact absurd ⟨path, refused⟩ inLimits
  case h_3 => exact ⟨none, rfl⟩

theorem isOfManifest_of_bytesOf {limit : Option Nat} (inLimits : ¬ w.TooLong p)
    (fails : w.bytesOf p limit = .error failure) : failure.IsOfManifest := by
  obtain ⟨node?, led⟩ := node?_of_not_tooLong inLimits
  rw [bytesOf, led] at fails
  cases node? with
  | none =>
    cases fails
    exact .file _
  | some node =>
    cases node with
    | folder =>
      cases fails
      exact .file _
    | file content =>
      cases limit with
      | none => cases fails
      | some limit =>
        by_cases large : limit < content.size
        · simp only [bind, Except.bind, if_pos large] at fails
          cases fails
          exact .file _
        · simp only [bind, Except.bind, if_neg large] at fails
          cases fails

theorem isOfManifest_of_textOf {content : ByteArray}
    (fails : textOf p .utf8 content = .error failure) : failure.IsOfManifest := by
  cases decoded : Text.utf8Text content with
  | ok text =>
    rw [textOf, Text.decode, decoded] at fails
    cases fails
  | error fault =>
    have refused : textOf p .utf8 content = .error (.file (.unreadable p fault.message)) := by
      rw [textOf, Text.decode, decoded]
      exact congrArg Except.error (if_pos (Text.hasPlace_of_utf8Text decoded))
    cases refused.symm.trans fails
    exact .file _

theorem isOfManifest_of_readText (inLimits : ¬ w.TooLong p)
    (fails : w.readText p = .error failure) : failure.IsOfManifest := by
  cases found : w.bytesOf p (some maxFileSize) with
  | error cause =>
    rw [readText, read, found] at fails
    cases fails
    exact isOfManifest_of_bytesOf inLimits found
  | ok file =>
    rw [readText, read, found] at fails
    exact isOfManifest_of_textOf fails

theorem isOfManifest_of_mapError {α : Type} {result : Except Manifest.Refusal α}
    {refused : Manifest.Refusal → Manifest.Refusal}
    (fails : result.mapError (fun refusal => Failure.manifest (refused refusal)) = .error failure) :
    failure.IsOfManifest := by
  cases result with
  | ok a => cases fails
  | error refusal =>
    cases fails
    exact .manifest _

/-- A manifest whose path can be followed is loaded, or there is something wrong with it. -/
theorem isOfManifest_of_loadModule (inLimits : ¬ w.TooLong p)
    (fails : (w.loadModule mark p).outcome = .error failure) : failure.IsOfManifest := by
  rcases Script.failure_of_bind fails with unread | ⟨text, -, fails⟩
  · exact isOfManifest_of_readText inLimits unread
  rcases Script.failure_of_bind fails with unread | ⟨headers, -, fails⟩
  · exact isOfManifest_of_mapError unread
  rcases Script.failure_of_bind fails with unread | ⟨m, -, fails⟩
  · exact isOfManifest_of_mapError unread
  cases fails

theorem loadModule_of_tooLong (refused : w.nodeOf p = .error (.nameTooLong path)) :
    (w.loadModule mark p).outcome = .error (.system (.nameTooLong path)) := by
  have unread : w.readText p = .error (.system (.nameTooLong path)) := by
    rw [readText, read, bytesOf, node?_of_tooLong refused]
    rfl
  have reading : (Script.ofOutcome (w.readText p)).outcome = .error (.system (.nameTooLong path)) :=
    unread
  exact Script.outcome_bind_of_error _ reading

/-- What a module was loaded from is a file. -/
theorem file_of_loadModule {m : Module} (loaded : (w.loadModule mark p).outcome = .ok m) :
    ∃ content, w.nodeOf p = .ok (.file content) := by
  obtain ⟨text, read, -⟩ := Script.answer_of_bind loaded
  change w.readText p = .ok text at read
  cases led : w.nodeOf p with
  | ok node =>
    cases node with
    | file content => exact ⟨content, rfl⟩
    | folder =>
      rw [readText, Workspace.read, bytesOf, node?, led] at read
      cases read
  | error fault =>
    rw [readText, Workspace.read, bytesOf, node?, led] at read
    cases fault <;> cases read

/-! ## Finding manifests -/

/-- A path of a registry stands for a place: it leads to the file there, or to a folder above, and the
place is that of the manifest of a module folder. -/
inductive Offers (w : Workspace) (p : Path) (place : List String) : Prop
  | file (content : ByteArray) (leads : w.nodeOf p = .ok (.file content))
      (named : place = (w.resolve p).parts)
  | below (content : ByteArray) (between : List String) (leads : w.nodeOf p = .ok .folder)
      (held : (place, content) ∈ w.files)
      (named : place = (w.resolve p).parts ++ between ++ manifestNames)

/-- The places that a path of a registry stands for. -/
def offered (w : Workspace) (p : Path) : List (List String) :=
  match w.nodeOf p with
  | .ok (.file _) => [(w.resolve p).parts]
  | .ok .folder => (w.files.map Prod.fst).filter (isManifestBelow (w.resolve p).parts)
  | .error _ => []

theorem isManifestBelow_iff {folder place : List String} :
    isManifestBelow folder place = true ↔ ∃ between, place = folder ++ between ++ manifestNames := by
  rw [isManifestBelow, Bool.and_eq_true, List.isPrefixOf_iff_prefix, List.isSuffixOf_iff_suffix]
  constructor
  · rintro ⟨⟨rest, rfl⟩, between, split⟩
    rw [List.drop_left] at split
    exact ⟨between, by rw [List.append_assoc, split]⟩
  · rintro ⟨between, rfl⟩
    rw [List.append_assoc, List.drop_left]
    exact ⟨List.prefix_append _ _, List.suffix_append _ _⟩

theorem mem_offered {place : List String} : place ∈ w.offered p ↔ w.Offers p place := by
  rw [offered]
  constructor
  · intro member
    split at member
    case h_1 content leads => exact .file content leads (List.mem_singleton.mp member)
    case h_2 leads =>
      obtain ⟨listed, below⟩ := List.mem_filter.mp member
      obtain ⟨⟨_, content⟩, held, rfl⟩ := List.mem_map.mp listed
      obtain ⟨between, named⟩ := isManifestBelow_iff.mp below
      exact .below content between leads held named
    case h_3 => cases member
  · rintro (⟨content, leads, named⟩ | ⟨content, between, leads, held, named⟩)
    · rw [leads]
      exact List.mem_singleton.mpr named
    · rw [leads]
      exact List.mem_filter.mpr
        ⟨List.mem_map.mpr ⟨_, held, rfl⟩, isManifestBelow_iff.mpr ⟨between, named⟩⟩

/-- If a path leads to a folder, all folders below it can be walked. -/
def Walkable (w : Workspace) (p : Path) : Prop :=
  w.nodeOf p = .ok .folder → w.walkFault? p = none

theorem manifestsOf_of_walkable (inLimits : ¬ w.TooLong p) (walkable : w.Walkable p) :
    (w.manifestsOf p).outcome = .ok (w.offered p) := by
  rw [manifestsOf, offered, node?]
  cases leads : w.nodeOf p with
  | ok node =>
    cases node with
    | folder =>
      dsimp only
      rw [walkable leads]
      rfl
    | file content => rfl
  | error fault =>
    cases fault with
    | nameTooLong path => exact absurd ⟨path, leads⟩ inLimits
    | _ => rfl

theorem manifestsOf_of_tooLong (refused : w.nodeOf p = .error (.nameTooLong path)) :
    (w.manifestsOf p).outcome = .error (.system (.nameTooLong path)) := by
  have looking : (Script.ofOutcome (w.node? p)).outcome = .error (.system (.nameTooLong path)) :=
    node?_of_tooLong refused
  exact Script.outcome_bind_of_error _ looking

theorem manifestsOf_of_unwalkable {complaint : String} (leads : w.nodeOf p = .ok .folder)
    (stopped : w.walkFault? p = some complaint) :
    (w.manifestsOf p).outcome = .error (.system (.unwalkable complaint)) := by
  rw [manifestsOf, node?, leads]
  dsimp only
  rw [stopped]
  rfl

theorem manifestsOf_cases (w : Workspace) (p : Path) :
    (¬ w.TooLong p ∧ w.Walkable p ∧ (w.manifestsOf p).outcome = .ok (w.offered p)) ∨
    (∃ path, w.nodeOf p = .error (.nameTooLong path) ∧
      (w.manifestsOf p).outcome = .error (.system (.nameTooLong path))) ∨
    (∃ complaint, w.nodeOf p = .ok .folder ∧ w.walkFault? p = some complaint ∧
      (w.manifestsOf p).outcome = .error (.system (.unwalkable complaint))) := by
  by_cases tooLong : w.TooLong p
  · obtain ⟨path, refused⟩ := tooLong
    exact Or.inr (Or.inl ⟨path, refused, manifestsOf_of_tooLong refused⟩)
  by_cases walkable : w.Walkable p
  · exact Or.inl ⟨tooLong, walkable, manifestsOf_of_walkable tooLong walkable⟩
  · rw [Walkable, Classical.not_imp] at walkable
    obtain ⟨leads, stops⟩ := walkable
    obtain ⟨complaint, stopped⟩ := Option.ne_none_iff_exists'.mp stops
    exact Or.inr (Or.inr ⟨complaint, leads, stopped, manifestsOf_of_unwalkable leads stopped⟩)

/-! ## Without repetitions -/

theorem eraseRepsBy_loop (a : List String) (rest seen : List (List String)) :
    List.eraseRepsBy.loop (· == ·) a rest seen = seen.reverse ++ (a :: rest).eraseReps := by
  rw [List.eraseReps, List.eraseRepsBy]
  induction rest generalizing a seen with
  | nil => simp [List.eraseRepsBy.loop]
  | cons b rest ih =>
    rw [List.eraseRepsBy.loop, List.eraseRepsBy.loop]
    cases a == b with
    | true => exact ih a seen
    | false =>
      dsimp only
      rw [ih b (a :: seen), ih b [a], List.reverse_cons, List.append_assoc]
      rfl

theorem eraseReps_cons_cons (a b : List String) (rest : List (List String)) :
    (a :: b :: rest).eraseReps =
      if a = b then (b :: rest).eraseReps else a :: (b :: rest).eraseReps := by
  rw [List.eraseReps, List.eraseRepsBy, List.eraseRepsBy.loop]
  by_cases same : a = b
  · subst same
    rw [beq_self_eq_true, if_pos rfl]
    exact eraseRepsBy_loop a rest []
  · rw [beq_false_of_ne same, if_neg same]
    exact eraseRepsBy_loop b rest [a]

theorem mem_eraseReps {place : List String} {places : List (List String)} :
    place ∈ places.eraseReps ↔ place ∈ places := by
  induction places with
  | nil => exact Iff.rfl
  | cons a rest ih =>
    cases rest with
    | nil => exact Iff.rfl
    | cons b rest =>
      rw [eraseReps_cons_cons]
      split
      case isTrue same => simp [ih, same]
      case isFalse => rw [List.mem_cons, ih, ← List.mem_cons]

/-- In a sorted list equal places stand side by side. -/
theorem nodup_eraseReps {places : List (List String)}
    (sorted : places.Pairwise fun a b => ¬ b < a) : places.eraseReps.Nodup := by
  induction places with
  | nil => exact List.nodup_nil
  | cons a rest ih =>
    cases rest with
    | nil => exact List.pairwise_singleton _ a
    | cons b rest =>
      obtain ⟨first, sorted'⟩ := List.pairwise_cons.mp sorted
      have least := (List.pairwise_cons.mp sorted').1
      rw [eraseReps_cons_cons]
      split
      case isTrue => exact ih sorted'
      case isFalse differ =>
        refine List.nodup_cons.mpr ⟨fun again => ?_, ih sorted'⟩
        rcases List.mem_cons.mp (mem_eraseReps.mp again) with same | later
        · exact differ same
        · exact differ (List.le_antisymm (List.not_lt.mp (first b List.mem_cons_self))
            (List.not_lt.mp (least a later)))

/-! ## All places -/

/-- The places that some paths stand for, in ascending order. -/
def manifests (w : Workspace) (paths : List Path) : List (List String) :=
  ((paths.flatMap w.offered).mergeSort fun a b => !decide (b < a)).eraseReps

theorem mem_manifests {paths : List Path} {place : List String} :
    place ∈ w.manifests paths ↔ ∃ p ∈ paths, w.Offers p place := by
  rw [manifests, mem_eraseReps, (List.mergeSort_perm _ _).mem_iff, List.mem_flatMap]
  simp only [mem_offered]

theorem nodup_manifests (w : Workspace) (paths : List Path) : (w.manifests paths).Nodup := by
  have inOrder (a b : List String) : (!decide (b < a)) = true ↔ ¬ b < a := by
    rw [Bool.not_eq_true', decide_eq_false_iff_not]
  refine nodup_eraseReps ((List.pairwise_mergeSort ?_ ?_ _).imp fun {a b} => (inOrder a b).mp)
  · intro a b c first second
    rw [inOrder, List.not_lt] at first second ⊢
    exact List.le_trans first second
  · intro a b
    rw [Bool.or_eq_true, inOrder, inOrder, List.not_lt, List.not_lt]
    exact List.le_total a b

theorem findManifests_of_walkable {paths : List Path} (inLimits : ∀ p ∈ paths, ¬ w.TooLong p)
    (walkable : ∀ p ∈ paths, w.Walkable p) :
    (w.findManifests paths).outcome =
      .ok ((w.manifests paths).map fun place => ⟨.root, place⟩) := by
  have collected := Script.outcome_flatMapM_of_ok fun p member =>
    manifestsOf_of_walkable (inLimits p member) (walkable p member)
  exact Script.outcome_bind_of_ok _ collected

/-- The manifests below some paths are found, or one of the paths is too long, or there is one below which
not all folders can be walked. -/
theorem findManifests_cases (w : Workspace) (paths : List Path) :
    ((∀ p ∈ paths, ¬ w.TooLong p) ∧ (∀ p ∈ paths, w.Walkable p) ∧
      (w.findManifests paths).outcome =
        .ok ((w.manifests paths).map fun place => ⟨.root, place⟩)) ∨
    (∃ p ∈ paths, ∃ path, w.nodeOf p = .error (.nameTooLong path) ∧
      (w.findManifests paths).outcome = .error (.system (.nameTooLong path))) ∨
    (∃ p ∈ paths, ∃ complaint, w.nodeOf p = .ok .folder ∧ w.walkFault? p = some complaint ∧
      (w.findManifests paths).outcome = .error (.system (.unwalkable complaint))) := by
  by_cases fails : ∃ p ∈ paths, ∃ failure, (w.manifestsOf p).outcome = .error failure
  · obtain ⟨p, given, failure, fails, ends⟩ := Script.outcome_flatMapM_of_error fails
    rcases w.manifestsOf_cases p with
      ⟨-, -, succeeds⟩ | ⟨path, refused, stops⟩ | ⟨complaint, leads, stopped, stops⟩
    · rw [succeeds] at fails
      cases fails
    · obtain rfl := Except.error.inj (stops.symm.trans fails)
      exact Or.inr (Or.inl ⟨p, given, path, refused, Script.outcome_bind_of_error _ ends⟩)
    · obtain rfl := Except.error.inj (stops.symm.trans fails)
      exact Or.inr (Or.inr
        ⟨p, given, complaint, leads, stopped, Script.outcome_bind_of_error _ ends⟩)
  · have each (p : Path) (given : p ∈ paths) : ¬ w.TooLong p ∧ w.Walkable p := by
      rcases w.manifestsOf_cases p with
        ⟨inLimits, walkable, -⟩ | ⟨_, -, stops⟩ | ⟨_, -, -, stops⟩
      · exact ⟨inLimits, walkable⟩
      · exact absurd ⟨p, given, _, stops⟩ fails
      · exact absurd ⟨p, given, _, stops⟩ fails
    have inLimits (p : Path) (given : p ∈ paths) : ¬ w.TooLong p := (each p given).1
    have walkable (p : Path) (given : p ∈ paths) : w.Walkable p := (each p given).2
    exact Or.inl ⟨inLimits, walkable, findManifests_of_walkable inLimits walkable⟩

end Workspace

end Pruning
