import Pruning.Proofs.Filing
import Pruning.Proofs.Path
import Pruning.Workspace.Writing

/-!
# What writing a file leaves behind

Over a file that is there, writing finds every folder in place, so only the file itself changes
(`Workspace.Writable.result_write`), and one text can be written exactly if every text can
(`Workspace.writable_of_write`). A copy to a path that leads nowhere yet adds one file or fails without a
trace (`Workspace.copy_cases`); the backup of a file is such a copy, and it is found again under the path it
was given (`Workspace.parse_text_backupOf`), in the folder of the file (`Workspace.place_backupOf`).
-/

namespace Pruning.Workspace

variable {w w' : Workspace} {p target : Path} {place start folder beside : List String}
  {names : List String} {name path path' : String} {content : ByteArray}

/-! ## Files at places -/

theorem find?_putFile (files : List (List String × ByteArray)) (q : List String) :
    ((putFile place content files).find? fun file => file.1 = q).map Prod.snd =
      if q = place then some content else (files.find? fun file => file.1 = q).map Prod.snd := by
  induction files with
  | nil => by_cases same : q = place <;> simp [putFile, same, eq_comm]
  | cons file rest ih =>
    rw [putFile]
    by_cases here : file.1 = place
    · by_cases same : q = place
      · simp [here, same]
      · have differs : ¬ place = q := fun equal => same equal.symm
        simp [here, same, differs]
    · rw [if_neg here, List.find?_cons, List.find?_cons]
      by_cases found : file.1 = q
      · have differs : ¬ q = place := fun equal => here (found.trans equal)
        simp [found, differs]
      · simpa [found] using ih

theorem fileAt?_withFile (q : List String) :
    (w.withFile place content).fileAt? q = if q = place then some content else w.fileAt? q :=
  find?_putFile w.files q

theorem nodeAt?_withFile (q : List String) :
    (w.withFile place content).nodeAt? q =
      if q = place then some (.file content) else w.nodeAt? q := by
  rw [nodeAt?, fileAt?_withFile]
  by_cases same : q = place
  · rw [if_pos same, if_pos same]
  · rw [if_neg same, if_neg same]
    rfl

theorem nodeAt?_eq_file (found : w.nodeAt? place = some (.file content)) :
    w.fileAt? place = some content := by
  rw [nodeAt?] at found
  split at found
  case h_1 bytes held =>
    cases found
    exact held
  case h_2 => split at found <;> cases found

/-! ## Following names -/

/-- Names lead to the same place in a workspace that has the same folders at least. -/
theorem walk_of_walk (kept : ∀ q, w.nodeAt? q = some .folder → w'.nodeAt? q = some .folder)
    (led : w.walk path start names = .ok place) : w'.walk path' start names = .ok place := by
  induction names generalizing start with
  | nil => exact led
  | cons name rest ih =>
    rw [walk] at led ⊢
    split at led
    case h_1 => cases led
    case h_2 => cases led
    case h_3 isFolder =>
      rw [kept start isFolder]
      dsimp only
      split at led
      case isTrue => cases led
      case isFalse short =>
        rw [if_neg short]
        split at led
        case isTrue up =>
          rw [if_pos up]
          exact ih led
        case isFalse down =>
          rw [if_neg down]
          exact ih led

theorem walk_append (names others : List String) : w.walk path start (names ++ others) =
    (w.walk path start names).bind fun place => w.walk path place others := by
  induction names generalizing start with
  | nil => rfl
  | cons name rest ih =>
    rw [List.cons_append, walk, walk]
    split
    case h_1 => rfl
    case h_2 => rfl
    case h_3 =>
      split
      case isTrue => rfl
      case isFalse =>
        split
        case isTrue => exact ih
        case isFalse => exact ih

/-- The last of some names is followed from a folder. -/
theorem walk_last (led : w.walk path start (names ++ [name]) = .ok place) :
    ∃ folder, w.walk path start names = .ok folder ∧ w.nodeAt? folder = some .folder ∧
      (name = ".." ∨ place = folder ++ [name]) := by
  rw [walk_append] at led
  cases first : w.walk path start names with
  | error fault =>
    rw [first] at led
    cases led
  | ok folder =>
    rw [first] at led
    change w.walk path folder [name] = .ok place at led
    rw [walk] at led
    split at led
    case h_1 => cases led
    case h_2 => cases led
    case h_3 isFolder =>
      refine ⟨folder, rfl, isFolder, ?_⟩
      split at led
      case isTrue => cases led
      case isFalse =>
        split at led
        case isTrue up => exact Or.inl up
        case isFalse =>
          cases led
          exact Or.inr rfl

/-- The text of a path can be followed at all. -/
theorem walk_of_placeOf (led : w.placeOf p = .ok place) :
    w.walk p.text (w.startOf p) p.parts = .ok place := by
  rw [placeOf] at led
  split at led
  · cases led
  split at led
  · cases led
  exact led

theorem placeOf_of_walk (kept : ∀ q, w.nodeAt? q = some .folder → w'.nodeAt? q = some .folder)
    (current : w'.current = w.current) (led : w.placeOf p = .ok place) : w'.placeOf p = .ok place := by
  have walked := walk_of_placeOf led
  rw [placeOf] at led ⊢
  split at led
  · cases led
  case isFalse clean =>
  split at led
  · cases led
  case isFalse short =>
  have started : w'.startOf p = w.startOf p := by
    rw [startOf, startOf, current]
  rw [if_neg clean, if_neg short, started]
  exact walk_of_walk kept walked

theorem nodeOf_eq_file (found : w.nodeOf p = .ok (.file content)) :
    ∃ place, w.placeOf p = .ok place ∧ w.nodeAt? place = some (.file content) := by
  rw [nodeOf] at found
  split at found
  case h_1 => cases found
  case h_2 place led =>
    split at found
    case h_1 node here =>
      cases found
      exact ⟨place, led, here⟩
    case h_2 => cases found

/-- Where names lead to a place, only the text of the path can keep it from leading there. -/
theorem placeOf_cases (led : w.walk p.text (w.startOf p) p.parts = .ok place) :
    w.placeOf p = .error .nullInPath ∨ w.placeOf p = .error (.nameTooLong p.text) ∨
      w.placeOf p = .ok place := by
  rw [placeOf]
  split
  · exact Or.inl rfl
  split
  · exact Or.inr (Or.inl rfl)
  · exact Or.inr (Or.inr led)

/-! ## Folders that are there already -/

section Folders

variable (led : w.walk p.text (w.startOf p) p.parts = .ok folder)
  (isFolder : w.nodeAt? folder = some .folder)

include led isFolder

theorem makeFolder_of_folder :
    ∃ fault, w.makeFolder p = .error fault ∧ (∀ path, fault ≠ .missing path) ∧
      ensureFolder p w = (.ofOutcome (((w.placeOf p).mapError Failure.system).map fun _ => ()), w) := by
  rcases placeOf_cases led with refused | refused | led
  · refine ⟨.nullInPath, by rw [makeFolder, refused], nofun, ?_⟩
    rw [ensureFolder, makeFolder, refused]
    simp only [Workspace.isFolder, node?, nodeOf, refused]
    rfl
  · refine ⟨.nameTooLong p.text, by rw [makeFolder, refused], nofun, ?_⟩
    rw [ensureFolder, makeFolder, refused]
    simp only [Workspace.isFolder, node?, nodeOf, refused]
    rfl
  · refine ⟨.exists p.text, by rw [makeFolder, led]; simp only [isFolder], nofun, ?_⟩
    rw [ensureFolder, makeFolder, led]
    simp only [isFolder, Workspace.isFolder, node?, nodeOf, led]
    rfl

/-- Making a folder that is there changes nothing. -/
theorem makeFolders_of_folder :
    makeFolders p w = (.ofOutcome (((w.placeOf p).mapError Failure.system).map fun _ => ()), w) := by
  obtain ⟨fault, refused, present, ensured⟩ := makeFolder_of_folder led isFolder
  obtain ⟨anchor, names⟩ := p
  rw [makeFolders]
  dsimp only
  cases length : names.length with
  | zero =>
    obtain rfl := List.length_eq_zero_iff.mp length
    exact ensured
  | succ depth =>
    have whole : names.take (depth + 1) = names := List.take_of_length_le (Nat.le_of_eq length)
    rw [makeFoldersFrom]
    dsimp only
    rw [whole, refused]
    split
    case h_1 path missing => exact absurd (Except.error.inj missing) (present path)
    case h_2 => exact ensured

end Folders

/-! ## Writing over a file -/

/-- The path of a file goes through the folder of the file. -/
theorem parent_of_placeOf (filled : target.parts ≠ []) (named : target.name ≠ "..")
    (led : w.placeOf target = .ok place) :
    ∃ folder, w.walk target.parent.text (w.startOf target.parent) target.parent.parts = .ok folder ∧
      w.nodeAt? folder = some .folder ∧ place = folder ++ [target.name] := by
  have split : target.parts = target.parts.dropLast ++ [target.name] := by
    rw [Path.name, List.getLast?_eq_some_getLast filled, Option.getD_some,
      List.dropLast_append_getLast]
  have walked := walk_of_placeOf led
  rw [split] at walked
  obtain ⟨folder, parent, isFolder, last⟩ := walk_last walked
  refine ⟨folder, walk_of_walk (fun _ => id) parent, isFolder, ?_⟩
  rcases last with up | last
  · exact absurd up named
  · exact last

/-- A text can be written to a path, over whatever file is at its place. -/
structure Writable (w : Workspace) (target : Path) (place : List String) : Prop where
  filled : target.parts ≠ []
  named : target.name ≠ ".."
  led : w.placeOf target = .ok place
  free : w.nodeAt? place ≠ some .folder
  parent : ∃ folder, w.placeOf target.parent = .ok folder
  temporary : ∃ place, w.placeOf (w.temporary target) = .ok place

theorem Writable.replace (writable : w.Writable target place) (temp : Path) :
    w.replace temp target content = .ok (w.withFile place content) := by
  have unnamed : ¬ (target.parts.isEmpty || target.name = "..") = true := by
    simpa using ⟨writable.filled, writable.named⟩
  rw [Workspace.replace, if_neg unnamed, writable.led]
  dsimp only
  split
  case h_1 isFolder => exact absurd isFolder writable.free
  case h_2 => rfl

/-- Writing puts the text at the place, and nothing else anywhere. -/
theorem Writable.result_write (writable : w.Writable target place) (text : String) :
    (write target text).result w = (.ok (), w.withFile place text.toUTF8) := by
  obtain ⟨folder, walked, isFolder, -⟩ :=
    parent_of_placeOf writable.filled writable.named writable.led
  obtain ⟨parent, led⟩ := writable.parent
  obtain ⟨temp, placed⟩ := writable.temporary
  have made : (makeFolders target.parent).result w = (.ok (), w) := by
    rw [Filing.result, makeFolders_of_folder walked isFolder, led]
    rfl
  rw [write, Filing.result_bind_of_ok _ made, Filing.result_look_bind]
  dsimp only
  rw [placed]
  dsimp only
  rw [writable.replace]
  rfl

theorem named_of_replace {temp : Path} (replaced : w.replace temp target content = .ok w') :
    target.parts ≠ [] ∧ target.name ≠ ".." := by
  rw [replace] at replaced
  split at replaced
  case isTrue => cases replaced
  case isFalse unnamed => simpa using unnamed

/-- A file can be written over when one text can be written over it. -/
theorem writable_of_write {text : String} (found : w.nodeOf target = .ok (.file content))
    (writes : ((write target text).result w).1 = .ok ()) : ∃ place, w.Writable target place := by
  obtain ⟨place, led, here⟩ := nodeOf_eq_file found
  have free : w.nodeAt? place ≠ some .folder := by
    rw [here]
    nofun
  obtain ⟨_, middle, made, writes⟩ := Filing.answer_of_bind (Prod.ext writes rfl)
  rw [Filing.result_look_bind] at writes
  dsimp only at writes
  split at writes
  case h_1 => cases writes
  case h_2 temp placed =>
  split at writes
  case h_2 => cases writes
  case h_1 after replaced =>
  obtain ⟨filled, named⟩ := named_of_replace replaced
  -- The folder of the file is there, so `middle` is `w`.
  obtain ⟨folder, walked, isFolder, -⟩ := parent_of_placeOf filled named led
  rw [Filing.result, makeFolders_of_folder walked isFolder] at made
  obtain ⟨answered, rfl⟩ := Prod.mk.inj made
  have parent : ∃ folder, w.placeOf target.parent = .ok folder := by
    rcases placeOf_cases walked with refused | refused | led
    · rw [refused] at answered
      cases answered
    · rw [refused] at answered
      cases answered
    · exact ⟨folder, led⟩
  exact ⟨place, filled, named, led, free, parent, temp, placed⟩

/-- What was written beside a file does not keep the file from being written. -/
theorem Writable.withFile (writable : w.Writable target place) (vacant : w.nodeAt? beside = none) :
    (w.withFile beside content).Writable target place := by
  have kept (q : List String) (isFolder : w.nodeAt? q = some .folder) :
      (w.withFile beside content).nodeAt? q = some .folder := by
    rw [nodeAt?_withFile, if_neg, isFolder]
    rintro rfl
    rw [vacant] at isFolder
    cases isFolder
  obtain ⟨folder, parent⟩ := writable.parent
  obtain ⟨temp, placed⟩ := writable.temporary
  refine ⟨writable.filled, writable.named, placeOf_of_walk kept rfl writable.led, ?_,
    ⟨folder, placeOf_of_walk kept rfl parent⟩, ⟨temp, placeOf_of_walk kept rfl placed⟩⟩
  rw [nodeAt?_withFile]
  split
  · nofun
  · exact writable.free

/-! ## Backups -/

/-- Nothing stands at the place that a path leads to, if it leads to any. -/
def Vacant (w : Workspace) (p : Path) : Prop :=
  ∀ place, w.placeOf p = .ok place → w.nodeAt? place = none

theorem Vacant.nodeNamed {typed : String} (vacant : w.Vacant (.parse typed)) :
    ∃ fault, w.nodeNamed typed = .error fault := by
  have missing : ∃ fault, w.nodeOf (.parse typed) = .error fault := by
    rw [nodeOf]
    cases led : w.placeOf (.parse typed) with
    | error fault => exact ⟨fault, rfl⟩
    | ok place => exact ⟨_, by dsimp only; rw [vacant place led]⟩
  obtain ⟨fault, missing⟩ := missing
  rw [Workspace.nodeNamed]
  split
  · exact ⟨_, rfl⟩
  split
  · exact ⟨_, rfl⟩
  · exact ⟨fault, by rw [missing]⟩

theorem walk_of_placeToWrite {typed : String} (written : w.placeToWrite typed = .ok place) :
    typed.utf8ByteSize ≤ maxPath ∧
      w.walk typed (w.startOf (.parse typed)) (Path.parse typed).parts = .ok place := by
  rw [placeToWrite] at written
  simp only [bind, Except.bind, pure, Except.pure, throw, throwThe, MonadExceptOf.throw] at written
  split at written
  case isTrue => cases written
  split at written
  case isTrue => cases written
  case isFalse short =>
  split at written
  case isTrue =>
    -- A name with slashes after it is refused, whatever its folder is.
    split at written
    · cases written
    · split at written <;> cases written
  case isFalse =>
  cases walked : w.walk typed (w.startOf (.parse typed)) (Path.parse typed).parts with
  | error fault =>
    rw [walked] at written
    cases written
  | ok reached =>
    rw [walked] at written
    dsimp only at written
    have same : reached = place := by
      split at written
      · cases written
      · split at written <;> cases written
        rfl
      · split at written
        · cases written
        · split at written <;> cases written
          rfl
    exact ⟨Nat.le_of_not_lt short, congrArg _ same⟩

/-- A copy to a vacant path fails and changes nothing, or puts the file at the place of the path. -/
theorem copy_cases {typed : String} (found : w.nodeOf p = .ok (.file content))
    (same : (Path.parse typed).text = typed) (vacant : w.Vacant (.parse typed)) :
    (∃ failure, (copy p typed).result w = (.error failure, w)) ∨
      ∃ place, w.placeOf (.parse typed) = .ok place ∧
        (copy p typed).result w = (.ok (), w.withFile place content) := by
  obtain ⟨fault, missing⟩ := vacant.nodeNamed
  have named : w.copyName p typed = typed := by rw [copyName, missing]
  have apart (origin : List String) : w.leadsTo typed origin = false := by
    rw [leadsTo, missing]
  obtain ⟨origin, led, -⟩ := nodeOf_eq_file found
  rw [Filing.result, copy]
  dsimp only
  rw [named, led, found]
  simp only [bind, Except.bind, pure, Except.pure, throw, throwThe, MonadExceptOf.throw, apart]
  by_cases clean : typed.toList.contains '\x00' = true
  · simp only [if_pos clean]
    exact Or.inl ⟨_, rfl⟩
  simp only [if_neg clean]
  cases written : w.placeToWrite typed with
  | error fault => exact Or.inl ⟨_, rfl⟩
  | ok place =>
    obtain ⟨short, walked⟩ := walk_of_placeToWrite written
    refine Or.inr ⟨place, ?_, rfl⟩
    rw [placeOf, same, if_neg clean, if_neg (Nat.not_lt.mpr short)]
    exact walked

/-- A backup is made beside the file, or there is a failure and nothing is changed. -/
theorem backUp_cases (found : w.nodeOf p = .ok (.file content)) (vacant : w.Vacant (w.backupOf p))
    (readBack : Path.parse (w.backupOf p).text = w.backupOf p) :
    (∃ failure, (backUp p).result w = (.error failure, w)) ∨
      ∃ beside, w.placeOf (w.backupOf p) = .ok beside ∧
        (backUp p).result w = (.ok (w.backupOf p), w.withFile beside content) := by
  have isFile : w.isFile p = .ok true := by
    rw [isFile, node?, found]
    rfl
  have looked : (Filing.ofOutcome (w.isFile p)).result w = (.ok true, w) := by
    rw [isFile]
    rfl
  rw [backUp, Filing.result_look_bind, Filing.result_bind_of_ok _ looked]
  dsimp only
  have same : (Path.parse (w.backupOf p).text).text = (w.backupOf p).text := by rw [readBack]
  rw [← readBack] at vacant
  rcases copy_cases found same vacant with ⟨failure, fails⟩ | ⟨beside, placed, copied⟩
  · refine Or.inl ⟨.file (.backupFailed p failure.text), Filing.result_bind_of_error _ ?_⟩
    exact Filing.result_orElse_of_error _ fails
  · rw [readBack] at placed
    refine Or.inr ⟨beside, placed, ?_⟩
    have done := Filing.result_orElse_of_ok
      (fun failure => Filing.fail (.file (.backupFailed p failure.text))) copied
    rw [if_neg (by simp)]
    exact Filing.result_bind_of_ok _ done

/-! ## The name of a backup -/

theorem toList_name_backupOf : (w.backupOf p).name.toList =
    p.stem.toList ++ '.' :: w.stamp.toList ++ ".backup".toList ++ p.suffix.toList := by
  simp [backupOf, Path.name, Path.child]

theorem long_name_backupOf : 8 ≤ (w.backupOf p).name.toList.length := by
  rw [toList_name_backupOf]
  simp
  omega

theorem isPlain_name_backupOf (named : '/' ∉ p.name.toList) (stamped : '/' ∉ w.stamp.toList) :
    Path.IsPlain (w.backupOf p).name := by
  have long := long_name_backupOf (w := w) (p := p)
  have stem : '/' ∉ p.stem.toList := by
    intro held
    have held : '/' ∈ (Path.cutSuffix p.name.toList).1 := by simpa [Path.stem] using held
    rcases Path.mem_of_mem_cutSuffix (Or.inl held) with dot | held
    · cases dot
    · exact named held
  have suffix : '/' ∉ p.suffix.toList := by
    intro held
    have held : '/' ∈ (Path.cutSuffix p.name.toList).2 := by simpa [Path.suffix] using held
    rcases Path.mem_of_mem_cutSuffix (Or.inr held) with dot | held
    · cases dot
    · exact named held
  refine ⟨?_, ?_, ?_⟩
  · intro empty
    rw [empty] at long
    simp at long
  · intro dot
    rw [dot] at long
    simp at long
  · rw [toList_name_backupOf]
    simp [stem, suffix, stamped]

/-- The text of a backup's path leads to the backup. -/
theorem parse_text_backupOf (plain : ∀ name ∈ p.parts, Path.IsPlain name) (filled : p.parts ≠ [])
    (stamped : '/' ∉ w.stamp.toList) : Path.parse (w.backupOf p).text = w.backupOf p := by
  have named : '/' ∉ p.name.toList := by
    rw [Path.name, List.getLast?_eq_some_getLast filled, Option.getD_some]
    exact (plain _ (List.getLast_mem filled)).whole
  have last : (w.backupOf p).parts = p.parts.dropLast ++ [(w.backupOf p).name] := by
    simp [backupOf, Path.name, Path.child, Path.parent]
  refine Path.parse_text (by simp [last]) fun name member => ?_
  rw [last] at member
  rcases List.mem_append.mp member with before | isLast
  · exact plain name ((List.dropLast_sublist _).mem before)
  · rw [List.mem_singleton.mp isLast]
    exact isPlain_name_backupOf named stamped

/-- A backup is made in the folder of its file. -/
theorem place_backupOf (writable : w.Writable p place)
    (placed : w.placeOf (w.backupOf p) = .ok beside) :
    beside = place.dropLast ++ [(w.backupOf p).name] := by
  have named : (w.backupOf p).name ≠ ".." := by
    intro up
    have long := long_name_backupOf (w := w) (p := p)
    rw [up] at long
    simp at long
  have filled : (w.backupOf p).parts ≠ [] := by simp [backupOf, Path.child]
  have sameParent : (w.backupOf p).parent = p.parent := by
    simp [backupOf, Path.child, Path.parent]
  obtain ⟨folder, walked, -, last⟩ := parent_of_placeOf writable.filled writable.named writable.led
  obtain ⟨folder', walked', -, last'⟩ := parent_of_placeOf filled named placed
  rw [sameParent, walked] at walked'
  cases walked'
  rw [last', last, List.dropLast_concat]

/-! ## A manifest that is rewritten -/

/-- The manifest can be written, its backup has a name that is not taken, and the time in this name is
written without slashes. -/
structure Ready (w : Workspace) (manifest : Path) : Prop where
  writes : ∀ text, ((write manifest text).result w).1 = .ok ()
  vacant : w.Vacant (w.backupOf manifest)
  stamped : '/' ∉ w.stamp.toList

/-- `after` is `w` with a text in the place of a manifest and, if it is backed up, with what the manifest
held in a new file beside it. -/
def Rewritten (w after : Workspace) (manifest : Path) (backsUp : Bool) (text : String) : Prop :=
  ∃ place original, w.placeOf manifest = .ok place ∧ w.fileAt? place = some original ∧
    (backsUp = true → w.nodeAt? (place.dropLast ++ [(w.backupOf manifest).name]) = none) ∧
    after.folders = w.folders ∧
    ∀ q, after.fileAt? q =
      if q = place then some text.toUTF8
      else if backsUp = true ∧ q = place.dropLast ++ [(w.backupOf manifest).name] then some original
      else w.fileAt? q

theorem rewritten_of_unsaved (found : w.nodeOf p = .ok (.file content)) (text : String)
    (led : w.placeOf p = .ok place) :
    w.Rewritten (w.withFile place text.toUTF8) p false text := by
  obtain ⟨place', led', here⟩ := nodeOf_eq_file found
  rw [led] at led'
  cases led'
  refine ⟨place, content, led, nodeAt?_eq_file here, nofun, rfl, fun q => ?_⟩
  rw [fileAt?_withFile]
  simp

theorem rewritten_of_saved (found : w.nodeOf p = .ok (.file content)) (text : String)
    (writable : w.Writable p place) (vacant : w.Vacant (w.backupOf p))
    (placed : w.placeOf (w.backupOf p) = .ok beside) :
    w.Rewritten ((w.withFile beside content).withFile place text.toUTF8) p true text := by
  obtain ⟨place', led, here⟩ := nodeOf_eq_file found
  rw [writable.led] at led
  cases led
  have named := place_backupOf writable placed
  refine ⟨place, content, writable.led, nodeAt?_eq_file here, fun _ => ?_, rfl, fun q => ?_⟩
  · rw [← named]
    exact vacant beside placed
  · rw [fileAt?_withFile, fileAt?_withFile, ← named]
    simp

end Pruning.Workspace
