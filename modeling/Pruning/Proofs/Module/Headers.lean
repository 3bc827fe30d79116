import Pruning.Proofs.Module.Declarations

/-!
# The headers of a manifest that is written

The headers that were read stay in their order; the dependency headers are written anew
(`writtenHeaders`). No key is repeated (`distinct_writtenHeaders`), so each header is found again: the
dependency headers with the clauses of the declarations, all others with the value they had.
-/

namespace Pruning.Module

open Manifest

/-- A module whose manifest can be read back. -/
structure Writable (m : Module) : Prop where
  lineEnding : m.lineEnding ∈ Text.lineEndings
  names : ∀ header ∈ m.headers, isHeaderName header.1.toList = true
  /-- Each name fits on one line, with the colon and the space after it. -/
  short : ∀ header ∈ m.headers, header.1.length ≤ 70
  /-- The headers are a map: no name is entered twice. -/
  distinct : (Fields.keys m.headers).Nodup
  values : ∀ header ∈ m.headers, header.1 ≠ Header.require → header.1 ≠ Header.importPackage →
    Text.Unbroken header.2.toList
  moduleId : ∃ clauses, clausesOf (Fields.get? Header.moduleId m.headers) (some Header.moduleId) =
    .ok clauses
  requires : ∀ required ∈ m.requires, required.Writable
  packages : ∀ package ∈ m.packageImports, package.Writable

/-- The header that lists clauses; none when there is nothing to list. -/
def listed (name : String) (clauses : List Clause) : Fields String :=
  if clauses.isEmpty then [] else [(name, String.ofList (valueText clauses))]

/-- The header of the requirements. -/
def requireHeader (m : Module) : Fields String :=
  listed Header.require (m.requires.map ModuleImport.clause)

/-- The header of the package imports. -/
def packageHeader (m : Module) : Fields String :=
  listed Header.importPackage (m.packageImports.map PackageImport.clause)

/-- What becomes of a header: the dependency headers are written from the declarations, every other
header stays as it is. -/
def rewritten (m : Module) (header : String × String) : Fields String :=
  if header.1 = Header.require then m.requireHeader
  else if header.1 = Header.importPackage then m.packageHeader
  else [header]

/-- The headers of the manifest of a module, in their order. A dependency header that was missing stands
at the end. -/
def writtenHeaders (m : Module) : Fields String :=
  m.headers.flatMap m.rewritten ++
    (if Fields.has Header.require m.headers then [] else m.requireHeader) ++
    if Fields.has Header.importPackage m.headers then [] else m.packageHeader

variable {m : Module}

theorem mem_listed {name : String} {clauses : List Clause} {entry : String × String} :
    entry ∈ listed name clauses ↔
      clauses ≠ [] ∧ entry = (name, String.ofList (valueText clauses)) := by
  cases clauses with
  | nil => simp [listed]
  | cons first others => simp [listed]

/-- The headers of a manifest: the dependency headers that list something, and all others that were
read. -/
theorem mem_writtenHeaders {entry : String × String} : entry ∈ m.writtenHeaders ↔
    entry ∈ m.requireHeader ∨ entry ∈ m.packageHeader ∨
      entry ∈ m.headers ∧ entry.1 ≠ Header.require ∧ entry.1 ≠ Header.importPackage := by
  have apart : Header.importPackage ≠ Header.require := by decide
  rw [writtenHeaders, List.mem_append, List.mem_append, List.mem_flatMap]
  constructor
  · rintro ((⟨header, read, held⟩ | held) | held)
    · rw [rewritten] at held
      split at held
      case isTrue => exact Or.inl held
      case isFalse notRequire =>
        split at held
        case isTrue => exact Or.inr (Or.inl held)
        case isFalse notPackage =>
          rw [List.mem_singleton.mp held]
          exact Or.inr (Or.inr ⟨read, notRequire, notPackage⟩)
    · split at held
      · cases held
      · exact Or.inl held
    · split at held
      · cases held
      · exact Or.inr (Or.inl held)
  · rintro (held | held | ⟨read, notRequire, notPackage⟩)
    · by_cases present : Fields.has Header.require m.headers = true
      · obtain ⟨value, found⟩ := Fields.mem_keys_iff.mp (Fields.has_iff.mp present)
        exact Or.inl (Or.inl ⟨_, Fields.mem_of_get? found, by rwa [rewritten, if_pos rfl]⟩)
      · exact Or.inl (Or.inr (by rwa [if_neg present]))
    · by_cases present : Fields.has Header.importPackage m.headers = true
      · obtain ⟨value, found⟩ := Fields.mem_keys_iff.mp (Fields.has_iff.mp present)
        refine Or.inl (Or.inl ⟨_, Fields.mem_of_get? found, ?_⟩)
        rwa [rewritten, if_neg apart, if_pos rfl]
      · exact Or.inr (by rwa [if_neg present])
    · refine Or.inl (Or.inl ⟨entry, read, ?_⟩)
      rw [rewritten, if_neg notRequire, if_neg notPackage]
      exact List.mem_singleton_self entry

theorem keys_listed (name : String) (clauses : List Clause) :
    (Fields.keys (listed name clauses)).Sublist [name] := by
  rw [listed]
  split
  · exact List.nil_sublist _
  · exact List.Sublist.refl _

theorem keys_rewritten (header : String × String) :
    (Fields.keys (m.rewritten header)).Sublist [header.1] := by
  rw [rewritten]
  split
  case isTrue same =>
    rw [same]
    exact keys_listed _ _
  case isFalse =>
    split
    case isTrue same =>
      rw [same]
      exact keys_listed _ _
    case isFalse => exact List.Sublist.refl _

theorem keys_flatMap_rewritten (headers : Fields String) :
    (Fields.keys (headers.flatMap m.rewritten)).Sublist (Fields.keys headers) := by
  induction headers with
  | nil => exact List.Sublist.refl _
  | cons header headers ih =>
    rw [List.flatMap_cons, Fields.keys, List.map_append]
    exact (keys_rewritten header).append ih

/-- A key that is added when it is missing is not repeated. -/
theorem nodup_keys_fill {keys : List String} (distinct : keys.Nodup) {present : Bool} {key : String}
    (absent : present = false → key ∉ keys) : (keys ++ if present then [] else [key]).Nodup := by
  cases present with
  | true => simpa using distinct
  | false =>
    refine List.nodup_append.mpr ⟨distinct, List.nodup_singleton key, ?_⟩
    intro old held new added same
    rw [same, List.mem_singleton.mp added] at held
    exact absent rfl held

theorem distinct_writtenHeaders (writable : m.Writable) :
    (Fields.keys m.writtenHeaders).Nodup := by
  have missing (key : String) (absent : Fields.has key m.headers = false) :
      key ∉ Fields.keys m.headers := by
    rw [← Fields.has_iff, absent]
    exact Bool.false_ne_true
  have required := nodup_keys_fill writable.distinct (missing Header.require)
  have frame := nodup_keys_fill required fun absent held => by
    rcases List.mem_append.mp held with held | added
    · exact missing Header.importPackage absent held
    · split at added
      · cases added
      · exact absurd (List.mem_singleton.mp added) (by decide)
  refine frame.sublist ?_
  rw [writtenHeaders, Fields.keys, List.map_append, List.map_append]
  refine ((keys_flatMap_rewritten m.headers).append ?_).append ?_
  · split
    · exact List.Sublist.refl _
    · exact keys_listed _ _
  · split
    · exact List.Sublist.refl _
    · exact keys_listed _ _

theorem unbroken_listed {name : String} {clauses : List Clause}
    (plain : ∀ clause ∈ clauses, clause.Plain) :
    ∀ header ∈ listed name clauses, Text.Unbroken header.2.toList := by
  intro header held
  rw [(mem_listed.mp held).2, String.toList_ofList]
  exact unbroken_valueText plain

theorem plain_requires (writable : m.Writable) :
    ∀ clause ∈ m.requires.map ModuleImport.clause, clause.Plain := by
  intro clause held
  obtain ⟨required, declared, rfl⟩ := List.mem_map.mp held
  exact ModuleImport.plain_clause (writable.requires required declared)

theorem plain_packages (writable : m.Writable) :
    ∀ clause ∈ m.packageImports.map PackageImport.clause, clause.Plain := by
  intro clause held
  obtain ⟨package, declared, rfl⟩ := List.mem_map.mp held
  exact PackageImport.plain_clause (writable.packages package declared)

theorem unbroken_writtenHeaders (writable : m.Writable) :
    ∀ header ∈ m.writtenHeaders, Text.Unbroken header.2.toList := by
  intro header held
  rcases mem_writtenHeaders.mp held with held | held | ⟨read, notRequire, notPackage⟩
  · exact unbroken_listed (plain_requires writable) header held
  · exact unbroken_listed (plain_packages writable) header held
  · exact writable.values header read notRequire notPackage

/-- A dependency header is read as the clauses it lists; none when it is missing. -/
theorem clausesOf_listed {name : String} {clauses : List Clause}
    (plain : ∀ clause ∈ clauses, clause.Plain) (header : Option String) :
    clausesOf (Fields.get? name (listed name clauses)) header = .ok clauses := by
  have text : readClauses ((Fields.get? name (listed name clauses)).getD "").toList =
      .ok clauses := by
    cases clauses with
    | nil => rfl
    | cons first others =>
      rw [listed, if_neg (by simp), Fields.get?_cons, if_pos rfl, Option.getD_some,
        String.toList_ofList]
      exact readClauses_valueText fun clause held => (plain clause held).restorable
  rw [clausesOf, text]

section Lookup

variable {key : String}

theorem not_mem_listed {name : String} {clauses : List Clause} {value : String}
    (other : key ≠ name) : (key, value) ∉ listed name clauses := by
  rw [mem_listed]
  rintro ⟨-, same⟩
  exact other (congrArg Prod.fst same)

theorem distinct_listed (name : String) (clauses : List Clause) :
    (Fields.keys (listed name clauses)).Nodup :=
  (List.nodup_singleton name).sublist (keys_listed name clauses)

theorem get?_writtenHeaders (writable : m.Writable) (notRequire : key ≠ Header.require)
    (notPackage : key ≠ Header.importPackage) :
    Fields.get? key m.writtenHeaders = Fields.get? key m.headers := by
  refine Fields.get?_congr (distinct_writtenHeaders writable) writable.distinct fun value => ?_
  rw [mem_writtenHeaders, requireHeader, packageHeader]
  simp [not_mem_listed notRequire, not_mem_listed notPackage, notRequire, notPackage]

theorem get?_require (writable : m.Writable) :
    Fields.get? Header.require m.writtenHeaders = Fields.get? Header.require m.requireHeader := by
  have apart : Header.require ≠ Header.importPackage := by decide
  refine Fields.get?_congr (distinct_writtenHeaders writable) (distinct_listed _ _) fun value => ?_
  rw [mem_writtenHeaders, packageHeader]
  simp [not_mem_listed apart]

theorem get?_importPackage (writable : m.Writable) :
    Fields.get? Header.importPackage m.writtenHeaders =
      Fields.get? Header.importPackage m.packageHeader := by
  have apart : Header.importPackage ≠ Header.require := by decide
  refine Fields.get?_congr (distinct_writtenHeaders writable) (distinct_listed _ _) fun value => ?_
  rw [mem_writtenHeaders, requireHeader]
  simp [not_mem_listed apart]

theorem has_listed (name : String) (clauses : List Clause) :
    Fields.has name (listed name clauses) = !clauses.isEmpty := by
  rw [Fields.has, listed]
  cases clauses with
  | nil => rfl
  | cons first others => simp

theorem has_require (writable : m.Writable) :
    Fields.has Header.require m.writtenHeaders = !m.requires.isEmpty := by
  rw [Fields.has, get?_require writable, ← Fields.has, requireHeader, has_listed, List.isEmpty_map]

theorem has_importPackage (writable : m.Writable) :
    Fields.has Header.importPackage m.writtenHeaders = !m.packageImports.isEmpty := by
  rw [Fields.has, get?_importPackage writable, ← Fields.has, packageHeader, has_listed,
    List.isEmpty_map]

end Lookup

end Pruning.Module
