import Mathlib.Data.List.Basic
import Mathlib.Data.List.Nodup
import Pruning.Fields

/-!
# Laws of ordered maps

What `get?` finds after `put` and `erase`, and what the two do to the keys. Entering values one after
the other leaves under each key the value entered last (`get?_foldl_put`).
-/

namespace Pruning.Fields

variable {α β : Type} {key other : String} {value : α} {fields : Fields α}

@[simp]
theorem get?_nil : get? key ([] : Fields α) = none :=
  rfl

@[simp]
theorem get?_cons {entry : String × α} :
    get? key (entry :: fields) = if entry.1 = key then some entry.2 else get? key fields :=
  rfl

theorem get?_map (key : String) (f : α → β) (fields : Fields α) :
    get? key (fields.map fun entry => (entry.1, f entry.2)) = (get? key fields).map f := by
  induction fields with
  | nil => rfl
  | cons entry rest ih =>
    rw [List.map_cons, get?_cons, get?_cons, ih]
    split <;> rfl

theorem mem_of_get? (found : get? key fields = some value) : (key, value) ∈ fields := by
  induction fields with
  | nil => cases found
  | cons entry rest ih =>
    rw [get?_cons] at found
    split at found
    case isTrue same =>
      cases found
      exact List.mem_cons.mpr (Or.inl (Prod.ext same.symm rfl))
    case isFalse => exact List.mem_cons_of_mem _ (ih found)

theorem get?_of_mem (distinct : (keys fields).Nodup) (held : (key, value) ∈ fields) :
    get? key fields = some value := by
  induction fields with
  | nil => cases held
  | cons entry rest ih =>
    rw [keys, List.map_cons, List.nodup_cons] at distinct
    rw [get?_cons]
    rcases List.mem_cons.mp held with rfl | later
    · exact if_pos rfl
    · have apart : entry.1 ≠ key := fun same => distinct.1 (same ▸ List.mem_map_of_mem later)
      rw [if_neg apart, ih distinct.2 later]

/-- What is found when no key is entered twice. -/
theorem get?_eq_some_iff (distinct : (keys fields).Nodup) :
    get? key fields = some value ↔ (key, value) ∈ fields :=
  ⟨mem_of_get?, get?_of_mem distinct⟩

/-- Maps that hold the same entries of a key agree on it. -/
theorem get?_congr {fields' : Fields α} (distinct : (keys fields).Nodup)
    (distinct' : (keys fields').Nodup)
    (same : ∀ value, (key, value) ∈ fields ↔ (key, value) ∈ fields') :
    get? key fields = get? key fields' := by
  ext value
  rw [get?_eq_some_iff distinct, get?_eq_some_iff distinct', same]

theorem get?_eq_none_iff : get? key fields = none ↔ key ∉ keys fields := by
  induction fields with
  | nil => simp [keys]
  | cons entry rest ih =>
    by_cases same : entry.1 = key
    · simp [keys, same]
    · simp only [get?_cons, same, ↓reduceIte, ih]
      simp [keys, Ne.symm same]

theorem mem_keys_iff : key ∈ keys fields ↔ ∃ value, get? key fields = some value := by
  rw [← Option.isSome_iff_exists, Option.isSome_iff_ne_none, ne_eq, get?_eq_none_iff, not_not]

theorem has_iff : has key fields = true ↔ key ∈ keys fields := by
  rw [has, Option.isSome_iff_exists, mem_keys_iff]

theorem get?_put : get? other (put key value fields) =
    if key = other then some value else get? other fields := by
  induction fields with
  | nil => simp [put]
  | cons entry rest ih =>
    rw [put]
    by_cases same : entry.1 = key
    · by_cases wanted : key = other <;> simp [same, wanted]
    · rw [if_neg same, get?_cons, ih, get?_cons]
      by_cases wanted : key = other
      · subst wanted
        simp [same]
      · simp [wanted]

@[simp]
theorem erase_cons {entry : String × α} : erase key (entry :: fields) =
    if entry.1 = key then erase key fields else entry :: erase key fields := by
  rw [erase, List.filter_cons]
  by_cases same : entry.1 = key
  · simp [same, erase]
  · simp [same, erase]

theorem get?_erase : get? other (erase key fields) =
    if other = key then none else get? other fields := by
  induction fields with
  | nil => simp [erase]
  | cons entry rest ih =>
    rw [erase_cons]
    by_cases same : entry.1 = key
    · rw [if_pos same, ih, get?_cons]
      by_cases wanted : other = key
      · simp [wanted]
      · simp [wanted, same, Ne.symm wanted]
    · rw [if_neg same, get?_cons, ih, get?_cons]
      by_cases wanted : other = key
      · simp [wanted, same]
      · simp [wanted]

theorem mem_keys_put : other ∈ keys (put key value fields) ↔ other = key ∨ other ∈ keys fields := by
  rw [mem_keys_iff, mem_keys_iff, get?_put]
  by_cases same : key = other
  · simp [same]
  · simp [same, Ne.symm same]

theorem mem_put {entry : String × α} (held : entry ∈ put key value fields) :
    entry = (key, value) ∨ entry ∈ fields := by
  induction fields with
  | nil => exact Or.inl (List.mem_singleton.mp held)
  | cons first rest ih =>
    rw [put] at held
    split at held
    case isTrue same =>
      rcases List.mem_cons.mp held with rfl | later
      · exact Or.inl (Prod.ext same rfl)
      · exact Or.inr (List.mem_cons_of_mem _ later)
    case isFalse =>
      rcases List.mem_cons.mp held with rfl | later
      · exact Or.inr List.mem_cons_self
      · exact (ih later).imp_right (List.mem_cons_of_mem _)

theorem erase_put_self : erase key (put key value fields) = erase key fields := by
  induction fields with
  | nil => simp [put, erase]
  | cons entry rest ih =>
    rw [put]
    split
    case isTrue same => simp [same]
    case isFalse differs => simp [differs, ih]

theorem erase_put_of_ne (differs : key ≠ other) :
    erase other (put key value fields) = put key value (erase other fields) := by
  induction fields with
  | nil => simp [put, erase, differs]
  | cons entry rest ih =>
    rw [put]
    split
    case isTrue same => simp [same, differs, put]
    case isFalse apart =>
      by_cases dropped : entry.1 = other
      · simp [dropped, ih]
      · simp [dropped, ih, put, apart]

theorem put_of_not_mem (absent : key ∉ keys fields) :
    put key value fields = fields ++ [(key, value)] := by
  induction fields with
  | nil => rfl
  | cons entry rest ih =>
    rw [keys, List.map_cons, List.mem_cons, not_or] at absent
    rw [put, if_neg (Ne.symm absent.1), ih absent.2, List.cons_append]

/-- An entry of a present key takes over its place. -/
theorem keys_put_of_mem (present : key ∈ keys fields) :
    keys (put key value fields) = keys fields := by
  induction fields with
  | nil => cases present
  | cons entry rest ih =>
    rw [put]
    split
    case isTrue => rfl
    case isFalse apart =>
      have later : key ∈ keys rest := (List.mem_cons.mp present).resolve_left (Ne.symm apart)
      exact congrArg (entry.1 :: ·) (ih later)

theorem nodup_keys_put (distinct : (keys fields).Nodup) :
    (keys (put key value fields)).Nodup := by
  by_cases present : key ∈ keys fields
  · rwa [keys_put_of_mem present]
  · rw [put_of_not_mem present, keys, List.map_append]
    refine List.nodup_append.mpr ⟨distinct, List.nodup_singleton _, ?_⟩
    intro old held new added same
    rw [same, List.mem_singleton.mp added] at held
    exact present held

theorem erase_of_not_mem (absent : key ∉ keys fields) : erase key fields = fields := by
  rw [erase, List.filter_eq_self]
  intro entry held
  have other : entry.1 ≠ key := fun same => absent (same ▸ List.mem_map_of_mem held)
  exact decide_eq_true other

/-- Entries with new keys of their own go to the end, in their order. -/
theorem foldl_put_append {entries : Fields α} (distinct : (keys (fields ++ entries)).Nodup) :
    entries.foldl (fun map entry => put entry.1 entry.2 map) fields = fields ++ entries := by
  induction entries generalizing fields with
  | nil => rw [List.foldl_nil, List.append_nil]
  | cons entry rest ih =>
    have order : fields ++ entry :: rest = (fields ++ [entry]) ++ rest := by simp
    have absent : entry.1 ∉ keys fields := by
      intro held
      rw [keys, List.map_append] at distinct
      exact (List.nodup_append.mp distinct).2.2 _ held _ List.mem_cons_self rfl
    rw [order] at distinct ⊢
    rw [List.foldl_cons, put_of_not_mem absent, ih distinct]

/-- Values entered one after the other: under each key stands the last value entered there, or what
stood there before. -/
theorem get?_foldl_put (keyOf : β → String) (valueOf : β → α) (items : List β) :
    get? key (items.foldl (fun map item => put (keyOf item) (valueOf item) map) fields) =
      (((items.filter fun item => keyOf item = key).getLast?).map valueOf).or
        (get? key fields) := by
  induction items generalizing fields with
  | nil => simp
  | cons item rest ih =>
    rw [List.foldl_cons, ih, get?_put]
    by_cases same : keyOf item = key
    · rw [List.filter_cons_of_pos (by simpa using same), List.getLast?_cons, if_pos same]
      cases (rest.filter fun item => keyOf item = key).getLast? <;> simp
    · rw [List.filter_cons_of_neg (by simpa using same), if_neg same]

end Pruning.Fields
