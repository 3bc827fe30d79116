import Mathlib.Data.List.Basic
import Pruning.Path

/-!
# Paths and their texts

The names of a path that was read are plain: they are not empty, no single dots, and have no slashes. A
path with plain names is read back from its text (`Path.parse_text`).
-/

namespace Pruning.Path

/-- A name that stands for itself inside the text of a path. -/
structure IsPlain (name : String) : Prop where
  filled : name.toList ≠ []
  notDot : name.toList ≠ ['.']
  whole : '/' ∉ name.toList

variable {cs piece : List Char} {p : Path}

/-! ## Cutting at slashes -/

theorem slash_not_mem_pieces (clean : '/' ∉ piece) : ∀ part ∈ pieces piece cs, '/' ∉ part := by
  induction cs generalizing piece with
  | nil =>
    intro part found
    rw [pieces, List.mem_singleton] at found
    subst found
    simpa using clean
  | cons c rest ih =>
    intro part found
    rw [pieces] at found
    split at found
    case isTrue =>
      rcases List.mem_cons.mp found with rfl | later
      · simpa using clean
      · exact ih List.not_mem_nil part later
    case isFalse differs =>
      have clean' : '/' ∉ c :: piece := by
        intro held
        rcases List.mem_cons.mp held with same | held
        · exact differs same.symm
        · exact clean held
      exact ih clean' part found

theorem pieces_of_whole (whole : '/' ∉ cs) : pieces piece cs = [piece.reverse ++ cs] := by
  induction cs generalizing piece with
  | nil => simp [pieces]
  | cons c rest ih =>
    have first : c ≠ '/' := fun same => whole (same ▸ List.mem_cons_self)
    have later : '/' ∉ rest := fun held => whole (List.mem_cons_of_mem c held)
    rw [pieces, if_neg first, ih later]
    simp

theorem pieces_append_slash (whole : '/' ∉ cs) (rest : List Char) :
    pieces piece (cs ++ '/' :: rest) = (piece.reverse ++ cs) :: pieces [] rest := by
  induction cs generalizing piece with
  | nil => simp [pieces]
  | cons c cs ih =>
    have first : c ≠ '/' := fun same => whole (same ▸ List.mem_cons_self)
    have later : '/' ∉ cs := fun held => whole (List.mem_cons_of_mem c held)
    rw [List.cons_append, pieces, if_neg first, ih later]
    simp

/-- Names without slashes are the pieces of what they are joined to. -/
theorem pieces_intercalate {names : List (List Char)} (filled : names ≠ [])
    (whole : ∀ name ∈ names, '/' ∉ name) : pieces [] (['/'].intercalate names) = names := by
  induction names with
  | nil => exact absurd rfl filled
  | cons name rest ih =>
    have first := whole name List.mem_cons_self
    cases rest with
    | nil =>
      have whole : pieces [] name = [name] := pieces_of_whole first
      simpa using whole
    | cons second others =>
      have later := ih (List.cons_ne_nil _ _) fun other held => whole other (List.mem_cons_of_mem _ held)
      rw [List.intercalate_cons_cons, List.append_assoc, List.singleton_append,
        pieces_append_slash first, later]
      rfl

/-! ## Reading and writing -/

theorem isPlain_of_mem_parse {s name : String} (held : name ∈ (parse s).parts) : IsPlain name := by
  obtain ⟨part, found, rfl⟩ := List.mem_map.mp held
  obtain ⟨cut, named⟩ := List.mem_filter.mp found
  have filled : part ≠ [] ∧ part ≠ ['.'] := by simpa using named
  refine ⟨?_, ?_, ?_⟩
  · simpa using filled.1
  · simpa using filled.2
  · simpa using slash_not_mem_pieces List.not_mem_nil part cut

theorem filter_pieces_of_isPlain {names : List String} (plain : ∀ name ∈ names, IsPlain name) :
    (names.map String.toList).filter (fun piece => !piece.isEmpty && piece != ['.']) =
      names.map String.toList := by
  refine List.filter_eq_self.mpr ?_
  intro part held
  obtain ⟨name, member, rfl⟩ := List.mem_map.mp held
  have filled := (plain name member).filled
  have notDot := (plain name member).notDot
  simp [filled, notDot]

/-- The text of joined names starts with the first letter of the first name. -/
theorem intercalate_starts {names : List String} (filled : names ≠ [])
    (plain : ∀ name ∈ names, IsPlain name) :
    ∃ c rest, ['/'].intercalate (names.map String.toList) = c :: rest ∧ c ≠ '/' := by
  obtain ⟨name, others, rfl⟩ := List.exists_cons_of_ne_nil filled
  have first := plain name List.mem_cons_self
  obtain ⟨c, rest, spelled⟩ := List.exists_cons_of_ne_nil first.filled
  have differs : c ≠ '/' := by
    intro same
    exact first.whole (by rw [spelled, same]; exact List.mem_cons_self)
  cases others with
  | nil => exact ⟨c, rest, by simp [spelled], differs⟩
  | cons second others => exact ⟨c, _, by rw [List.map_cons, List.map_cons,
      List.intercalate_cons_cons, spelled, List.cons_append, List.cons_append], differs⟩

/-- The slashes that an anchor is written with. -/
def slashes : Anchor → List Char
  | .relative => []
  | .root => ['/']
  | .doubleRoot => ['/', '/']

theorem toList_text (filled : p.parts ≠ []) :
    p.text.toList = slashes p.anchor ++ ['/'].intercalate (p.parts.map String.toList) := by
  have joined : ("/".intercalate p.parts).toList = ['/'].intercalate (p.parts.map String.toList) := by
    rw [String.toList_intercalate]
    rfl
  have notEmpty : p.parts.isEmpty = false := by simpa using filled
  rw [← joined, text]
  cases p.anchor with
  | relative => simp [notEmpty, slashes]
  | root => simp [slashes]
  | doubleRoot => simp [slashes]

theorem anchorOf_slashes {anchor : Anchor} {c : Char} {rest : List Char} (differs : c ≠ '/') :
    anchorOf (slashes anchor ++ c :: rest) = anchor := by
  cases anchor <;> simp [slashes, anchorOf, differs]

/-- A path with plain names is what its text is read as. -/
theorem parse_text (filled : p.parts ≠ []) (plain : ∀ name ∈ p.parts, IsPlain name) :
    parse p.text = p := by
  have whole : ∀ part ∈ p.parts.map String.toList, '/' ∉ part := by
    intro part held
    obtain ⟨name, member, rfl⟩ := List.mem_map.mp held
    exact (plain name member).whole
  have cut := pieces_intercalate (by simpa using filled) whole
  have kept := filter_pieces_of_isPlain plain
  obtain ⟨c, rest, starts, differs⟩ := intercalate_starts filled plain
  have anchored : anchorOf p.text.toList = p.anchor := by
    rw [toList_text filled, starts, anchorOf_slashes differs]
  -- Leading slashes make empty pieces, which are dropped.
  have named : (pieces [] p.text.toList).filter (fun piece => !piece.isEmpty && piece != ['.']) =
      p.parts.map String.toList := by
    rw [toList_text filled]
    cases p.anchor with
    | relative => rw [slashes, List.nil_append, cut, kept]
    | root => simpa [slashes, pieces, cut] using kept
    | doubleRoot => simpa [slashes, pieces, cut] using kept
  rw [parse, anchored, named]
  simp

/-! ## Stems and suffixes -/

theorem mem_of_mem_cutSuffix {c : Char} (held : c ∈ (cutSuffix cs).1 ∨ c ∈ (cutSuffix cs).2) :
    c = '.' ∨ c ∈ cs := by
  rw [cutSuffix] at held
  split at held
  case isFalse => simpa using Or.inr held
  case isTrue =>
    rcases held with inHead | inTail
    · have held := List.mem_of_mem_drop (List.mem_reverse.mp inHead)
      exact Or.inr (List.mem_reverse.mp held)
    · rcases List.mem_cons.mp inTail with dot | inTail
      · exact Or.inl dot
      · have held := List.takeWhile_sublist _ |>.mem (List.mem_reverse.mp inTail)
        exact Or.inr (List.mem_reverse.mp held)

end Pruning.Path
