import Pruning.Proofs.Manifest.Clauses
import Pruning.Proofs.Manifest.Quotation

/-!
# Fragments of a header value

A header value is split at its commas, and what is found at its semicolons. The fragments that are left
do not depend on that order: a closed text in front of any separator is taken apart on its own
(`fragments_append`), and so are closed texts that are joined by any separator (`fragments_intercalate`).
A fragment exposes no separator and is not longer than the text that it comes from
(`Fragment.of_mem`).
-/

namespace Pruning.Manifest

variable {separator : Char} {quoted : Bool} {cs left right fragment : List Char}

theorem ne_quote_of_mem (usual : separator ∈ separators) : separator ≠ '"' := by
  rintro rfl
  exact absurd usual (by decide)

/-! ## White space and quotes around a text -/

/-- White space at the ends of a text is neither a quote nor a separator. -/
theorem no_quote_of_blank (blank : ∀ c ∈ cs, Text.isBlank c = true) : '"' ∉ cs :=
  fun held => absurd (blank _ held) (by decide)

theorem no_separator_of_blank (usual : separator ∈ separators)
    (blank : ∀ c ∈ cs, Text.isBlank c = true) : separator ∉ cs := by
  intro held
  rcases List.mem_pair.mp usual with rfl | rfl
  · exact absurd (blank _ held) (by decide)
  · exact absurd (blank _ held) (by decide)

/-- A blank text is a single piece. -/
theorem sealed_of_blank (usual : separator ∈ separators)
    (blank : Text.isBlankText cs = true) : Sealed separator false cs := by
  have all := List.all_eq_true.mp blank
  exact Sealed.bare fun c held => ⟨fun same => no_quote_of_blank all (same ▸ held),
    fun same => no_separator_of_blank usual all (same ▸ held)⟩

theorem quotedAfter_trim (quoted : Bool) (cs : List Char) :
    quotedAfter quoted (Text.trim cs) = quotedAfter quoted cs := by
  obtain ⟨before, after, whole, start, stop⟩ := Text.exists_trim cs
  conv_rhs => rw [whole]
  rw [quotedAfter_append, quotedAfter_append, quotedAfter_of_no_quote (no_quote_of_blank start),
    quotedAfter_of_no_quote (no_quote_of_blank stop)]

theorem exposes_trim (usual : separator ∈ separators) (quoted : Bool) (cs : List Char) :
    exposes separator quoted (Text.trim cs) = exposes separator quoted cs := by
  obtain ⟨before, after, whole, start, stop⟩ := Text.exists_trim cs
  conv_rhs => rw [whole]
  rw [exposes_append, exposes_append, quotedAfter_of_no_quote (no_quote_of_blank start),
    exposes_of_not_mem (no_separator_of_blank usual start),
    exposes_of_not_mem (no_separator_of_blank usual stop), Bool.false_or, Bool.or_false]

/-- A value has lost white space and perhaps the quotes around it. -/
theorem unquote_cases (cs : List Char) :
    unquote cs = Text.trim cs ∨ Text.trim cs = '"' :: (unquote cs ++ ['"']) := by
  rw [unquote]
  split
  case h_1 rest starts =>
    split
    case isTrue ends =>
      obtain ⟨inner, rfl⟩ := List.getLast?_eq_some_iff.mp ends
      exact Or.inr (by rw [starts, List.dropLast_concat])
    case isFalse => exact Or.inl starts.symm
  case h_2 => exact Or.inl rfl

theorem quotedAfter_unquote (quoted : Bool) (cs : List Char) :
    quotedAfter quoted (unquote cs) = quotedAfter quoted cs := by
  rw [← quotedAfter_trim quoted cs]
  rcases unquote_cases cs with same | enclosed
  · rw [same]
  · rw [enclosed, quotedAfter_enclosed]

theorem length_unquote_le (cs : List Char) : (unquote cs).length ≤ cs.length := by
  have shorter := (Text.trim_sublist cs).length_le
  rcases unquote_cases cs with same | enclosed
  · rwa [same]
  · rw [enclosed] at shorter
    simp only [List.length_cons, List.length_append] at shorter
    omega

theorem quotedAfter_writeValue (quoted : Bool) (value : String) :
    quotedAfter quoted (writeValue value).toList = quotedAfter quoted value.toList := by
  rcases writeValue_cases value with ⟨same, -, -⟩ | enclosed
  · rw [same]
  · rw [enclosed, quotedAfter_enclosed]

/-! ## Texts without exposed separators -/

/-- A text that exposes none of the separators of a header value. -/
def Undivided (cs : List Char) : Prop :=
  ∀ separator ∈ separators, exposes separator false cs = false

instance (cs : List Char) : Decidable (Undivided cs) :=
  List.decidableBAll (fun separator => exposes separator false cs = false) separators

theorem Undivided.of_append (undivided : Undivided (left ++ right)) : Undivided left := by
  intro separator usual
  have hidden := undivided separator usual
  rw [exposes_append, Bool.or_eq_false_iff] at hidden
  exact hidden.1

theorem undivided_trim_append (cs rest : List Char) :
    Undivided (Text.trim cs ++ rest) ↔ Undivided (cs ++ rest) :=
  forall₂_congr fun separator usual => by
    rw [exposes_append, exposes_append, exposes_trim usual, quotedAfter_trim]

theorem undivided_trim : Undivided (Text.trim cs) ↔ Undivided cs := by
  simpa using undivided_trim_append cs []

/-- What is closed and undivided is sealed for each separator. -/
theorem Undivided.sealed (undivided : Undivided cs) (closed : Closed cs) :
    ∀ separator ∈ separators, Sealed separator false cs :=
  fun separator usual => (sealed_iff (ne_quote_of_mem usual)).mpr ⟨closed, undivided separator usual⟩

theorem undivided_of_sealed (sealed : ∀ separator ∈ separators, Sealed separator false cs) :
    Undivided cs :=
  fun separator usual => (sealed separator usual).exposes_eq (ne_quote_of_mem usual)

theorem Piece.closed (piece : Piece cs) : Closed cs :=
  (piece.sealed ',' (by decide)).closed (by decide)

theorem Piece.undivided (piece : Piece cs) : Undivided cs :=
  undivided_of_sealed piece.sealed

/-! ## Fragments -/

/-- What is left of a text when it is split at its commas, and each piece at its semicolons. -/
def fragments (cs : List Char) : List (List Char) :=
  (pieces ',' cs).flatMap (pieces ';')

/-- A text that was found between separators in another one. -/
structure Fragment (fragment cs : List Char) : Prop where
  closed : Closed fragment
  undivided : Undivided fragment
  shorter : fragment.length ≤ cs.length

/-- A piece is a part of the text that it is found in. -/
theorem sublist_of_mem_intercalate (joint : List Char) {part : List Char} {parts : List (List Char)}
    (held : part ∈ parts) : part.Sublist (joint.intercalate parts) := by
  induction parts with
  | nil => cases held
  | cons first others ih =>
    cases others with
    | nil =>
      obtain rfl := List.mem_singleton.mp held
      rw [List.intercalate_singleton]
    | cons second others =>
      rw [List.intercalate_cons_cons, List.append_assoc]
      rcases List.mem_cons.mp held with rfl | later
      · exact List.sublist_append_left _ _
      · exact (ih later).trans ((List.sublist_append_right _ _).trans (List.sublist_append_right _ _))

theorem Fragment.of_mem (closed : Closed cs) (held : fragment ∈ fragments cs) :
    Fragment fragment cs := by
  obtain ⟨piece, found, held⟩ := List.mem_flatMap.mp held
  have outer : Divides ',' cs (pieces ',' cs) := divides_pieces (by decide) closed
  have pieceSealed := outer.sealed piece found
  have inner : Divides ';' piece (pieces ';' piece) :=
    divides_pieces (by decide) (pieceSealed.closed (by decide))
  have innerSealed := inner.sealed fragment held
  have innerClosed : ∀ part ∈ pieces ';' piece, Closed part :=
    fun part among => (inner.sealed part among).closed (by decide)
  refine ⟨innerClosed fragment held, ?_, ?_⟩
  · intro separator usual
    rcases List.mem_pair.mp usual with rfl | rfl
    · have hidden := pieceSealed.exposes_eq (by decide)
      rw [← inner.whole, exposes_intercalate (by decide) (by decide) innerClosed] at hidden
      simpa using List.any_eq_false.mp hidden fragment held
    · exact innerSealed.exposes_eq (by decide)
  · have short := sublist_of_mem_intercalate [';'] held
    have long := sublist_of_mem_intercalate [','] found
    rw [inner.whole] at short
    rw [outer.whole] at long
    exact (short.trans long).length_le

/-- What is left of a fragment without white space around it is a piece, if something is left. -/
theorem Fragment.piece_trim (found : Fragment fragment cs) (shown : Text.trim fragment ≠ []) :
    Piece (Text.trim fragment) where
  sealed := (undivided_trim.mpr found.undivided).sealed (by
    rw [Closed, quotedAfter_trim]
    exact found.closed)
  trimmed := Text.trim_trim fragment
  filled := shown

/-- An undivided text is its only fragment. -/
theorem fragments_of_undivided (closed : Closed cs) (undivided : Undivided cs) :
    fragments cs = [cs] := by
  have sealed := undivided.sealed closed
  rw [fragments, pieces_of_sealed (by decide) (sealed ',' (by decide)), List.flatMap_singleton,
    pieces_of_sealed (by decide) (sealed ';' (by decide))]

/-- Joined texts with something between two of them are joined texts on both sides of it. -/
theorem intercalate_split {joint : List Char} (parts others : List (List Char))
    (first middle second : List Char) :
    joint.intercalate (parts ++ (first ++ middle ++ second) :: others) =
      joint.intercalate (parts ++ [first]) ++ middle ++ joint.intercalate (second :: others) := by
  induction parts with
  | nil =>
    cases others with
    | nil => simp
    | cons third others => simp [List.intercalate_cons_cons]
  | cons part parts ih =>
    have nonempty (list : List (List Char)) (last : List Char) (rest : List (List Char)) :
        joint.intercalate (part :: (list ++ last :: rest)) =
          part ++ joint ++ joint.intercalate (list ++ last :: rest) := by
      cases list with
      | nil => exact List.intercalate_cons_cons
      | cons => exact List.intercalate_cons_cons
    rw [List.cons_append, List.cons_append, nonempty, nonempty, ih]
    simp

/-- Texts around a sign that is not split at: the pieces on both sides of it become one. -/
theorem Divides.glue {sign : Char} {parts others : List (List Char)} {first second : List Char}
    (mark : sign ≠ '"') (apart : sign ≠ separator)
    (start : Divides separator left (parts ++ [first]))
    (stop : Divides separator right (second :: others)) :
    Divides separator (left ++ sign :: right) (parts ++ (first ++ [sign] ++ second) :: others) where
  filled := by simp
  sealed part held := by
    have single : Sealed separator false [sign] := Sealed.bare (by simp [mark, apart])
    rcases List.mem_append.mp held with before | held
    · exact start.sealed part (List.mem_append_left _ before)
    rcases List.mem_cons.mp held with rfl | after
    · have firstSealed := start.sealed first (by simp)
      exact (firstSealed.append single).append (stop.sealed second List.mem_cons_self)
    · exact stop.sealed part (List.mem_cons_of_mem second after)
  whole := by rw [intercalate_split, start.whole, stop.whole, List.append_assoc]; rfl

/-- A closed text in front of a separator is taken apart on its own. -/
theorem fragments_append (usual : separator ∈ separators) (closed : Closed left)
    (later : Closed right) :
    fragments (left ++ separator :: right) = fragments left ++ fragments right := by
  rcases List.mem_pair.mp usual with rfl | rfl
  · rw [fragments, pieces_append (by decide) closed later, List.flatMap_append]
    rfl
  · have start : Divides ',' left (pieces ',' left) := divides_pieces (by decide) closed
    have stop : Divides ',' right (pieces ',' right) := divides_pieces (by decide) later
    obtain ⟨parts, first, startsWith⟩ := (List.eq_nil_or_concat' _).resolve_left start.filled
    obtain ⟨second, others, stopsWith⟩ := List.exists_cons_of_ne_nil stop.filled
    rw [startsWith] at start
    rw [stopsWith] at stop
    have glued : Divides ',' (left ++ ';' :: right) (parts ++ (first ++ [';'] ++ second) :: others) :=
      start.glue (by decide) (by decide) stop
    have around : pieces ',' (left ++ ';' :: right) =
        parts ++ (first ++ [';'] ++ second) :: others := by
      rw [pieces, glued.splitOutside (by decide)]
      rfl
    have firstClosed := (start.sealed first (by simp)).closed (by decide)
    have secondClosed := (stop.sealed second List.mem_cons_self).closed (by decide)
    have middle : pieces ';' (first ++ ';' :: second) = pieces ';' first ++ pieces ';' second :=
      pieces_append (by decide) firstClosed secondClosed
    rw [fragments, fragments, fragments, around, startsWith, stopsWith, List.append_assoc,
      List.singleton_append]
    simp [middle]

/-- Closed texts that are joined by a separator are taken apart each on its own. -/
theorem fragments_intercalate (usual : separator ∈ separators) {texts : List (List Char)}
    (filled : texts ≠ []) (closed : ∀ text ∈ texts, Closed text) :
    fragments ([separator].intercalate texts) = texts.flatMap fragments := by
  induction texts with
  | nil => exact absurd rfl filled
  | cons first others ih =>
    cases others with
    | nil => simp
    | cons second others =>
      have later : ∀ text ∈ second :: others, Closed text :=
        fun text held => closed text (List.mem_cons_of_mem first held)
      rw [List.intercalate_cons_cons, List.append_assoc, List.singleton_append,
        fragments_append usual (closed first List.mem_cons_self)
          (.intercalate (ne_quote_of_mem usual) later),
        ih (List.cons_ne_nil _ _) later]
      exact List.flatMap_cons.symm

end Pruning.Manifest
