import Mathlib.Algebra.Group.Nat.Even
import Pruning.Proofs.Manifest.Splitting

/-!
# Inside and outside of quotes

A reader of a text is inside of quotes or outside of them (`quotedAfter`), and a text exposes a separator
that stands outside (`exposes`). Both are told piece by piece where a text is put together. A text is
sealed exactly when it ends outside and exposes nothing (`sealed_iff`). Splitting takes a text that ends
outside apart into sealed pieces that make up the text again (`divides_pieces`), and a closed text in
front of a separator is taken apart on its own (`pieces_append`).
-/

namespace Pruning.Manifest

variable {separator : Char} {quoted : Bool} {cs ds left right : List Char}

/-! ## The state of a reader -/

/-- Whether the end of a text lies inside of quotes; `quoted` tells it of the start. -/
def quotedAfter (quoted : Bool) (cs : List Char) : Bool :=
  cs.foldl (fun quoted c => if c = '"' then !quoted else quoted) quoted

/-- A text that ends outside of quotes when it starts outside. -/
def Closed (cs : List Char) : Prop :=
  quotedAfter false cs = false

@[simp]
theorem quotedAfter_nil (quoted : Bool) : quotedAfter quoted [] = quoted :=
  rfl

@[simp]
theorem quotedAfter_cons (quoted : Bool) (c : Char) (cs : List Char) :
    quotedAfter quoted (c :: cs) = quotedAfter (if c = '"' then !quoted else quoted) cs :=
  rfl

@[simp]
theorem quotedAfter_append (quoted : Bool) (cs ds : List Char) :
    quotedAfter quoted (cs ++ ds) = quotedAfter (quotedAfter quoted cs) ds :=
  List.foldl_append

theorem quotedAfter_not (quoted : Bool) (cs : List Char) :
    quotedAfter (!quoted) cs = !quotedAfter quoted cs := by
  induction cs generalizing quoted with
  | nil => rfl
  | cons c cs ih =>
    by_cases mark : c = '"'
    · simp [mark, ih]
    · simp [mark, ih]

theorem quotedAfter_of_no_quote (free : '"' ∉ cs) (quoted : Bool) : quotedAfter quoted cs = quoted := by
  induction cs with
  | nil => rfl
  | cons c cs ih =>
    rw [List.mem_cons, not_or] at free
    rw [quotedAfter_cons, if_neg (Ne.symm free.1), ih free.2]

/-- Quotes around a text change nothing about its end. -/
theorem quotedAfter_enclosed (quoted : Bool) (cs : List Char) :
    quotedAfter quoted ('"' :: (cs ++ ['"'])) = quotedAfter quoted cs := by
  simp [quotedAfter_not]

/-- Every quote takes a reader from outside to inside or back. -/
theorem quotedAfter_eq_true_iff (quoted : Bool) (cs : List Char) :
    quotedAfter quoted cs = true ↔ (quoted = true ↔ Even (cs.count '"')) := by
  induction cs generalizing quoted with
  | nil => simp
  | cons c cs ih =>
    rw [quotedAfter_cons, ih]
    by_cases mark : c = '"'
    · rw [if_pos mark, mark, List.count_cons_self, Nat.even_add_one]
      cases quoted <;> simp
    · rw [if_neg mark, List.count_cons_of_ne mark]

/-- A text is closed when its quotes come in pairs. -/
theorem closed_iff_even : Closed cs ↔ Even (cs.count '"') := by
  rw [Closed, ← Bool.not_eq_true, quotedAfter_eq_true_iff]
  simp

/-! ## Exposed separators -/

/-- Whether a separator stands outside of quotes. -/
def exposes (separator : Char) (quoted : Bool) : List Char → Bool
  | [] => false
  | c :: rest =>
    let quoted := if c = '"' then !quoted else quoted
    (c = separator && !quoted) || exposes separator quoted rest

@[simp]
theorem exposes_append (separator : Char) (quoted : Bool) (cs ds : List Char) :
    exposes separator quoted (cs ++ ds) =
      (exposes separator quoted cs || exposes separator (quotedAfter quoted cs) ds) := by
  induction cs generalizing quoted with
  | nil => simp [exposes]
  | cons c cs ih => simp [exposes, ih, Bool.or_assoc]

theorem exposes_of_not_mem (absent : separator ∉ cs) (quoted : Bool) :
    exposes separator quoted cs = false := by
  induction cs generalizing quoted with
  | nil => rfl
  | cons c cs ih =>
    rw [List.mem_cons, not_or] at absent
    simp [exposes, Ne.symm absent.1, ih absent.2]

/-- The first exposed separator of a text. -/
theorem exists_first_exposed (mark : separator ≠ '"') (exposed : exposes separator quoted cs = true) :
    ∃ before after, cs = before ++ separator :: after ∧ quotedAfter quoted before = false ∧
      exposes separator quoted before = false := by
  induction cs generalizing quoted with
  | nil => cases exposed
  | cons c cs ih =>
    by_cases here : c = separator ∧ quoted = false
    · obtain ⟨rfl, rfl⟩ := here
      exact ⟨[], cs, rfl, rfl, rfl⟩
    · have passes : (c = separator && !(if c = '"' then !quoted else quoted)) = false := by
        by_cases same : c = separator
        · subst same
          rw [if_neg mark]
          simpa using here
        · simp [same]
      rw [exposes, passes, Bool.false_or] at exposed
      obtain ⟨before, after, rfl, outside, hidden⟩ := ih exposed
      refine ⟨c :: before, after, rfl, outside, ?_⟩
      rw [exposes, passes, hidden]
      rfl

theorem sealed_iff (mark : separator ≠ '"') : Sealed separator quoted cs ↔
    quotedAfter quoted cs = false ∧ exposes separator quoted cs = false := by
  constructor
  · intro whole
    induction whole with
    | nil => exact ⟨rfl, rfl⟩
    | quote later ih => simpa [exposes, Ne.symm mark] using ih
    | @char quoted c cs notMark inside later ih =>
      refine ⟨by simpa [notMark] using ih.1, ?_⟩
      rw [exposes, if_neg notMark, ih.2, Bool.or_false, Bool.and_eq_false_iff]
      by_cases same : c = separator
      · exact Or.inr (by simp [inside same])
      · exact Or.inl (decide_eq_false same)
  · rintro ⟨outside, hidden⟩
    induction cs generalizing quoted with
    | nil =>
      obtain rfl : quoted = false := outside
      exact .nil
    | cons c cs ih =>
      rw [exposes, Bool.or_eq_false_iff] at hidden
      rw [quotedAfter_cons] at outside
      have later := ih outside hidden.2
      by_cases isMark : c = '"'
      · subst isMark
        exact .quote later
      · rw [if_neg isMark] at later hidden
        refine .char isMark (fun same => ?_) later
        simpa [same] using hidden.1

theorem Sealed.closed (mark : separator ≠ '"') (whole : Sealed separator false cs) : Closed cs :=
  ((sealed_iff mark).mp whole).1

theorem Sealed.exposes_eq (mark : separator ≠ '"') (whole : Sealed separator false cs) :
    exposes separator false cs = false :=
  ((sealed_iff mark).mp whole).2

/-! ## Joined texts -/

/-- Texts that are joined by something else than a quote are closed when each of them is. -/
theorem Closed.intercalate {joint : Char} (mark : joint ≠ '"') {texts : List (List Char)}
    (closed : ∀ text ∈ texts, Closed text) : Closed ([joint].intercalate texts) := by
  have append {cs ds : List Char} (left : Closed cs) (right : Closed ds) : Closed (cs ++ ds) := by
    rw [Closed] at *
    rw [quotedAfter_append, left, right]
  have single : Closed [joint] := by simp [Closed, mark]
  have empty : Closed [] := rfl
  exact Text.intercalate_closed empty (fun _ _ => append) closed single

/-- What closed texts expose that are joined by something else. -/
theorem exposes_intercalate {joint : Char} (mark : joint ≠ '"') (apart : joint ≠ separator)
    {texts : List (List Char)} (closed : ∀ text ∈ texts, Closed text) :
    exposes separator false ([joint].intercalate texts) =
      texts.any fun text => exposes separator false text := by
  induction texts with
  | nil => rfl
  | cons first others ih =>
    have here : quotedAfter false first = false := closed first List.mem_cons_self
    have later := ih fun text held => closed text (List.mem_cons_of_mem first held)
    cases others with
    | nil => simp
    | cons second others =>
      rw [List.intercalate_cons_cons, List.append_assoc, exposes_append, here, List.singleton_append,
        exposes, if_neg mark, later]
      simp [apart]

theorem intercalate_append {joint : Char} {texts others : List (List Char)} (filled : texts ≠ [])
    (more : others ≠ []) : [joint].intercalate (texts ++ others) =
      [joint].intercalate texts ++ joint :: [joint].intercalate others := by
  induction texts with
  | nil => exact absurd rfl filled
  | cons first texts ih =>
    cases texts with
    | nil =>
      obtain ⟨second, others, rfl⟩ := List.exists_cons_of_ne_nil more
      simp [List.intercalate_cons_cons]
    | cons second texts =>
      rw [List.cons_append, List.cons_append, List.intercalate_cons_cons, ← List.cons_append,
        ih (List.cons_ne_nil _ _), List.intercalate_cons_cons]
      simp

/-! ## Splitting -/

/-- The pieces of a text between the separators outside of quotes; a text that ends inside has none. -/
def pieces (separator : Char) (cs : List Char) : List (List Char) :=
  (splitOutside separator cs).getD []

/-- Sealed pieces that make up a text when they are joined by the separator. -/
structure Divides (separator : Char) (cs : List Char) (parts : List (List Char)) : Prop where
  filled : parts ≠ []
  sealed : ∀ part ∈ parts, Sealed separator false part
  whole : [separator].intercalate parts = cs

/-- Splitting finds the sealed pieces that make up a text. -/
theorem Divides.splitOutside {parts : List (List Char)} (mark : separator ≠ '"')
    (divides : Divides separator cs parts) : splitOutside separator cs = some parts := by
  rw [← divides.whole]
  exact splitOutside_intercalate divides.filled divides.sealed mark

theorem Divides.append {parts others : List (List Char)} (first : Divides separator left parts)
    (second : Divides separator right others) :
    Divides separator (left ++ separator :: right) (parts ++ others) where
  filled := List.append_ne_nil_of_left_ne_nil first.filled _
  sealed part held := (List.mem_append.mp held).elim (first.sealed part) (second.sealed part)
  whole := by rw [intercalate_append first.filled second.filled, first.whole, second.whole]

theorem divides_single (whole : Sealed separator false cs) : Divides separator cs [cs] where
  filled := List.cons_ne_nil _ _
  sealed _ held := List.mem_singleton.mp held ▸ whole
  whole := List.intercalate_singleton

/-- A closed text is made up of sealed pieces. -/
theorem exists_divides (mark : separator ≠ '"') (cs : List Char) (closed : Closed cs) :
    ∃ parts, Divides separator cs parts := by
  by_cases exposed : exposes separator false cs = true
  · obtain ⟨before, after, split, outside, hidden⟩ := exists_first_exposed mark exposed
    have later : Closed after := by
      rw [Closed, split, quotedAfter_append, outside, quotedAfter_cons, if_neg mark] at closed
      exact closed
    have shorter : after.length < cs.length := by
      rw [split, List.length_append, List.length_cons]
      omega
    obtain ⟨parts, divides⟩ := exists_divides mark after later
    exact ⟨before :: parts,
      split ▸ (divides_single ((sealed_iff mark).mpr ⟨outside, hidden⟩)).append divides⟩
  · exact ⟨[cs], divides_single ((sealed_iff mark).mpr ⟨closed, Bool.eq_false_iff.mpr exposed⟩)⟩
termination_by cs.length

theorem divides_pieces (mark : separator ≠ '"') (closed : Closed cs) :
    Divides separator cs (pieces separator cs) := by
  obtain ⟨parts, divides⟩ := exists_divides mark cs closed
  rw [pieces, divides.splitOutside mark]
  exact divides

theorem splitFrom_of_open (open' : quotedAfter quoted cs = true) (piece : List Char)
    (done : List (List Char)) : splitFrom separator quoted piece done cs = none := by
  induction cs generalizing quoted piece done with
  | nil =>
    obtain rfl : quoted = true := open'
    rfl
  | cons c cs ih =>
    rw [quotedAfter_cons] at open'
    rw [splitFrom]
    by_cases cut : c = separator ∧ (if c = '"' then !quoted else quoted) = false
    · rw [if_pos cut]
      exact ih open' _ _
    · rw [if_neg cut]
      exact ih open' _ _

theorem splitOutside_of_not_closed (open' : ¬ Closed cs) : splitOutside separator cs = none :=
  splitFrom_of_open (Bool.not_eq_false _ ▸ open') [] []

/-- Only a closed text can be split. -/
theorem closed_of_splitOutside {parts : List (List Char)}
    (split : splitOutside separator cs = some parts) : Closed cs := by
  by_contra open'
  rw [splitOutside_of_not_closed open'] at split
  cases split

/-- A closed text in front of a separator is split on its own. -/
theorem pieces_append (mark : separator ≠ '"') (closed : Closed left) (later : Closed right) :
    pieces separator (left ++ separator :: right) =
      pieces separator left ++ pieces separator right := by
  have both := (divides_pieces mark closed).append (divides_pieces mark later)
  rw [pieces, both.splitOutside mark]
  rfl

theorem pieces_of_sealed (mark : separator ≠ '"') (whole : Sealed separator false cs) :
    pieces separator cs = [cs] := by
  rw [pieces, (divides_single whole).splitOutside mark]
  rfl

end Pruning.Manifest
