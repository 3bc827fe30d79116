import Mathlib.Algebra.Ring.Parity
import Pruning.Proofs.Manifest.Quotation

/-!
# The one way to take a text apart

What splitting does can be told without a reader that is inside or outside of quotes: the numbers of
quotes decide, those of each piece, and those in front of each separator that a piece holds
(`Decomposes`). Such pieces are just the sealed ones (`decomposes_iff`). So a text whose quotes do not come
in pairs has none, and any other text has one list of them (`splitOutside_unique`).
-/

namespace Pruning.Manifest

variable {separator : Char} {cs text : List Char} {parts : List (List Char)}

/-- What stands in front of an exposed separator has its quotes in pairs. -/
theorem exposes_eq_false_iff (mark : separator ≠ '"') : exposes separator false cs = false ↔
    ∀ before after, cs = before ++ separator :: after → Odd (before.count '"') := by
  constructor
  · rintro hidden before after rfl
    rw [← Nat.not_even_iff_odd, ← closed_iff_even]
    intro outside
    have shown : exposes separator (quotedAfter false before) (separator :: after) = true := by
      rw [outside, exposes, if_neg mark]
      simp
    rw [exposes_append, shown, Bool.or_true] at hidden
    cases hidden
  · intro shielded
    rw [← Bool.not_eq_true]
    intro exposed
    obtain ⟨before, after, split, outside, -⟩ := exists_first_exposed mark exposed
    have paired : Even (before.count '"') := closed_iff_even.mp outside
    exact Nat.not_even_iff_odd.mpr (shielded before after split) paired

/-- Pieces that give a text back when they are joined by the separator. The quotes of each piece come in
pairs, and in front of a separator in a piece stands an odd number of them. -/
structure Decomposes (separator : Char) (text : List Char) (pieces : List (List Char)) : Prop where
  joined : [separator].intercalate pieces = text
  paired : ∀ piece ∈ pieces, Even (piece.count '"')
  shielded : ∀ piece ∈ pieces, ∀ before after, piece = before ++ separator :: after →
    Odd (before.count '"')

/-- The pieces of a decomposition are sealed. -/
theorem decomposes_iff (mark : separator ≠ '"') (filled : parts ≠ []) :
    Decomposes separator text parts ↔ Divides separator text parts := by
  constructor
  · intro decomposes
    refine ⟨filled, fun part held => (sealed_iff mark).mpr ⟨?_, ?_⟩, decomposes.joined⟩
    · exact closed_iff_even.mpr (decomposes.paired part held)
    · exact (exposes_eq_false_iff mark).mpr (decomposes.shielded part held)
  · intro divides
    refine ⟨divides.whole, fun part held => ?_, fun part held => ?_⟩
    · exact closed_iff_even.mp ((divides.sealed part held).closed mark)
    · exact (exposes_eq_false_iff mark).mp ((divides.sealed part held).exposes_eq mark)

/-- A text cannot be split exactly when its quotes do not come in pairs. Any other text is split into the one
list of pieces that decomposes it; only the empty text is made up of no pieces as well as of an empty
one, and it is split into the latter. -/
theorem splitOutside_unique (mark : separator ≠ '"') (text : List Char) :
    (splitOutside separator text = none ↔ Odd (text.count '"')) ∧
      (Even (text.count '"') → ∃ pieces, splitOutside separator text = some pieces ∧ pieces ≠ [] ∧
        Decomposes separator text pieces ∧
        ∀ others, Decomposes separator text others → others = pieces ∨ others = [] ∧ text = []) := by
  have found (paired : Even (text.count '"')) :
      ∃ pieces, splitOutside separator text = some pieces ∧ Divides separator text pieces := by
    obtain ⟨pieces, divides⟩ := exists_divides mark text (closed_iff_even.mpr paired)
    exact ⟨pieces, divides.splitOutside mark, divides⟩
  refine ⟨?_, fun paired => ?_⟩
  · rw [← Nat.not_even_iff_odd]
    constructor
    · intro nothing paired
      obtain ⟨pieces, split, -⟩ := found paired
      rw [nothing] at split
      cases split
    · exact fun unpaired => splitOutside_of_not_closed (mt closed_iff_even.mp unpaired)
  · obtain ⟨pieces, split, divides⟩ := found paired
    refine ⟨pieces, split, divides.filled, (decomposes_iff mark divides.filled).mpr divides, ?_⟩
    intro others decomposes
    by_cases empty : others = []
    · exact Or.inr ⟨empty, by rw [← decomposes.joined, empty]; rfl⟩
    · have again := ((decomposes_iff mark empty).mp decomposes).splitOutside mark
      exact Or.inl (Option.some.inj (again.symm.trans split))

/-- A comma in quotes, commas next to each other, and a comma at the end; and a quote that is left open. -/
theorem splitOutside_unique_library :
    (',' ≠ '"') ∧
      splitOutside ',' "core;x=\"[1,2)\",,ui,".toList =
        some ["core;x=\"[1,2)\"".toList, [], "ui".toList, []] ∧
      (∀ others, Decomposes ',' "core;x=\"[1,2)\",,ui,".toList others →
        others = ["core;x=\"[1,2)\"".toList, [], "ui".toList, []]) ∧
      splitOutside ',' "core;x=\"[1,2)".toList = none := by
  have mark : ',' ≠ '"' := by decide
  have split : splitOutside ',' "core;x=\"[1,2)\",,ui,".toList =
      some ["core;x=\"[1,2)\"".toList, [], "ui".toList, []] := by
    decide
  have whole := (splitOutside_unique mark "core;x=\"[1,2)\",,ui,".toList).2 (by decide)
  have open' := (splitOutside_unique mark "core;x=\"[1,2)".toList).1.mpr (by decide)
  obtain ⟨pieces, found, -, -, only⟩ := whole
  obtain rfl : _ = pieces := Option.some.inj (split.symm.trans found)
  refine ⟨mark, split, fun others decomposes => ?_, open'⟩
  exact (only others decomposes).resolve_right fun both => absurd both.2 (by decide)

end Pruning.Manifest
