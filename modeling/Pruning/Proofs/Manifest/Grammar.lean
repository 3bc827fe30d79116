import Mathlib.Algebra.Ring.Parity
import Pruning.Proofs.Manifest.Rereading
import Pruning.Proofs.Mapping

/-!
# The grammar of a header value

What a header value has to look like is told by the places of its quotes, separators and equals signs
alone (`IsValue`). Reading accepts just these values (`clausesOf_ok_iff`). A value is refused as a whole
for its quotes only; the pieces between its commas are closed, so nothing is left open in them, and they
are refused for their parameters (`Clause.read_cases`).
-/

namespace Pruning.Manifest

variable {separator : Char} {cs piece value : List Char}

/-! ## The grammar -/

/-- A text is one of the pieces between the separators of another that stand outside of quotes. -/
def PieceOf (separator : Char) (cs piece : List Char) : Prop :=
  ∃ parts, Divides separator cs parts ∧ piece ∈ parts

/-- A part of a clause that begins with the sign of a parameter. -/
def Keyless (part : List Char) : Prop :=
  ['='] <+: part ∨ [':', '='] <+: part

/-- A piece of a value that is a clause: parameters have keys, and there is a name. -/
structure IsClause (cs : List Char) : Prop where
  keyed : ∀ part, PieceOf ';' cs part → ¬ Keyless (Text.trim part)
  named : ∃ part, PieceOf ';' cs part ∧ Text.trim part ≠ [] ∧ '=' ∉ Text.trim part

/-- A header value: its quotes come in pairs, and what stands between its commas is blank or a clause. -/
structure IsValue (value : List Char) : Prop where
  paired : Even (value.count '"')
  clauses : ∀ piece, PieceOf ',' value piece → Text.isBlankText piece = false → IsClause piece

/-- Splitting finds the pieces between the separators. -/
theorem pieceOf_iff (mark : separator ≠ '"') :
    PieceOf separator cs piece ↔ piece ∈ pieces separator cs := by
  constructor
  · rintro ⟨parts, divides, held⟩
    rwa [pieces, divides.splitOutside mark]
  · intro held
    by_cases closed : Closed cs
    · exact ⟨pieces separator cs, divides_pieces mark closed, held⟩
    · rw [pieces, splitOutside_of_not_closed closed] at held
      cases held

instance (part : List Char) : Decidable (Keyless part) :=
  inferInstanceAs (Decidable (_ ∨ _))

instance (cs : List Char) : Decidable (IsClause cs) :=
  decidable_of_iff
    ((∀ part ∈ pieces ';' cs, ¬ Keyless (Text.trim part)) ∧
      ∃ part ∈ pieces ';' cs, Text.trim part ≠ [] ∧ '=' ∉ Text.trim part) <| by
    simp only [← pieceOf_iff (by decide : ';' ≠ '"')]
    exact ⟨fun ⟨keyed, named⟩ => ⟨keyed, named⟩, fun clause => ⟨clause.keyed, clause.named⟩⟩

instance (value : List Char) : Decidable (IsValue value) :=
  decidable_of_iff
    (Even (value.count '"') ∧
      ∀ piece ∈ pieces ',' value, Text.isBlankText piece = false → IsClause piece) <| by
    simp only [← pieceOf_iff (by decide : ',' ≠ '"')]
    exact ⟨fun ⟨paired, clauses⟩ => ⟨paired, clauses⟩, fun fits => ⟨fits.paired, fits.clauses⟩⟩

theorem PieceOf.closed (mark : separator ≠ '"') (found : PieceOf separator cs piece) :
    Closed piece := by
  obtain ⟨parts, divides, held⟩ := found
  exact (divides.sealed piece held).closed mark

namespace Clause

/-! ## The parts of a clause -/

namespace Part

/-- A text that starts with a key begins with a sign only if the key is a colon. -/
theorem key_of_keyless {key rest : List Char} (filled : key ≠ []) (signless : '=' ∉ key)
    (keyless : Keyless (key ++ rest)) : key = [':'] ∧ rest.head? = some '=' := by
  obtain ⟨c, key, rfl⟩ := List.exists_cons_of_ne_nil filled
  rw [List.mem_cons, not_or] at signless
  rcases keyless with start | start
  · rw [List.cons_append, List.cons_prefix_cons] at start
    exact absurd start.1 signless.1
  · rw [List.cons_append, List.cons_prefix_cons] at start
    obtain ⟨rfl, start⟩ := start
    cases key with
    | nil =>
      rw [List.nil_append, List.singleton_prefix_iff_head?_eq_some] at start
      exact ⟨rfl, start⟩
    | cons d key =>
      rw [List.cons_append, List.cons_prefix_cons] at start
      exact absurd (start.1 ▸ List.mem_cons_self) signless.2

/-- A part has a key unless it begins with its sign. -/
theorem hasKey_of_iff (trimmed : Text.trim cs = cs) : (of cs).HasKey ↔ ¬ Keyless cs := by
  -- A key starts its part, which is trimmed, so a key is not made of white space.
  rcases forms cs with signless | ⟨key, rest, signless, open', rfl⟩ | ⟨key, rest, signless, rfl⟩
  · rw [of_name signless]
    refine iff_of_true trivial ?_
    rintro (⟨rest, rfl⟩ | ⟨rest, rfl⟩)
    · exact signless (by simp)
    · exact signless (by simp)
  · rw [of_attribute signless open', HasKey]
    by_cases filled : key = []
    · rw [filled]
      exact iff_of_false (fun shown => shown rfl) (not_not_intro (Or.inl ⟨rest, rfl⟩))
    · refine iff_of_true (Text.trim_ne_nil_of_append trimmed filled) fun keyless => ?_
      obtain ⟨rfl, -⟩ := key_of_keyless filled signless keyless
      exact open' rfl
  · rw [of_directive signless, HasKey]
    by_cases filled : key = []
    · rw [filled]
      exact iff_of_false (fun shown => shown rfl) (not_not_intro (Or.inr ⟨rest, rfl⟩))
    · refine iff_of_true (Text.trim_ne_nil_of_append trimmed filled) fun keyless => ?_
      obtain ⟨-, sign⟩ := key_of_keyless filled signless keyless
      cases sign

/-- What a part adds to the names of a clause. -/
def names : Part → List String
  | .name cs => [String.ofList cs]
  | .attribute _ _ => []
  | .directive _ _ => []

theorem names_of_eq_nil_iff : (of cs).names = [] ↔ '=' ∈ cs := by
  rcases forms cs with signless | ⟨key, rest, signless, open', rfl⟩ | ⟨key, rest, signless, rfl⟩
  · rw [of_name signless]
    exact iff_of_false (List.cons_ne_nil _ _) signless
  · rw [of_attribute signless open']
    exact iff_of_true rfl (by simp)
  · rw [of_directive signless]
    exact iff_of_true rfl (by simp)

end Part

/-! ## Reading a clause -/

/-- A part is added exactly when it has a key. -/
theorem add_cases (clause : Clause) (part : Part) :
    ¬ part.HasKey ∧ add clause part = none ∨
      part.HasKey ∧ ∃ made, add clause part = some made ∧
        made.names = clause.names ++ part.names := by
  have kept : clause.names = clause.names ++ [] := (List.append_nil _).symm
  rcases part with name | ⟨key, value⟩ | ⟨key, value⟩
  · exact Or.inr ⟨trivial, _, rfl, rfl⟩
  · cases key with
    | nil => exact Or.inl ⟨fun shown => shown rfl, rfl⟩
    | cons c key => exact Or.inr ⟨List.cons_ne_nil c key, _, rfl, kept⟩
  · cases key with
    | nil => exact Or.inl ⟨fun shown => shown rfl, rfl⟩
    | cons c key => exact Or.inr ⟨List.cons_ne_nil c key, _, rfl, kept⟩

/-- Parts are added exactly when all of them have keys. -/
theorem foldlM_add_cases (parts : List Part) (clause : Clause) :
    (¬ ∀ part ∈ parts, part.HasKey) ∧ parts.foldlM add clause = none ∨
      (∀ part ∈ parts, part.HasKey) ∧ ∃ made, parts.foldlM add clause = some made ∧
        made.names = clause.names ++ parts.flatMap Part.names := by
  induction parts generalizing clause with
  | nil => exact Or.inr ⟨List.forall_mem_nil _, clause, rfl, (List.append_nil _).symm⟩
  | cons part parts ih =>
    rw [List.foldlM_cons, List.forall_mem_cons]
    rcases add_cases clause part with ⟨keyless, stop⟩ | ⟨hasKey, next, step, names⟩
    · rw [stop]
      exact Or.inl ⟨fun all => keyless all.1, rfl⟩
    · rw [step]
      rcases ih next with ⟨keyless, stop⟩ | ⟨keyed, made, rest, added⟩
      · exact Or.inl ⟨fun all => keyless all.2, stop⟩
      · refine Or.inr ⟨⟨hasKey, keyed⟩, made, rest, ?_⟩
        rw [added, names, List.flatMap_cons, List.append_assoc]

/-- The parts of a clause that show something. -/
def partsOf (cs : List Char) : List Part :=
  (((pieces ';' cs).map Text.trim).filter fun piece => !piece.isEmpty).map Part.of

theorem mem_partsOf_iff {part : Part} : part ∈ partsOf cs ↔
    ∃ text, PieceOf ';' cs text ∧ Text.trim text ≠ [] ∧ Part.of (Text.trim text) = part := by
  have mark : ';' ≠ '"' := by decide
  simp only [pieceOf_iff mark]
  simp [partsOf, and_assoc]

theorem keyed_iff : (∀ part ∈ partsOf cs, part.HasKey) ↔
    ∀ part, PieceOf ';' cs part → ¬ Keyless (Text.trim part) := by
  constructor
  · intro all part found keyless
    -- What begins with a sign shows something, so it is among the parts that are added.
    have filled : Text.trim part ≠ [] := by
      intro nothing
      rw [nothing] at keyless
      exact absurd keyless (by decide)
    have held := all _ (mem_partsOf_iff.mpr ⟨part, found, filled, rfl⟩)
    exact (Part.hasKey_of_iff (Text.trim_trim part)).mp held keyless
  · intro all part held
    obtain ⟨text, found, -, rfl⟩ := mem_partsOf_iff.mp held
    exact (Part.hasKey_of_iff (Text.trim_trim text)).mpr (all text found)

theorem named_iff : (partsOf cs).flatMap Part.names ≠ [] ↔
    ∃ part, PieceOf ';' cs part ∧ Text.trim part ≠ [] ∧ '=' ∉ Text.trim part := by
  have named (text : List Char) : (Part.of (Text.trim text)).names ≠ [] ↔ '=' ∉ Text.trim text :=
    not_congr Part.names_of_eq_nil_iff
  constructor
  · intro filled
    obtain ⟨name, held⟩ := List.exists_mem_of_ne_nil _ filled
    obtain ⟨part, among, own⟩ := List.mem_flatMap.mp held
    obtain ⟨text, found, shown, rfl⟩ := mem_partsOf_iff.mp among
    exact ⟨text, found, shown, (named text).mp (List.ne_nil_of_mem own)⟩
  · rintro ⟨text, found, shown, signless⟩ nothing
    have among := mem_partsOf_iff.mpr ⟨text, found, shown, rfl⟩
    exact (named text).mpr signless (List.flatMap_eq_nil_iff.mp nothing _ among)

/-- What becomes of a closed text that is read as a clause. -/
theorem read_cases (closed : Closed cs) :
    (¬ ∀ part, PieceOf ';' cs part → ¬ Keyless (Text.trim part)) ∧
        read cs = .error (.keylessParameter (String.ofList cs)) ∨
      (¬ ∃ part, PieceOf ';' cs part ∧ Text.trim part ≠ [] ∧ '=' ∉ Text.trim part) ∧
        read cs = .error (.namelessClause (String.ofList cs)) ∨
      IsClause cs ∧ ∃ clause, read cs = .ok clause := by
  obtain ⟨parts, divides⟩ := exists_divides (by decide : ';' ≠ '"') cs closed
  have split := divides.splitOutside (by decide)
  have own : (parts.map Text.trim |>.filter fun piece => !piece.isEmpty).map Part.of =
      partsOf cs := by
    rw [partsOf, pieces, split, Option.getD_some]
  rw [← keyed_iff, ← named_iff, read, split]
  dsimp only
  rw [own]
  rcases foldlM_add_cases (partsOf cs) ⟨[], [], []⟩ with ⟨keyless, stop⟩ | ⟨keyed, made, folded, names⟩
  · rw [stop]
    exact Or.inl ⟨keyless, rfl⟩
  · rw [folded]
    rw [List.nil_append] at names
    dsimp only
    by_cases nameless : made.names = []
    · rw [nameless] at names
      rw [if_pos (List.isEmpty_iff.mpr nameless)]
      exact Or.inr (Or.inl ⟨not_not_intro names.symm, rfl⟩)
    · rw [if_neg (mt List.isEmpty_iff.mp nameless)]
      exact Or.inr (Or.inr ⟨⟨keyed_iff.mp keyed, named_iff.mp (names ▸ nameless)⟩, made, rfl⟩)

/-- Closed texts that are clauses are accepted, and no others. -/
theorem read_ok_iff (closed : Closed cs) : (∃ clause, read cs = .ok clause) ↔ IsClause cs := by
  rcases read_cases closed with ⟨keyless, refused⟩ | ⟨nameless, refused⟩ | ⟨isClause, accepted⟩
  · refine iff_of_false ?_ fun isClause => keyless isClause.keyed
    simp [refused]
  · refine iff_of_false ?_ fun isClause => nameless isClause.named
    simp [refused]
  · exact iff_of_true accepted isClause

/-- No quote is left open in a closed text. -/
theorem message_of_read {fault : Fault} (closed : Closed cs) (refused : read cs = .error fault) :
    fault.message ∈ ["Parameter without a key", "Clause without a name"] := by
  rcases read_cases closed with ⟨-, found⟩ | ⟨-, found⟩ | ⟨-, clause, found⟩
  · obtain rfl : _ = fault := Except.error.inj (found.symm.trans refused)
    exact List.mem_cons_self
  · obtain rfl : _ = fault := Except.error.inj (found.symm.trans refused)
    exact List.mem_cons_of_mem _ List.mem_cons_self
  · rw [found] at refused
    cases refused

end Clause

/-! ## Reading a value -/

/-- What is blank fits the grammar: it has neither quotes nor commas. -/
theorem isValue_of_blank (blank : Text.isBlankText value = true) : IsValue value := by
  have whole : Sealed ',' false value := sealed_of_blank (by decide) blank
  constructor
  · exact closed_iff_even.mp (whole.closed (by decide))
  · intro piece found shows
    rw [pieceOf_iff (by decide), pieces_of_sealed (by decide) whole, List.mem_singleton] at found
    rw [found, blank] at shows
    cases shows

/-- What becomes of a text that is read as a value. -/
theorem readClauses_cases (value : List Char) :
    ¬ Even (value.count '"') ∧ readClauses value = .error (.openQuote (String.ofList value)) ∨
      Even (value.count '"') ∧ (∃ fault piece, readClauses value = .error fault ∧
        PieceOf ',' value piece ∧ Text.isBlankText piece = false ∧
          Clause.read piece = .error fault) ∨
      IsValue value ∧ ∃ clauses, readClauses value = .ok clauses := by
  have mark : ',' ≠ '"' := by decide
  rw [readClauses]
  by_cases blank : Text.isBlankText value = true
  · rw [if_pos blank]
    exact Or.inr (Or.inr ⟨isValue_of_blank blank, [], rfl⟩)
  rw [if_neg blank]
  by_cases paired : Even (value.count '"')
  · obtain ⟨parts, divides⟩ := exists_divides mark value (closed_iff_even.mpr paired)
    have split := divides.splitOutside mark
    let shown := parts.filter fun piece => !Text.isBlankText piece
    have mem_shown (piece : List Char) :
        piece ∈ shown ↔ PieceOf ',' value piece ∧ Text.isBlankText piece = false := by
      rw [List.mem_filter, pieceOf_iff mark, pieces, split, Option.getD_some, Bool.not_eq_true']
    rw [split]
    rcases mapM_cases Clause.read shown with ⟨fault, stop, piece, held, refused⟩ | ⟨made, each⟩
    · obtain ⟨found, shows⟩ := (mem_shown piece).mp held
      exact Or.inr (Or.inl ⟨paired, fault, piece, stop, found, shows, refused⟩)
    · refine Or.inr (Or.inr ⟨⟨paired, fun piece found shows => ?_⟩, made⟩)
      have accepted := each piece ((mem_shown piece).mpr ⟨found, shows⟩)
      exact (Clause.read_ok_iff (found.closed mark)).mp accepted
  · rw [splitOutside_of_not_closed (mt closed_iff_even.mp paired)]
    exact Or.inl ⟨paired, rfl⟩

/-- What a value can be refused for. -/
theorem message_of_readClauses {fault : Fault} (refused : readClauses value = .error fault) :
    fault.message ∈ ["Unterminated quoted value", "Parameter without a key", "Clause without a name"] ∧
      (fault.message = "Unterminated quoted value" ↔ ¬ Even (value.count '"')) := by
  rcases readClauses_cases value with ⟨unpaired, found⟩ |
    ⟨paired, other, piece, found, among, -, failed⟩ | ⟨-, clauses, found⟩
  · rw [refused] at found
    cases found
    exact ⟨List.mem_cons_self, iff_of_true rfl unpaired⟩
  · rw [refused] at found
    cases found
    have known := Clause.message_of_read (among.closed (by decide)) failed
    refine ⟨List.mem_cons_of_mem _ known, iff_of_false ?_ (not_not_intro paired)⟩
    intro quote
    rw [quote] at known
    exact absurd known (by decide)
  · rw [refused] at found
    cases found

/-- A value is accepted when it fits the grammar. -/
theorem readClauses_ok_iff : (∃ clauses, readClauses value = .ok clauses) ↔ IsValue value := by
  rcases readClauses_cases value with ⟨unpaired, found⟩ |
    ⟨paired, fault, piece, found, among, shows, failed⟩ | ⟨isValue, accepted⟩
  · refine iff_of_false ?_ fun isValue => unpaired isValue.paired
    simp [found]
  · refine iff_of_false ?_ fun isValue => ?_
    · simp [found]
    · have isClause := isValue.clauses piece among shows
      obtain ⟨clause, read⟩ := (Clause.read_ok_iff (among.closed (by decide))).mpr isClause
      rw [failed] at read
      cases read
  · exact iff_of_true accepted isValue

/-- A header value is accepted exactly when it is blank or fits the grammar. It is refused for a quote
that is left open exactly when its quotes do not come in pairs, and else for a parameter without a key or
a clause without a name; in the pieces between its commas, the search for semicolons does not fail. -/
theorem clausesOf_ok_iff (value : String) (header : Option String) :
    ((∃ clauses, clausesOf (some value) header = .ok clauses) ↔
        Text.isBlankText value.toList = true ∨ IsValue value.toList) ∧
      (Odd (value.toList.count '"') ↔ ∃ refusal, clausesOf (some value) header = .error refusal ∧
        refusal.report.message = "Unterminated quoted value") ∧
      (∀ refusal, clausesOf (some value) header = .error refusal → refusal.report.message ∈
        ["Unterminated quoted value", "Parameter without a key", "Clause without a name"]) ∧
      ∀ piece, PieceOf ',' value.toList piece → ∃ parts, splitOutside ';' piece = some parts := by
  have divided : ∀ piece, PieceOf ',' value.toList piece →
      ∃ parts, splitOutside ';' piece = some parts := by
    intro piece found
    obtain ⟨parts, divides⟩ := exists_divides (by decide : ';' ≠ '"') piece (found.closed (by decide))
    exact ⟨parts, divides.splitOutside (by decide)⟩
  have accepts : (∃ clauses, readClauses value.toList = .ok clauses) ↔ IsValue value.toList :=
    readClauses_ok_iff
  rw [or_iff_right_of_imp isValue_of_blank, ← accepts, ← Nat.not_even_iff_odd, clausesOf,
    Option.getD_some]
  cases read : readClauses value.toList with
  | ok clauses =>
    have paired := (accepts.mp ⟨clauses, read⟩).paired
    refine ⟨by simp, iff_of_false (not_not_intro paired) ?_, ?_, divided⟩
    · simp
    · simp
  | error fault =>
    obtain ⟨known, quote⟩ := message_of_readClauses read
    refine ⟨by simp, ?_, ?_, divided⟩
    · rw [← quote]
      constructor
      · exact fun message => ⟨_, rfl, message⟩
      · rintro ⟨_, ⟨⟩, message⟩
        exact message
    · rintro _ ⟨⟩
      exact known

example : IsValue "library; x = \"a,=b;c\"; visibility:=reexport,, other".toList ∧
    ¬ IsValue "library; :=reexport".toList := by
  decide +kernel

end Pruning.Manifest
