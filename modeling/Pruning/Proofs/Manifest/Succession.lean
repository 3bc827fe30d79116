import Pruning.Proofs.Manifest.Fragments

/-!
# Clauses one after the other

A closed value is read piece by piece, whether it is blank or not (`readClauses_of_closed`). A comma after
a closed value ends its last piece, so two values that are joined by a comma are read one after the other:
the clauses of the first come before those of the second, and what the first one is refused for is met
before the second one is read (`clausesOf_comma`).
-/

namespace Pruning.Manifest

variable {value left right : List Char}

/-- The pieces between the commas of a value that show something. -/
def shownPieces (value : List Char) : List (List Char) :=
  (pieces ',' value).filter fun piece => !Text.isBlankText piece

theorem shownPieces_of_blank (blank : Text.isBlankText value = true) : shownPieces value = [] := by
  have whole : Sealed ',' false value := sealed_of_blank (by decide) blank
  rw [shownPieces, pieces_of_sealed (by decide) whole, List.filter_singleton, blank]
  rfl

theorem shownPieces_comma (closed : Closed left) (later : Closed right) :
    shownPieces (left ++ ',' :: right) = shownPieces left ++ shownPieces right := by
  rw [shownPieces, pieces_append (by decide) closed later, List.filter_append]
  rfl

/-- A closed value is read piece by piece; nothing is read from a blank one. -/
theorem readClauses_of_closed (closed : Closed value) :
    readClauses value = (shownPieces value).mapM Clause.read := by
  rw [readClauses]
  by_cases blank : Text.isBlankText value = true
  · rw [if_pos blank, shownPieces_of_blank blank]
    rfl
  · have divides : Divides ',' value (pieces ',' value) := divides_pieces (by decide) closed
    rw [if_neg blank, divides.splitOutside (by decide)]
    rfl

/-- Closed values that are joined by a comma are read one after the other. -/
theorem readClauses_comma (closed : Closed left) (later : Closed right) :
    readClauses (left ++ ',' :: right) = do
      let first ← readClauses left
      let second ← readClauses right
      return first ++ second := by
  have both : Closed (left ++ ',' :: right) := by
    rw [Closed, quotedAfter_append, closed]
    exact later
  rw [readClauses_of_closed both, readClauses_of_closed closed, readClauses_of_closed later,
    shownPieces_comma closed later, List.mapM_append]

/-- The clauses of two values whose quotes come in pairs, joined by a comma, are those of the first value
and then those of the second. When one of the values is refused, the joined value is refused in the same
words, and for the first value if both are. -/
theorem clausesOf_comma {first second : String} (paired : Even (first.toList.count '"'))
    (paired' : Even (second.toList.count '"')) (header : Option String) :
    clausesOf (some (first ++ "," ++ second)) header = do
      let clauses ← clausesOf (some first) header
      let more ← clausesOf (some second) header
      return clauses ++ more := by
  have joined : (first ++ "," ++ second).toList = first.toList ++ ',' :: second.toList := by simp
  have read := readClauses_comma (closed_iff_even.mpr paired) (closed_iff_even.mpr paired')
  simp only [clausesOf, Option.getD_some, joined, read]
  cases readClauses first.toList with
  | error fault => rfl
  | ok clauses =>
    cases readClauses second.toList with
    | error fault => rfl
    | ok more => rfl

/-- A comma and a semicolon in quotes, with blank pieces on both sides of the joint; and two values that
are both refused. -/
theorem clausesOf_comma_library :
    clausesOf (some ("library;range=\"[1,2;)\", " ++ "," ++ " ,editor;core")) none =
        .ok [⟨["library"], [("range", "[1,2;)")], []⟩, ⟨["editor", "core"], [], []⟩] ∧
      clausesOf (some ("library,core; =x" ++ "," ++ ";y=z")) (some "Require-Bundle") =
        .error ⟨.keylessParameter "core; =x", none, some "Require-Bundle"⟩ := by
  constructor
  · rw [clausesOf_comma (by decide) (by decide)]
    rfl
  · rw [clausesOf_comma (by decide) (by decide)]
    rfl

end Pruning.Manifest
