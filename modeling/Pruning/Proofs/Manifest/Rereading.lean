import Mathlib.Data.List.MinMax
import Pruning.Proofs.Manifest.Fragments
import Pruning.Proofs.Mapping

/-!
# Reading what was written for a value

Clauses that were read are written and read again. Every part of a clause was taken from a fragment of
the value (`exists_fragment_of_readClauses`), and so it is well formed (`Part.Sound`). Nothing more can
be said of it: quotes inside of a value are kept, and the key of an attribute may end in a colon. So what
is written for a part can be cut at a separator or taken for a directive. The clauses come back exactly
when neither happens to any of their parts (`clausesOf_valueText_iff`).

That a single broken part cannot be made up for by others is seen by its size: the parts that are read
from what was written for a divided part are smaller than it (`Part.size_lt_of_divided`). So a largest
one among the divided parts is not read again.
-/

namespace Pruning.Manifest

variable {cs fragment : List Char} {clause : Clause} {clauses : List Clause}

namespace Clause.Part

variable {part : Part}

/-- What stands before the value of a part. A name has no value. -/
def stem : Part → List Char
  | .name cs => cs
  | .attribute key _ => key ++ ['=']
  | .directive key _ => key ++ [':', '=']

/-- The value of a part. -/
def value : Part → List Char
  | .name _ => []
  | .attribute _ value => value
  | .directive _ value => value

/-- The size of a part, without quotes around its value. -/
def size (part : Part) : Nat :=
  (part.stem ++ part.value).length

/-- A part as it is found in a value that was accepted. -/
structure Sound (part : Part) : Prop where
  keyed : part.Keyed
  undivided : Undivided part.stem
  closed : Closed (part.stem ++ part.value)
  /-- A name is what is left of a fragment, and a fragment is trimmed and not blank. -/
  shown : ∀ cs, part = .name cs → Text.trim cs = cs ∧ cs ≠ []

/-- A part whose text is read as one part of its own kind. -/
structure Unmistakable (part : Part) : Prop where
  closed : part.IsClosed
  undivided : Undivided part.text

instance (part : Part) : Decidable part.IsClosed :=
  match part with
  | .name _ => inferInstanceAs (Decidable True)
  | .attribute key _ => inferInstanceAs (Decidable (key.getLast? ≠ some ':'))
  | .directive _ _ => inferInstanceAs (Decidable True)

instance (part : Part) : Decidable part.Unmistakable :=
  decidable_of_iff (part.IsClosed ∧ Undivided part.text)
    ⟨fun ⟨closed, undivided⟩ => ⟨closed, undivided⟩, fun ⟨closed, undivided⟩ => ⟨closed, undivided⟩⟩

/-! ## Parts that are read -/

/-- The three forms of a part: a name, an attribute and a directive. -/
theorem forms (cs : List Char) : '=' ∉ cs ∨
    (∃ key rest, '=' ∉ key ∧ key.getLast? ≠ some ':' ∧ cs = key ++ '=' :: rest) ∨
    ∃ key rest, '=' ∉ key ∧ cs = key ++ ':' :: '=' :: rest := by
  by_cases sign : '=' ∈ cs
  · obtain ⟨key, rest, whole, signless⟩ := List.eq_append_cons_of_mem sign
    by_cases colon : key.getLast? = some ':'
    · obtain ⟨start, rfl⟩ := List.getLast?_eq_some_iff.mp colon
      refine Or.inr (Or.inr ⟨start, rest, fun held => signless (List.mem_append_left _ held), ?_⟩)
      rw [whole, List.append_assoc, List.singleton_append]
    · exact Or.inr (Or.inl ⟨key, rest, signless, colon, whole⟩)
  · exact Or.inl sign

/-- Taking a text apart does not add to it. -/
theorem size_of_le (cs : List Char) : (of cs).size ≤ cs.length := by
  rcases forms cs with signless | ⟨key, rest, signless, closed, rfl⟩ | ⟨key, rest, signless, rfl⟩
  · rw [of_name signless, size, stem, value, List.append_nil]
  · have keyShort := (Text.trim_sublist key).length_le
    have valueShort := length_unquote_le rest
    rw [of_attribute signless closed, size, stem, value]
    simp only [List.length_append, List.length_cons, List.length_nil]
    omega
  · have keyShort := (Text.trim_sublist key).length_le
    have valueShort := length_unquote_le rest
    rw [of_directive signless, size, stem, value]
    simp only [List.length_append, List.length_cons, List.length_nil]
    omega

/-- A parameter that is added to a clause has a key. -/
def HasKey : Part → Prop
  | .name _ => True
  | .attribute key _ => key ≠ []
  | .directive key _ => key ≠ []

theorem isKey_trim {key : List Char} (filled : Text.trim key ≠ []) (signless : '=' ∉ key) :
    IsKey (Text.trim key) where
  filled
  trimmed := Text.trim_trim key
  signless held := signless ((Text.trim_sublist key).mem held)

/-- A part that is taken from a piece is sound, if it has a key. -/
theorem sound_of (piece : Piece cs) (hasKey : (of cs).HasKey) : (of cs).Sound := by
  have closed : quotedAfter false cs = false := piece.closed
  have undivided := piece.undivided
  rcases forms cs with signless | ⟨key, rest, signless, open', rfl⟩ | ⟨key, rest, signless, rfl⟩
  · rw [of_name signless]
    refine ⟨signless, undivided, ?_, ?_⟩
    · rwa [stem, value, List.append_nil]
    · rintro _ ⟨⟩
      exact ⟨piece.trimmed, piece.filled⟩
  · rw [of_attribute signless open'] at hasKey ⊢
    refine ⟨isKey_trim hasKey signless, ?_, ?_, ?_⟩
    · rw [← List.singleton_append, ← List.append_assoc] at undivided
      exact (undivided_trim_append key ['=']).mpr undivided.of_append
    · simpa [Closed, stem, value, quotedAfter_trim, quotedAfter_unquote] using closed
    · rintro _ ⟨⟩
  · rw [of_directive signless] at hasKey ⊢
    have order : key ++ ':' :: '=' :: rest = key ++ [':', '='] ++ rest := by simp
    refine ⟨isKey_trim hasKey signless, ?_, ?_, ?_⟩
    · rw [order] at undivided
      exact (undivided_trim_append key [':', '=']).mpr undivided.of_append
    · simpa [Closed, stem, value, quotedAfter_trim, quotedAfter_unquote] using closed
    · rintro _ ⟨⟩

/-! ## What is written for a part -/

/-- A parameter is written as its stem and its value; a name is its stem. -/
theorem text_cases (part : Part) : part.text = part.stem ∧ part.value = [] ∨
    part.stem ≠ [] ∧ part.text = part.stem ++ (writeValue (String.ofList part.value)).toList := by
  rcases part with cs | ⟨key, value⟩ | ⟨key, value⟩
  · exact Or.inl ⟨rfl, rfl⟩
  · exact Or.inr ⟨List.concat_ne_nil _ _, rfl⟩
  · exact Or.inr ⟨List.append_ne_nil_of_right_ne_nil _ (by decide), rfl⟩

theorem Sound.closed_text (sound : part.Sound) : Closed part.text := by
  have closed : quotedAfter false (part.stem ++ part.value) = false := sound.closed
  rw [Closed]
  rcases text_cases part with ⟨same, nothing⟩ | ⟨-, written⟩
  · rwa [nothing, List.append_nil, ← same] at closed
  · rwa [written, quotedAfter_append, quotedAfter_writeValue, String.toList_ofList,
      ← quotedAfter_append]

theorem Sound.text_ne_nil (sound : part.Sound) : part.text ≠ [] := by
  rcases part with cs | ⟨key, value⟩ | ⟨key, value⟩
  · exact (sound.shown cs rfl).2
  · exact List.append_ne_nil_of_right_ne_nil _ (writeValue_ne_nil _)
  · exact List.append_ne_nil_of_right_ne_nil _ (writeValue_ne_nil _)

theorem Sound.trim_text (sound : part.Sound) : Text.trim part.text = part.text := by
  have written (value : List Char) := trim_writeValue (String.ofList value)
  have filled (value : List Char) := writeValue_ne_nil (String.ofList value)
  rcases part with cs | ⟨key, value⟩ | ⟨key, value⟩
  · exact (sound.shown cs rfl).1
  · have keyed : IsKey key := sound.keyed
    exact Text.trim_between keyed.trimmed keyed.filled (written value) (filled value) ['=']
  · have keyed : IsKey key := sound.keyed
    exact Text.trim_between keyed.trimmed keyed.filled (written value) (filled value) [':', '=']

/-- A sound part comes back if it is unmistakable. -/
theorem Sound.restorable (sound : part.Sound) (clear : part.Unmistakable) : part.Restorable where
  piece := ⟨clear.undivided.sealed sound.closed_text, sound.trim_text, sound.text_ne_nil⟩
  keyed := sound.keyed
  closed := clear.closed

/-- A separator that cuts quotes off a text leaves more than a quote after it. -/
theorem length_of_cut {separator : Char} {inner before after : List Char} (mark : separator ≠ '"')
    (closed : Closed after) (cut : '"' :: (inner ++ ['"']) = before ++ separator :: after) :
    0 < before.length ∧ 1 < after.length := by
  constructor
  · rw [List.length_pos_iff]
    rintro rfl
    exact mark (List.cons.inj cut).1.symm
  · have last : (before ++ separator :: after).getLast? = some '"' := by
      rw [← cut, ← List.cons_append, List.getLast?_concat]
    rcases after with - | ⟨c, - | ⟨c', after⟩⟩
    · exact absurd (by simpa using last) mark
    · obtain rfl : c = '"' := by simpa using last
      cases closed
    · simp

/-- The parts that are read from what is written for a divided part are smaller than it. -/
theorem size_lt_of_divided (sound : part.Sound) (divided : ¬ Undivided part.text)
    (held : fragment ∈ fragments part.text) : (of (Text.trim fragment)).size < part.size := by
  have notStem : part.text ≠ part.stem := fun same => divided (same ▸ sound.undivided)
  obtain ⟨filled, written⟩ := (text_cases part).resolve_left fun both => notStem both.1
  have closed : Closed part.text := sound.closed_text
  obtain ⟨separator, usual, exposed⟩ :
      ∃ separator ∈ separators, exposes separator false part.text = true := by
    simpa [Undivided] using divided
  rw [written, exposes_append, sound.undivided separator usual, Bool.false_or] at exposed
  -- The separator is exposed by the quotes of the value, so quotes were put around it.
  have enclosed : (writeValue (String.ofList part.value)).toList = '"' :: (part.value ++ ['"']) := by
    rcases writeValue_cases (String.ofList part.value) with ⟨same, -, bare⟩ | enclosed
    · have absent : separator ∉ (writeValue (String.ofList part.value)).toList := by
        intro held
        rw [same] at held
        have needs : needsQuotes separator = true := by
          rcases List.mem_pair.mp usual with rfl | rfl
          · decide
          · decide
        exact absurd (bare separator held) (by simp [needs])
      rw [exposes_of_not_mem absent] at exposed
      cases exposed
    · rwa [String.toList_ofList] at enclosed
  rw [enclosed] at exposed written
  have mark := ne_quote_of_mem usual
  obtain ⟨before, after, cut, outside, -⟩ := exists_first_exposed mark exposed
  have start : Closed (part.stem ++ before) := by rw [Closed, quotedAfter_append, outside]
  have order : part.text = (part.stem ++ before) ++ separator :: after := by
    rw [written, cut, List.append_assoc]
  have stop : Closed after := by
    rw [order, Closed, quotedAfter_append, start, quotedAfter_cons, if_neg mark] at closed
    exact closed
  obtain ⟨beforeLong, afterLong⟩ := length_of_cut mark stop cut
  have lengths := congrArg List.length cut
  have read := size_of_le (Text.trim fragment)
  have trimmed := (Text.trim_sublist fragment).length_le
  rw [order, fragments_append usual start stop, List.mem_append] at held
  simp only [List.length_cons, List.length_append, List.length_nil] at lengths
  have whole : part.size = part.stem.length + part.value.length := List.length_append
  have stemLong := List.length_pos_iff.mpr filled
  rcases held with held | held
  · have short := (Fragment.of_mem start held).shorter
    rw [List.length_append] at short
    omega
  · have short := (Fragment.of_mem stop held).shorter
    omega

/-- What is read from what is written for an undivided part is unmistakable. -/
theorem unmistakable_of_undivided (sound : part.Sound) (undivided : Undivided part.text)
    (held : fragment ∈ fragments part.text) : (of (Text.trim fragment)).Unmistakable := by
  rw [fragments_of_undivided sound.closed_text undivided, List.mem_singleton] at held
  rw [held, sound.trim_text]
  by_cases closed : part.IsClosed
  · rw [of_text sound.keyed closed]
    exact ⟨closed, undivided⟩
  · rcases part with cs | ⟨key, value⟩ | ⟨key, value⟩
    · exact absurd trivial closed
    · -- The colon of the key is read as a sign of a directive.
      have keyed : IsKey key := sound.keyed
      obtain ⟨start, rfl⟩ := List.getLast?_eq_some_iff.mp (not_not.mp closed)
      have signless : '=' ∉ start := fun held => keyed.signless (List.mem_append_left _ held)
      have order : text (.attribute (start ++ [':']) value) =
          start ++ ':' :: '=' :: (writeValue (String.ofList value)).toList := by
        simp [text]
      rw [order] at undivided ⊢
      rw [of_directive signless, unquote_writeValue, String.toList_ofList]
      refine ⟨trivial, ?_⟩
      rw [text, List.append_assoc]
      exact (undivided_trim_append start _).mpr undivided
    · exact absurd trivial closed

/-- Parts that are all read again from what is written for them are unmistakable. -/
theorem unmistakable_of_reread {parts : List Part} (sound : ∀ part ∈ parts, part.Sound)
    (reread : ∀ part ∈ parts, ∃ source ∈ parts, ∃ fragment ∈ fragments source.text,
      of (Text.trim fragment) = part) :
    ∀ part ∈ parts, part.Unmistakable := by
  have undivided : ∀ part ∈ parts, Undivided part.text := by
    by_contra divided
    push Not at divided
    obtain ⟨some', among, broken⟩ := divided
    -- A largest divided part is read from a part that is larger still, or from an undivided one.
    let divided := parts.filter fun part => ¬ Undivided part.text
    have nonempty : divided ≠ [] :=
      List.ne_nil_of_mem (List.mem_filter.mpr ⟨among, decide_eq_true broken⟩)
    obtain ⟨largest, isLargest⟩ : ∃ largest, divided.argmax size = some largest :=
      Option.ne_none_iff_exists'.mp (mt List.argmax_eq_none.mp nonempty)
    obtain ⟨held, isDivided⟩ := List.mem_filter.mp (List.argmax_mem isLargest)
    obtain ⟨source, sourceHeld, fragment, found, rfl⟩ := reread largest held
    by_cases whole : Undivided source.text
    · exact of_decide_eq_true isDivided
        (unmistakable_of_undivided (sound source sourceHeld) whole found).undivided
    · have smaller := size_lt_of_divided (sound source sourceHeld) whole found
      have among : source ∈ divided := List.mem_filter.mpr ⟨sourceHeld, decide_eq_true whole⟩
      exact absurd (List.le_of_mem_argmax among isLargest) (Nat.not_le_of_lt smaller)
  intro part held
  obtain ⟨source, sourceHeld, fragment, found, rfl⟩ := reread part held
  exact unmistakable_of_undivided (sound source sourceHeld) (undivided source sourceHeld) found

end Clause.Part

/-! ## Clauses that are read -/

namespace Clause

/-- A clause that is made up of texts: each part is one of them, taken apart. -/
structure TakenFrom (texts : List (List Char)) (clause : Clause) : Prop where
  parts : ∀ part ∈ clause.parts, part.HasKey ∧
    ∃ text ∈ texts, Text.trim text ≠ [] ∧ Part.of (Text.trim text) = part
  attributes : (Fields.keys clause.attributes).Nodup
  directives : (Fields.keys clause.directives).Nodup

variable {texts : List (List Char)} {part : Part}

/-- What a clause has among its parts. -/
def Has (clause : Clause) : Part → Prop
  | .name cs => String.ofList cs ∈ clause.names
  | .attribute key value => (String.ofList key, String.ofList value) ∈ clause.attributes
  | .directive key value => (String.ofList key, String.ofList value) ∈ clause.directives

theorem mem_parts_iff : part ∈ clause.parts ↔ clause.Has part := by
  have written (s : String) (cs : List Char) : s.toList = cs ↔ s = String.ofList cs :=
    ⟨fun same => same ▸ (String.ofList_toList).symm, fun same => same ▸ String.toList_ofList⟩
  rcases part with cs | ⟨key, value⟩ | ⟨key, value⟩
  · simp [parts, Has, written]
  · simp [parts, Has, written]
  · simp [parts, Has, written]

/-- Of the parameters that are there after one was entered, that one is new. -/
theorem mem_put_ofList {key value key' value' : List Char} {fields : Fields String}
    (held : (String.ofList key', String.ofList value') ∈
      Fields.put (String.ofList key) (String.ofList value) fields) :
    (String.ofList key', String.ofList value') ∈ fields ∨ key' = key ∧ value' = value := by
  refine (Fields.mem_put held).symm.imp_right fun new => ?_
  obtain ⟨sameKey, sameValue⟩ := Prod.ext_iff.mp new
  exact ⟨String.ofList_injective sameKey, String.ofList_injective sameValue⟩

/-- The part that is added is the only new one. -/
theorem mem_parts_add {clause' : Clause} {other : Part} (added : add clause part = some clause')
    (held : other ∈ clause'.parts) : other ∈ clause.parts ∨ other = part ∧ part.HasKey := by
  rw [mem_parts_iff] at held ⊢
  rcases part with name | ⟨key, value⟩ | ⟨key, value⟩
  · cases added
    rcases other with cs | _ | _
    · refine (List.mem_append.mp held).imp_right fun new => ?_
      exact ⟨congrArg _ (String.ofList_injective (List.mem_singleton.mp new)), trivial⟩
    · exact Or.inl held
    · exact Or.inl held
  · rw [add] at added
    split at added <;> cases added
    next filled =>
      have hasKey : key ≠ [] := by simpa using filled
      rcases other with _ | _ | _
      · exact Or.inl held
      · rcases mem_put_ofList held with old | ⟨rfl, rfl⟩
        · exact Or.inl old
        · exact Or.inr ⟨rfl, hasKey⟩
      · exact Or.inl held
  · rw [add] at added
    split at added <;> cases added
    next filled =>
      have hasKey : key ≠ [] := by simpa using filled
      rcases other with _ | _ | _
      · exact Or.inl held
      · exact Or.inl held
      · rcases mem_put_ofList held with old | ⟨rfl, rfl⟩
        · exact Or.inl old
        · exact Or.inr ⟨rfl, hasKey⟩

theorem nodup_keys_add {clause' : Clause} (added : add clause part = some clause') :
    ((Fields.keys clause.attributes).Nodup → (Fields.keys clause'.attributes).Nodup) ∧
      ((Fields.keys clause.directives).Nodup → (Fields.keys clause'.directives).Nodup) := by
  rw [add.eq_def] at added
  split at added
  case h_1 =>
    cases added
    exact ⟨id, id⟩
  case h_2 =>
    split at added <;> cases added
    exact ⟨Fields.nodup_keys_put, id⟩
  case h_3 =>
    split at added <;> cases added
    exact ⟨id, Fields.nodup_keys_put⟩

/-- A clause stays made up of texts when one of them is added. -/
theorem TakenFrom.add {clause' : Clause} (taken : clause.TakenFrom texts)
    (found : ∃ text ∈ texts, Text.trim text ≠ [] ∧ Part.of (Text.trim text) = part)
    (added : add clause part = some clause') : clause'.TakenFrom texts where
  parts other held := by
    rcases mem_parts_add added held with old | ⟨rfl, hasKey⟩
    · exact taken.parts other old
    · exact ⟨hasKey, found⟩
  attributes := (nodup_keys_add added).1 taken.attributes
  directives := (nodup_keys_add added).2 taken.directives

theorem takenFrom_of_foldlM {items : List (List Char)} {clause' : Clause}
    (taken : clause.TakenFrom texts)
    (found : ∀ item ∈ items, ∃ text ∈ texts, Text.trim text ≠ [] ∧ Text.trim text = item)
    (added : (items.map Part.of).foldlM Clause.add clause = some clause') :
    clause'.TakenFrom texts := by
  induction items generalizing clause with
  | nil =>
    cases added
    exact taken
  | cons item items ih =>
    rw [List.map_cons, List.foldlM_cons] at added
    obtain ⟨next, step, rest⟩ := Option.bind_eq_some_iff.mp added
    obtain ⟨text, among, shown, rfl⟩ := found item List.mem_cons_self
    exact ih (taken.add ⟨text, among, shown, rfl⟩ step)
      (fun other held => found other (List.mem_cons_of_mem _ held)) rest

/-- A clause that is read has a name and is made up of the pieces of its text. -/
theorem takenFrom_of_read (accepted : read cs = .ok clause) :
    clause.names ≠ [] ∧ clause.TakenFrom (pieces ';' cs) := by
  rw [read] at accepted
  split at accepted
  case h_1 => cases accepted
  case h_2 parts split' =>
    have same : pieces ';' cs = parts := by rw [pieces, split', Option.getD_some]
    dsimp only at accepted
    split at accepted
    case h_1 => cases accepted
    case h_2 made folded =>
      split at accepted
      case isTrue => cases accepted
      case isFalse named =>
        cases accepted
        refine ⟨by simpa using named, ?_⟩
        have nothing : TakenFrom (pieces ';' cs) ⟨[], [], []⟩ :=
          ⟨List.forall_mem_nil _, List.nodup_nil, List.nodup_nil⟩
        refine takenFrom_of_foldlM nothing (fun item held => ?_) folded
        obtain ⟨held, filled⟩ := List.mem_filter.mp held
        obtain ⟨text, among, rfl⟩ := List.mem_map.mp held
        exact ⟨text, same ▸ among, by simpa using filled, rfl⟩

end Clause

variable {value : List Char}

/-- A clause of a value that is read has a name and is made up of the fragments of the value. -/
theorem takenFrom_of_readClauses (accepted : readClauses value = .ok clauses)
    (held : clause ∈ clauses) :
    Closed value ∧ clause.names ≠ [] ∧ clause.TakenFrom (fragments value) := by
  rw [readClauses] at accepted
  split at accepted
  case isTrue =>
    cases accepted
    cases held
  case isFalse =>
    split at accepted
    case h_1 => cases accepted
    case h_2 parts split' =>
      obtain ⟨piece, among, made⟩ := exists_of_mem_mapM accepted held
      have found : piece ∈ pieces ',' value := by
        rw [pieces, split', Option.getD_some]
        exact (List.mem_filter.mp among).1
      obtain ⟨named, taken⟩ := Clause.takenFrom_of_read made
      refine ⟨closed_of_splitOutside split', named, ?_, taken.attributes, taken.directives⟩
      intro part held
      obtain ⟨hasKey, text, among, shown⟩ := taken.parts part held
      exact ⟨hasKey, text, List.mem_flatMap.mpr ⟨piece, found, among⟩, shown⟩

/-! ## Values that are written and read -/

/-- The parts of the clauses of a value that was read are sound. -/
theorem sound_of_readClauses (accepted : readClauses value = .ok clauses) (held : clause ∈ clauses) :
    ∀ part ∈ clause.parts, part.Sound := by
  intro part among
  obtain ⟨closed, -, taken⟩ := takenFrom_of_readClauses accepted held
  obtain ⟨hasKey, fragment, found, shown, rfl⟩ := taken.parts part among
  exact Clause.Part.sound_of ((Fragment.of_mem closed found).piece_trim shown) hasKey

/-- What is written for clauses is taken apart part by part. -/
theorem mem_fragments_valueText (accepted : readClauses value = .ok clauses)
    (filled : clauses ≠ []) (held : fragment ∈ fragments (valueText clauses)) :
    ∃ part ∈ clauses.flatMap Clause.parts, fragment ∈ fragments part.text := by
  have named : ∀ clause ∈ clauses, clause.parts.map Clause.Part.text ≠ [] := by
    intro clause among
    obtain ⟨-, named, -⟩ := takenFrom_of_readClauses accepted among
    simpa using Clause.parts_ne_nil named
  have closed : ∀ clause ∈ clauses, ∀ text ∈ clause.parts.map Clause.Part.text, Closed text := by
    intro clause among text held
    obtain ⟨part, own, rfl⟩ := List.mem_map.mp held
    exact (sound_of_readClauses accepted among part own).closed_text
  have texts : ∀ text ∈ clauses.map (fun clause => clause.text.toList), Closed text := by
    intro text held
    obtain ⟨clause, among, rfl⟩ := List.mem_map.mp held
    rw [Clause.toList_text]
    exact .intercalate (by decide) (closed clause among)
  rw [valueText, fragments_intercalate (by decide) (by simpa using filled) texts] at held
  obtain ⟨text, held, found⟩ := List.mem_flatMap.mp held
  obtain ⟨clause, among, rfl⟩ := List.mem_map.mp held
  rw [Clause.toList_text, fragments_intercalate (by decide) (named clause among)
    (closed clause among)] at found
  obtain ⟨text, held, found⟩ := List.mem_flatMap.mp found
  obtain ⟨part, own, rfl⟩ := List.mem_map.mp held
  exact ⟨part, List.mem_flatMap.mpr ⟨clause, among, own⟩, found⟩

/-- Clauses that were read and are read again have unmistakable parts. -/
theorem unmistakable_of_readClauses (accepted : readClauses value = .ok clauses)
    (again : readClauses (valueText clauses) = .ok clauses) :
    ∀ clause ∈ clauses, ∀ part ∈ clause.parts, part.Unmistakable := by
  intro clause held part among
  have filled : clauses ≠ [] := List.ne_nil_of_mem held
  have among : part ∈ clauses.flatMap Clause.parts := List.mem_flatMap.mpr ⟨clause, held, among⟩
  refine Clause.Part.unmistakable_of_reread ?_ ?_ part among
  · intro part held
    obtain ⟨clause, held, among⟩ := List.mem_flatMap.mp held
    exact sound_of_readClauses accepted held part among
  · intro part held
    obtain ⟨clause, held, among⟩ := List.mem_flatMap.mp held
    obtain ⟨-, -, taken⟩ := takenFrom_of_readClauses again held
    obtain ⟨-, fragment, found, -, same⟩ := taken.parts part among
    obtain ⟨source, sourceHeld, found⟩ := mem_fragments_valueText accepted filled found
    exact ⟨source, sourceHeld, fragment, found, same⟩

/-- Clauses that were read and have unmistakable parts are read again. -/
theorem readClauses_of_unmistakable (accepted : readClauses value = .ok clauses)
    (clear : ∀ clause ∈ clauses, ∀ part ∈ clause.parts, part.Unmistakable) :
    readClauses (valueText clauses) = .ok clauses := by
  refine readClauses_valueText fun clause held => ?_
  obtain ⟨-, named, taken⟩ := takenFrom_of_readClauses accepted held
  refine ⟨named, fun part among => ?_, taken.attributes, taken.directives⟩
  exact (sound_of_readClauses accepted held part among).restorable (clear clause held part among)

/-- The clauses that a header value was read as come back from what is written for them exactly when no
attribute has a key that ends in a colon and no quote inside of a value lays a separator open. -/
theorem clausesOf_valueText_iff {value header : Option String}
    (accepted : clausesOf value header = .ok clauses) (header' : Option String) :
    clausesOf (some (String.ofList (valueText clauses))) header' = .ok clauses ↔
      ∀ clause ∈ clauses, ∀ part ∈ clause.parts, part.Unmistakable := by
  have accepted : readClauses (value.getD "").toList = .ok clauses := by
    rw [clausesOf] at accepted
    split at accepted <;> cases accepted
    assumption
  have same : clausesOf (some (String.ofList (valueText clauses))) header' = .ok clauses ↔
      readClauses (valueText clauses) = .ok clauses := by
    rw [clausesOf, Option.getD_some, String.toList_ofList]
    cases readClauses (valueText clauses) with
    | ok again => simp
    | error fault => simp
  rw [same]
  exact ⟨unmistakable_of_readClauses accepted, readClauses_of_unmistakable accepted⟩

/-- Separators in a quoted value and quotes in the middle of a value come back. -/
theorem clausesOf_valueText_iff_library :
    let clauses := [⟨["library"], [("x", "a, b"), ("y", "c\"d\"e")], [("visibility", "reexport")]⟩,
      ⟨["other"], [], []⟩]
    let value := "library ; x = \"a, b\" ; y=c\"d\"e ; visibility:=reexport, other"
    clausesOf (some value) none = .ok clauses ∧
      clausesOf (some (String.ofList (valueText clauses))) none = .ok clauses := by
  intro clauses value
  have accepted : clausesOf (some value) none = .ok clauses := by decide +kernel
  have clear : ∀ clause ∈ clauses, ∀ part ∈ clause.parts, part.Unmistakable := by decide +kernel
  exact ⟨accepted, (clausesOf_valueText_iff accepted none).mpr clear⟩

/-- A colon that stands apart from its equals sign belongs to the key, until it is written beside it; a
separator between quotes belongs to the value, until quotes are put around these. -/
theorem clausesOf_valueText_changes :
    ∃ signed quoted : List Clause,
      clausesOf (some "library;x: =y") none = .ok signed ∧
      clausesOf (some (String.ofList (valueText signed))) none ≠ .ok signed ∧
      clausesOf (some "library;x=a\"b;c\"") none = .ok quoted ∧
      clausesOf (some (String.ofList (valueText quoted))) none ≠ .ok quoted := by
  refine ⟨[⟨["library"], [("x:", "y")], []⟩], [⟨["library"], [("x", "a\"b;c\"")], []⟩], ?_⟩
  decide +kernel

end Pruning.Manifest
