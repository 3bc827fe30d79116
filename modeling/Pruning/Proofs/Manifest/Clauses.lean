import Pruning.Manifest.Clause
import Pruning.Proofs.Fields
import Pruning.Proofs.Manifest.Splitting
import Pruning.Proofs.Text.Blank
import Pruning.Proofs.Text.Lines

/-!
# Clauses come back

A clause is written as its parts, joined by semicolons. A part can be restored when it is sealed for both
separators, is not trimmed, and is taken apart as it was put together (`Part.Restorable`); then a clause is
read as it was written (`Clause.read_text`), and so are clauses joined by commas (`readClauses_valueText`).
Parts that are plain enough can be restored (`Part.restorable_of_plain`).
-/

namespace Pruning.Manifest

/-- A text without double quotes and line boundaries. -/
def Clean (cs : List Char) : Prop :=
  ∀ c ∈ cs, c ≠ '"' ∧ Text.isLineBreak c = false

instance (cs : List Char) : Decidable (Clean cs) :=
  List.decidableBAll (fun c => c ≠ '"' ∧ Text.isLineBreak c = false) cs

theorem Clean.ofList {cs : List Char} (clean : Clean cs) : Clean (String.ofList cs).toList := by
  rw [String.toList_ofList]
  exact clean

/-- A text without the signs that divide a header value. -/
def Solid (cs : List Char) : Prop :=
  ∀ c ∈ cs, c ≠ ',' ∧ c ≠ ';' ∧ c ≠ '='

instance (cs : List Char) : Decidable (Solid cs) :=
  List.decidableBAll (fun c => c ≠ ',' ∧ c ≠ ';' ∧ c ≠ '=') cs

/-- A text that can be a name or a key. -/
structure Word (cs : List Char) : Prop where
  clean : Clean cs
  filled : cs ≠ []
  trimmed : Text.trim cs = cs
  solid : Solid cs

instance (cs : List Char) : Decidable (Word cs) :=
  decidable_of_iff (Clean cs ∧ cs ≠ [] ∧ Text.trim cs = cs ∧ Solid cs)
    ⟨fun ⟨clean, filled, trimmed, solid⟩ => ⟨clean, filled, trimmed, solid⟩,
      fun word => ⟨word.clean, word.filled, word.trimmed, word.solid⟩⟩

/-- A text that can stand before an equals sign. -/
structure IsKey (cs : List Char) : Prop where
  filled : cs ≠ []
  trimmed : Text.trim cs = cs
  signless : '=' ∉ cs

/-- The separators of a header value. -/
def separators : List Char :=
  [',', ';']

/-- A text that splitting and trimming leave alone. -/
structure Piece (cs : List Char) : Prop where
  sealed : ∀ separator ∈ separators, Sealed separator false cs
  trimmed : Text.trim cs = cs
  filled : cs ≠ []

variable {cs left middle right : List Char} {value : String}

theorem Word.piece (word : Word cs) : Piece cs where
  sealed := by
    intro separator usual
    refine Sealed.bare fun c held => ⟨(word.clean c held).1, ?_⟩
    have solid := word.solid c held
    rcases List.mem_pair.mp usual with rfl | rfl
    · exact solid.1
    · exact solid.2.1
  trimmed := word.trimmed
  filled := word.filled

theorem Word.signless (word : Word cs) : '=' ∉ cs :=
  fun held => (word.solid _ held).2.2 rfl

theorem Word.key (word : Word cs) : IsKey cs :=
  ⟨word.filled, word.trimmed, word.signless⟩

theorem Word.unbroken (word : Word cs) : Text.Unbroken cs :=
  fun c held => (word.clean c held).2

/-- Whatever is sealed can stand between two pieces. -/
theorem Piece.between (start : Piece left) (stop : Piece right)
    (sealed : ∀ separator ∈ separators, Sealed separator false middle) :
    Piece (left ++ middle ++ right) where
  sealed separator usual :=
    ((start.sealed separator usual).append (sealed separator usual)).append
      (stop.sealed separator usual)
  trimmed := Text.trim_between start.trimmed start.filled stop.trimmed stop.filled middle
  filled := List.append_ne_nil_of_right_ne_nil _ stop.filled

/-- A value is written as it is when it can be, and in quotes otherwise. -/
theorem writeValue_cases (value : String) :
    ((writeValue value).toList = value.toList ∧ value.toList ≠ [] ∧
      ∀ c ∈ value.toList, needsQuotes c = false) ∨
    (writeValue value).toList = '"' :: (value.toList ++ ['"']) := by
  rw [writeValue]
  split
  case isTrue => exact Or.inr (by simp)
  case isFalse bare =>
    rw [Bool.not_eq_true, Bool.or_eq_false_iff, List.any_eq_false] at bare
    refine Or.inl ⟨rfl, ?_, fun c held => Bool.eq_false_iff.mpr (bare.2 c held)⟩
    simpa using bare.1

/-- White space around a written value is not part of it. -/
theorem trim_writeValue (value : String) :
    Text.trim (writeValue value).toList = (writeValue value).toList := by
  rcases writeValue_cases value with ⟨same, -, bare⟩ | quoted
  · rw [same]
    refine Text.trim_of_no_blank fun c held => ?_
    have plain := bare c held
    rw [needsQuotes, Bool.or_eq_false_iff] at plain
    exact plain.2
  · rw [quoted]
    have mark : Text.trim ['"'] = ['"'] := by decide
    exact Text.trim_between mark (List.cons_ne_nil _ _) mark (List.cons_ne_nil _ _) value.toList

theorem writeValue_ne_nil (value : String) : (writeValue value).toList ≠ [] := by
  rcases writeValue_cases value with ⟨same, filled, -⟩ | quoted
  · rwa [same]
  · rw [quoted]
    exact List.cons_ne_nil _ _

/-- A value is found again in what is written for it. -/
theorem unquote_writeValue (value : String) : unquote (writeValue value).toList = value.toList := by
  rw [unquote, trim_writeValue]
  rcases writeValue_cases value with ⟨same, -, bare⟩ | quoted
  · rw [same]
    split
    case h_1 rest starts =>
      exact absurd (bare '"' (starts ▸ List.mem_cons_self)) (by decide)
    case h_2 => rfl
  · rw [quoted]
    simp

theorem piece_writeValue (clean : Clean value.toList) : Piece (writeValue value).toList where
  sealed := by
    intro separator usual
    rcases writeValue_cases value with ⟨same, -, bare⟩ | quoted
    · rw [same]
      refine Sealed.bare fun c held => ⟨(clean c held).1, ?_⟩
      have plain := bare c held
      rintro rfl
      rcases List.mem_pair.mp usual with rfl | rfl
      · exact absurd plain (by decide)
      · exact absurd plain (by decide)
    · rw [quoted]
      exact Sealed.enclosed fun c held => (clean c held).1
  trimmed := trim_writeValue value
  filled := writeValue_ne_nil value

theorem unbroken_writeValue (clean : Clean value.toList) :
    Text.Unbroken (writeValue value).toList := by
  have inside : Text.Unbroken value.toList := fun c held => (clean c held).2
  rcases writeValue_cases value with ⟨same, -, -⟩ | quoted
  · rw [same]
    exact inside
  · have mark : Text.Unbroken ['"'] := by decide
    rw [quoted]
    exact mark.append (inside.append mark)

namespace Clause

/-- A part of a clause as it is written. -/
def Part.text : Part → List Char
  | .name cs => cs
  | .attribute key value => key ++ ['='] ++ (writeValue (String.ofList value)).toList
  | .directive key value => key ++ [':', '='] ++ (writeValue (String.ofList value)).toList

/-- A part that can be read back. -/
def Part.Plain : Part → Prop
  | .name cs => Word cs
  | .attribute key value => Word key ∧ key.getLast? ≠ some ':' ∧ Clean value
  | .directive key value => Word key ∧ Clean value

/-- A part with nothing but its sign before the value: a name has no equals sign, a parameter has a key. -/
def Part.Keyed : Part → Prop
  | .name cs => '=' ∉ cs
  | .attribute key _ => IsKey key
  | .directive key _ => IsKey key

/-- The key of an attribute does not end as that of a directive does. -/
def Part.IsClosed : Part → Prop
  | .attribute key _ => key.getLast? ≠ some ':'
  | _ => True

namespace Part

variable {part : Part} {cs key value : List Char}

/-- The signs between a key and a value are no separators. -/
theorem sealed_sign {sign : List Char} (known : sign ∈ [['='], [':', '=']]) :
    ∀ separator ∈ separators, Sealed separator false sign := by
  have free : ∀ sign ∈ [['='], [':', '=']], ∀ separator ∈ separators, ∀ c ∈ sign,
      c ≠ '"' ∧ c ≠ separator := by simp [separators]
  intro separator usual
  exact Sealed.bare (free sign known separator usual)

theorem piece_text (plain : part.Plain) : Piece part.text := by
  match part, plain with
  | .name cs, word => exact word.piece
  | .attribute key value, ⟨word, _, clean⟩ =>
    exact word.piece.between (piece_writeValue clean.ofList) (sealed_sign List.mem_cons_self)
  | .directive key value, ⟨word, clean⟩ =>
    exact word.piece.between (piece_writeValue clean.ofList) (sealed_sign (by decide))

theorem unbroken_text (plain : part.Plain) : Text.Unbroken part.text := by
  match part, plain with
  | .name cs, word => exact word.unbroken
  | .attribute key value, ⟨word, _, clean⟩ =>
    have written := unbroken_writeValue clean.ofList
    have sign : Text.Unbroken ['='] := by decide
    exact (word.unbroken.append sign).append written
  | .directive key value, ⟨word, clean⟩ =>
    have written := unbroken_writeValue clean.ofList
    have sign : Text.Unbroken [':', '='] := by decide
    exact (word.unbroken.append sign).append written

theorem of_name (signless : '=' ∉ cs) : of cs = .name cs := by
  have nothing : cs.dropWhile (· ≠ '=') = [] := by
    rw [List.dropWhile_eq_nil_iff]
    exact fun c held => decide_eq_true fun same => signless (same ▸ held)
  rw [of]
  simp only [nothing]

theorem of_attribute (signless : '=' ∉ key) (closed : key.getLast? ≠ some ':') (rest : List Char) :
    of (key ++ '=' :: rest) = .attribute (Text.trim key) (unquote rest) := by
  rw [of]
  simp only [takeWhile_ne signless, dropWhile_ne signless, if_neg closed]

theorem of_directive (signless : '=' ∉ key) (rest : List Char) :
    of (key ++ ':' :: '=' :: rest) = .directive (Text.trim key) (unquote rest) := by
  have signless : '=' ∉ key ++ [':'] := by
    intro held
    rcases List.mem_append.mp held with held | colon
    · exact signless held
    · exact absurd colon (by decide)
  have order : key ++ ':' :: '=' :: rest = (key ++ [':']) ++ '=' :: rest := by simp
  rw [order, of]
  simp only [takeWhile_ne signless, dropWhile_ne signless, List.getLast?_concat, if_true,
    List.dropLast_concat]

/-- A part is taken apart as it was put together, if it has no other equals sign and the key of an
attribute does not look like that of a directive. -/
theorem of_text (keyed : part.Keyed) (closed : part.IsClosed) : Part.of part.text = part := by
  match part, keyed, closed with
  | .name cs, signless, _ => exact of_name signless
  | .attribute key value, sound, closed =>
    rw [text, List.append_assoc, List.singleton_append, of_attribute sound.signless closed,
      sound.trimmed, unquote_writeValue, String.toList_ofList]
  | .directive key value, sound, _ =>
    rw [text, List.append_assoc, List.cons_append, List.singleton_append,
      of_directive sound.signless, sound.trimmed, unquote_writeValue, String.toList_ofList]

/-- A part that comes back when it is written and read. -/
structure Restorable (part : Part) : Prop where
  piece : Piece part.text
  keyed : part.Keyed
  closed : part.IsClosed

theorem restorable_of_plain (plain : part.Plain) : part.Restorable where
  piece := piece_text plain
  keyed := by
    match part, plain with
    | .name cs, word => exact word.signless
    | .attribute key value, ⟨word, _, _⟩ => exact word.key
    | .directive key value, ⟨word, _⟩ => exact word.key
  closed := by
    match part, plain with
    | .name _, _ => trivial
    | .attribute _ _, ⟨_, closed, _⟩ => exact closed
    | .directive _ _, _ => trivial

end Part

/-- The parts of a clause, in the order in which they are written. -/
def parts (clause : Clause) : List Part :=
  clause.names.map (fun name => Part.name name.toList) ++
    clause.attributes.map (fun entry => Part.attribute entry.1.toList entry.2.toList) ++
    clause.directives.map fun entry => Part.directive entry.1.toList entry.2.toList

end Clause

/-- Attributes or directives that can be read back. -/
structure Parameters (fields : Fields String) : Prop where
  keys : ∀ entry ∈ fields, Word entry.1.toList
  values : ∀ entry ∈ fields, Clean entry.2.toList
  /-- The parameters are a map: no key is entered twice. -/
  distinct : (Fields.keys fields).Nodup

namespace Clause

/-- A clause that can be read back. The key of an attribute must not look like that of a directive. -/
structure Plain (clause : Clause) : Prop where
  named : clause.names ≠ []
  names : ∀ name ∈ clause.names, Word name.toList
  attributes : Parameters clause.attributes
  closed : ∀ entry ∈ clause.attributes, entry.1.toList.getLast? ≠ some ':'
  directives : Parameters clause.directives

/-- A clause that comes back when it is written and read. -/
structure Restorable (clause : Clause) : Prop where
  named : clause.names ≠ []
  parts : ∀ part ∈ clause.parts, part.Restorable
  attributes : (Fields.keys clause.attributes).Nodup
  directives : (Fields.keys clause.directives).Nodup

variable {clause : Clause}

theorem toList_text (clause : Clause) :
    clause.text.toList = [';'].intercalate (clause.parts.map Part.text) := by
  rw [text, String.toList_intercalate, parts]
  simp [Part.text, Function.comp_def]

theorem parts_ne_nil (named : clause.names ≠ []) : clause.parts ≠ [] := by
  rw [parts, List.append_assoc]
  exact List.append_ne_nil_of_left_ne_nil (by simpa using named) _

theorem Plain.parts (plain : clause.Plain) : ∀ part ∈ clause.parts, part.Plain := by
  intro part held
  rw [Clause.parts, List.mem_append, List.mem_append] at held
  rcases held with (held | held) | held
  · obtain ⟨name, among, rfl⟩ := List.mem_map.mp held
    exact plain.names name among
  · obtain ⟨entry, among, rfl⟩ := List.mem_map.mp held
    exact ⟨plain.attributes.keys entry among, plain.closed entry among,
      plain.attributes.values entry among⟩
  · obtain ⟨entry, among, rfl⟩ := List.mem_map.mp held
    exact ⟨plain.directives.keys entry among, plain.directives.values entry among⟩

theorem Plain.restorable (plain : clause.Plain) : clause.Restorable where
  named := plain.named
  parts part held := Part.restorable_of_plain (plain.parts part held)
  attributes := plain.attributes.distinct
  directives := plain.directives.distinct

theorem mem_parts_attribute {entry : String × String} (held : entry ∈ clause.attributes) :
    Part.attribute entry.1.toList entry.2.toList ∈ clause.parts :=
  List.mem_append_left _ (List.mem_append_right _ (List.mem_map_of_mem held))

theorem mem_parts_directive {entry : String × String} (held : entry ∈ clause.directives) :
    Part.directive entry.1.toList entry.2.toList ∈ clause.parts :=
  List.mem_append_right _ (List.mem_map_of_mem held)

/-- Parts that can all be added are added one after the other. -/
theorem foldlM_add {α : Type} {part : α → Part} {entered : Clause → α → Clause} {items : List α}
    (adds : ∀ item ∈ items, ∀ clause, add clause (part item) = some (entered clause item))
    (clause : Clause) :
    (items.map part).foldlM add clause = some (items.foldl entered clause) := by
  induction items generalizing clause with
  | nil => rfl
  | cons item items ih =>
    have later := ih fun other held => adds other (List.mem_cons_of_mem item held)
    rw [List.map_cons, List.foldlM_cons, adds item List.mem_cons_self, Option.bind_eq_bind,
      Option.bind_some, later, List.foldl_cons]

theorem foldlM_add_names (clause : Clause) (names : List String) :
    (names.map fun name => Part.name name.toList).foldlM add clause =
      some { clause with names := clause.names ++ names } := by
  have adds (name : String) (clause : Clause) : add clause (Part.name name.toList) =
      some { clause with names := clause.names ++ [name] } := by
    rw [add, String.ofList_toList]
  rw [foldlM_add fun name _ => adds name]
  induction names generalizing clause with
  | nil => simp
  | cons name names ih =>
    rw [List.foldl_cons, ih, List.append_assoc]
    rfl

theorem foldlM_add_attributes (clause : Clause) {entries : Fields String}
    (filled : ∀ entry ∈ entries, entry.1.toList ≠ []) :
    (entries.map fun entry => Part.attribute entry.1.toList entry.2.toList).foldlM add clause =
      some { clause with
        attributes :=
          entries.foldl (fun map entry => Fields.put entry.1 entry.2 map) clause.attributes } := by
  have adds : ∀ entry ∈ entries, ∀ clause, add clause (.attribute entry.1.toList entry.2.toList) =
      some { clause with attributes := Fields.put entry.1 entry.2 clause.attributes } := by
    intro entry held clause
    rw [add, if_neg (by simpa using filled entry held), String.ofList_toList, String.ofList_toList]
  rw [foldlM_add adds]
  exact congrArg some
    (List.foldl_hom (fun attributes => { clause with attributes }) fun _ _ => rfl)

theorem foldlM_add_directives (clause : Clause) {entries : Fields String}
    (filled : ∀ entry ∈ entries, entry.1.toList ≠ []) :
    (entries.map fun entry => Part.directive entry.1.toList entry.2.toList).foldlM add clause =
      some { clause with
        directives :=
          entries.foldl (fun map entry => Fields.put entry.1 entry.2 map) clause.directives } := by
  have adds : ∀ entry ∈ entries, ∀ clause, add clause (.directive entry.1.toList entry.2.toList) =
      some { clause with directives := Fields.put entry.1 entry.2 clause.directives } := by
    intro entry held clause
    rw [add, if_neg (by simpa using filled entry held), String.ofList_toList, String.ofList_toList]
  rw [foldlM_add adds]
  exact congrArg some
    (List.foldl_hom (fun directives => { clause with directives }) fun _ _ => rfl)

/-- The parts of a clause make up the clause. -/
theorem foldlM_add_parts (restorable : clause.Restorable) :
    clause.parts.foldlM add ⟨[], [], []⟩ = some clause := by
  have attributeKeys : ∀ entry ∈ clause.attributes, entry.1.toList ≠ [] := fun _ held =>
    have keyed : IsKey _ := (restorable.parts _ (mem_parts_attribute held)).keyed
    keyed.filled
  have directiveKeys : ∀ entry ∈ clause.directives, entry.1.toList ≠ [] := fun _ held =>
    have keyed : IsKey _ := (restorable.parts _ (mem_parts_directive held)).keyed
    keyed.filled
  have attributes : clause.attributes.foldl (fun map entry => Fields.put entry.1 entry.2 map) [] =
      clause.attributes := Fields.foldl_put_append restorable.attributes
  have directives : clause.directives.foldl (fun map entry => Fields.put entry.1 entry.2 map) [] =
      clause.directives := Fields.foldl_put_append restorable.directives
  rw [Clause.parts, List.foldlM_append, List.foldlM_append, foldlM_add_names]
  simp only [Option.bind_eq_bind, Option.bind_some, foldlM_add_attributes _ attributeKeys,
    foldlM_add_directives _ directiveKeys, attributes, directives, List.nil_append]

theorem Restorable.pieces (restorable : clause.Restorable) :
    ∀ piece ∈ clause.parts.map Part.text, Piece piece := by
  intro piece held
  obtain ⟨part, among, rfl⟩ := List.mem_map.mp held
  exact (restorable.parts part among).piece

theorem splitOutside_text (restorable : clause.Restorable) :
    splitOutside ';' clause.text.toList = some (clause.parts.map Part.text) := by
  have filled : clause.parts.map Part.text ≠ [] := by simpa using parts_ne_nil restorable.named
  have sealed := fun piece held => (restorable.pieces piece held).sealed ';' (by decide)
  rw [toList_text]
  exact splitOutside_intercalate filled sealed (by decide)

/-- A clause that can be restored is read as it was written. -/
theorem read_text (restorable : clause.Restorable) : read clause.text.toList = .ok clause := by
  have pieces := restorable.pieces
  have trimmed : (clause.parts.map Part.text).map Text.trim = clause.parts.map Part.text :=
    (List.map_congr_left fun piece held => (pieces piece held).trimmed).trans (List.map_id' _)
  have kept : (clause.parts.map Part.text).filter (fun piece => !piece.isEmpty) =
      clause.parts.map Part.text := by
    rw [List.filter_eq_self]
    intro piece held
    simpa using (pieces piece held).filled
  have taken : (clause.parts.map Part.text).map Part.of = clause.parts := by
    rw [List.map_map]
    refine (List.map_congr_left fun part held => ?_).trans (List.map_id' _)
    exact Part.of_text (restorable.parts part held).keyed (restorable.parts part held).closed
  rw [read, splitOutside_text restorable]
  simp only [trimmed, kept, taken, foldlM_add_parts restorable]
  rw [if_neg (by simpa using restorable.named)]

theorem sealed_text (restorable : clause.Restorable) : Sealed ',' false clause.text.toList := by
  have pieces := restorable.pieces
  have between : Sealed ',' false [';'] := Sealed.bare (by simp)
  rw [toList_text]
  exact Sealed.intercalate (fun piece held => (pieces piece held).sealed ',' (by decide)) between

theorem isBlankText_text (restorable : clause.Restorable) :
    Text.isBlankText clause.text.toList = false := by
  have pieces := restorable.pieces
  rw [toList_text]
  cases parts : clause.parts.map Part.text with
  | nil => exact absurd (List.map_eq_nil_iff.mp parts) (parts_ne_nil restorable.named)
  | cons first others =>
    have start := pieces first (parts ▸ List.mem_cons_self)
    exact Text.isBlankText_intercalate (Text.isBlankText_of_trim start.trimmed start.filled) _ _

theorem unbroken_text (plain : clause.Plain) : Text.Unbroken clause.text.toList := by
  have between : Text.Unbroken [';'] := by decide
  rw [toList_text]
  refine Text.Unbroken.intercalate (fun piece held => ?_) between
  obtain ⟨part, among, rfl⟩ := List.mem_map.mp held
  exact Part.unbroken_text (plain.parts part among)

end Clause

variable {clauses : List Clause}

/-- The value of a header that lists clauses. -/
def valueText (clauses : List Clause) : List Char :=
  [','].intercalate (clauses.map fun clause => clause.text.toList)

theorem unbroken_valueText (plain : ∀ clause ∈ clauses, clause.Plain) :
    Text.Unbroken (valueText clauses) := by
  have between : Text.Unbroken [','] := by decide
  refine Text.Unbroken.intercalate (fun piece held => ?_) between
  obtain ⟨clause, among, rfl⟩ := List.mem_map.mp held
  exact Clause.unbroken_text (plain clause among)

theorem mapM_read_text (restorable : ∀ clause ∈ clauses, clause.Restorable) :
    (clauses.map fun clause => clause.text.toList).mapM Clause.read = .ok clauses := by
  induction clauses with
  | nil => rfl
  | cons clause clauses ih =>
    have later := ih fun other held => restorable other (List.mem_cons_of_mem clause held)
    rw [List.map_cons, List.mapM_cons, Clause.read_text (restorable clause List.mem_cons_self), later]
    rfl

/-- Clauses that can be restored and are joined by commas are read as they were written. -/
theorem readClauses_valueText (restorable : ∀ clause ∈ clauses, clause.Restorable) :
    readClauses (valueText clauses) = .ok clauses := by
  have sealed : ∀ piece ∈ clauses.map (fun clause => clause.text.toList),
      Sealed ',' false piece := by
    intro piece held
    obtain ⟨clause, among, rfl⟩ := List.mem_map.mp held
    exact Clause.sealed_text (restorable clause among)
  have shown : (clauses.map fun clause => clause.text.toList).filter
      (fun piece => !Text.isBlankText piece) = clauses.map fun clause => clause.text.toList := by
    rw [List.filter_eq_self]
    intro piece held
    obtain ⟨clause, among, rfl⟩ := List.mem_map.mp held
    rw [Clause.isBlankText_text (restorable clause among)]
    rfl
  cases clauses with
  | nil => rfl
  | cons first others =>
    have visible : Text.isBlankText (valueText (first :: others)) = false :=
      Text.isBlankText_intercalate (Clause.isBlankText_text (restorable first List.mem_cons_self)) _ _
    have filled : (first :: others).map (fun clause => clause.text.toList) ≠ [] := by simp
    have split := splitOutside_intercalate filled sealed (by decide)
    rw [readClauses, if_neg (by simp [visible]), valueText, split]
    simp only [shown, mapM_read_text restorable]

end Pruning.Manifest
