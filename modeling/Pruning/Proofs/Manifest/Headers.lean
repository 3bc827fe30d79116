import Pruning.Manifest.Headers
import Pruning.Proofs.Fields
import Pruning.Proofs.Manifest.Folding
import Pruning.Proofs.Manifest.Splitting
import Pruning.Proofs.Text.Lines

/-!
# Header lines

A header may be cut into lines anywhere after its name (`Spells`). Whatever the cuts are, the reader puts
the pieces together again: it finds the headers that the lines spell, in their order, and goes on behind
them (`Spells.readLines_append`).
-/

namespace Pruning.Manifest

section Names

variable {c : Char} {name : List Char}

/-- The code points of name characters: the hyphen, the underscore, digits and letters. -/
theorem isNameChar_toNat (held : isNameChar c = true) :
    c.toNat = 45 ∨ c.toNat = 95 ∨ 48 ≤ c.toNat ∧ c.toNat ≤ 57 ∨ 65 ≤ c.toNat ∧ c.toNat ≤ 90 ∨
      97 ≤ c.toNat ∧ c.toNat ≤ 122 := by
  have letter (d : Char) (same : c = d) : c.toNat = d.toNat := congrArg Char.toNat same
  simp only [isNameChar, Char.isAlphanum, Char.isAlpha, Char.isUpper, Char.isLower, Char.isDigit,
    Bool.or_eq_true, Bool.and_eq_true, decide_eq_true_eq, UInt32.le_iff_toNat_le, ge_iff_le] at held
  rcases held with (((upper | lower) | digit) | hyphen) | underscore
  · exact Or.inr (Or.inr (Or.inr (Or.inl upper)))
  · exact Or.inr (Or.inr (Or.inr (Or.inr lower)))
  · exact Or.inr (Or.inr (Or.inl digit))
  · exact Or.inl (letter '-' hyphen)
  · exact Or.inr (Or.inl (letter '_' underscore))

theorem isNameChar_of_mem (named : isHeaderName name = true) (held : c ∈ name) :
    isNameChar c = true := by
  cases name with
  | nil => cases held
  | cons first more =>
    rw [isHeaderName, Bool.and_eq_true, List.all_eq_true] at named
    rcases List.mem_cons.mp held with rfl | later
    · have start : c.isAlphanum = true := named.1
      rw [isNameChar, start]
      rfl
    · exact named.2 c later

/-- Every character of a name takes one byte. -/
theorem size_of_nameChars (each : ∀ c ∈ name, isNameChar c = true) : size name = name.length := by
  have single : ∀ c ∈ name, c.utf8Size = 1 := by
    intro c held
    have range := isNameChar_toNat (each c held)
    rw [Char.utf8Size_eq_one_iff, UInt32.le_iff_toNat_le]
    have small : c.toNat ≤ 127 := by omega
    exact small
  rw [size, List.map_congr_left single, List.map_const', List.sum_replicate_nat, Nat.mul_one]

theorem size_of_isHeaderName (named : isHeaderName name = true) : size name = name.length :=
  size_of_nameChars fun _ held => isNameChar_of_mem named held

theorem not_mem_of_isHeaderName (named : isHeaderName name = true) (other : isNameChar c = false) :
    c ∉ name := by
  intro held
  rw [isNameChar_of_mem named held] at other
  cases other

theorem head?_of_isHeaderName (named : isHeaderName name = true) : name.head? ≠ some ' ' := by
  intro first
  exact not_mem_of_isHeaderName named (by decide) (List.mem_of_mem_head? first)

theorem unbroken_of_isHeaderName (named : isHeaderName name = true) : Text.Unbroken name := by
  intro c held
  have range := isNameChar_toNat (isNameChar_of_mem named held)
  simp only [Text.isLineBreak, Bool.or_eq_false_iff, Bool.and_eq_false_iff, decide_eq_false_iff_not,
    beq_eq_false_iff_ne]
  omega

end Names

/-- A space in front of a piece is no line boundary. -/
theorem unbroken_continued {pieces : List (List Char)} (unbroken : Text.Unbroken pieces.flatten) :
    ∀ line ∈ continued pieces, Text.Unbroken line := by
  intro line held
  obtain ⟨piece, among, rfl⟩ := List.mem_map.mp held
  have space : Text.Unbroken [' '] := by decide
  exact space.append fun c inPiece => unbroken c (List.mem_flatten.mpr ⟨piece, among, inPiece⟩)

theorem unbroken_fold {cs : List Char} (unbroken : Text.Unbroken cs) :
    ∀ line ∈ fold cs, Text.Unbroken line := by
  have nothing : size [] ≤ lineWidth := by decide
  obtain ⟨piece, pieces, lines, whole⟩ := fold_pieces nothing cs
  rw [← whole, Text.unbroken_append] at unbroken
  rw [List.nil_append] at lines
  rw [lines]
  exact List.forall_mem_cons.mpr ⟨unbroken.1, unbroken_continued unbroken.2⟩

theorem readLines_continued (number : Nat) (name value : String) (before : Fields String)
    (pieces rest : List (List Char)) :
    readLines number ((name, value) :: before) (continued pieces ++ rest) =
      readLines (number + pieces.length)
        ((name, value ++ String.ofList pieces.flatten) :: before) rest := by
  induction pieces generalizing number value with
  | nil => simp [continued]
  | cons piece pieces ih =>
    have step : readLines number ((name, value) :: before) (continued (piece :: pieces) ++ rest) =
        readLines (number + 1) ((name, value ++ String.ofList piece) :: before)
          (continued pieces ++ rest) := rfl
    rw [step, ih, List.flatten_cons, String.ofList_append, String.append_assoc, List.length_cons,
      Nat.add_right_comm, Nat.add_assoc]

/-- A line that is neither empty nor a continuation is divided at its first colon. -/
theorem readLines_divided {line : List Char} (filled : line ≠ []) (starts : line.head? ≠ some ' ')
    (number : Nat) (before : Fields String) (rest : List (List Char)) :
    readLines number before (line :: rest) =
      match line.dropWhile (· ≠ ':') with
      | [] => .error (.notAHeader number (String.ofList line))
      | _ :: value =>
        let name := String.ofList (line.takeWhile (· ≠ ':'))
        if !isHeaderName name.toList then .error (.notAHeader number (String.ofList line))
        else if Fields.has name before then .error (.duplicateHeader number name)
        else readLines (number + 1) ((name, String.ofList (valueOf value)) :: before) rest := by
  rw [readLines]
  · cases line.dropWhile (· ≠ ':') with
    | nil => rfl
    | cons colon value => simp only [String.toList_ofList]
  · intro nothing
    exact filled nothing
  · intro more same
    exact starts (by rw [same]; rfl)

/-- A line that starts with a name and a colon is a new header. -/
theorem readLines_colon {name : String} (named : isHeaderName name.toList = true)
    {before : Fields String} (new : name ∉ Fields.keys before) (number : Nat)
    (value : List Char) (rest : List (List Char)) :
    readLines number before ((name.toList ++ ':' :: value) :: rest) =
      readLines (number + 1) ((name, String.ofList (valueOf value)) :: before) rest := by
  have colonless : ':' ∉ name.toList := not_mem_of_isHeaderName named (by decide)
  have untaken : Fields.has name before = false := by
    rw [← Bool.not_eq_true, Fields.has_iff]
    exact new
  have starts : (name.toList ++ ':' :: value).head? ≠ some ' ' := by
    cases chars : name.toList with
    | nil => exact fun colon => absurd (Option.some.inj colon) (by decide)
    | cons c others =>
      have first := head?_of_isHeaderName named
      rwa [chars] at first
  rw [readLines_divided (by simp) starts]
  simp only [takeWhile_ne colonless, dropWhile_ne colonless, named, String.ofList_toList, untaken]
  rfl

/-- A line without a colon is refused. -/
theorem readLines_colonless {line : List Char} (filled : line ≠ []) (starts : line.head? ≠ some ' ')
    (colonless : ':' ∉ line) (number : Nat) (before : Fields String) (rest : List (List Char)) :
    readLines number before (line :: rest) = .error (.notAHeader number (String.ofList line)) := by
  have nothing : line.dropWhile (· ≠ ':') = [] := by
    rw [List.dropWhile_eq_nil_iff]
    intro c held
    exact decide_eq_true fun same => colonless (same ▸ held)
  rw [readLines_divided filled starts, nothing]

/-- Lines that spell headers: each header starts a line of its own, and lines that continue it
follow. -/
inductive Spells : List (List Char) → Fields String → Prop
  | nil : Spells [] []
  | header {name value : String} {piece : List Char} {pieces lines : List (List Char)}
      {headers : Fields String} (named : isHeaderName name.toList = true)
      (whole : piece ++ pieces.flatten = value.toList) (later : Spells lines headers) :
      Spells ((name.toList ++ ':' :: ' ' :: piece) :: (continued pieces ++ lines))
        ((name, value) :: headers)

namespace Spells

variable {lines lines' : List (List Char)} {headers headers' : Fields String}

theorem append (spells : Spells lines headers) (more : Spells lines' headers') :
    Spells (lines ++ lines') (headers ++ headers') := by
  induction spells with
  | nil => exact more
  | header named whole later ih =>
    rw [List.cons_append, List.append_assoc, List.cons_append]
    exact header named whole ih

theorem flatMap {α : Type} {items : List α} {written : α → List (List Char)}
    {meant : α → Fields String} (each : ∀ item ∈ items, Spells (written item) (meant item)) :
    Spells (items.flatMap written) (items.flatMap meant) := by
  induction items with
  | nil => exact nil
  | cons item items ih =>
    have rest := ih fun other held => each other (List.mem_cons_of_mem item held)
    exact (each item List.mem_cons_self).append rest

/-- A header whose name fits on a line can be folded, and go on in lines that are folded already. -/
theorem fold {name : String} (named : isHeaderName name.toList = true)
    (short : name.length + 2 ≤ lineWidth) (cs : List Char) (more : List (List Char)) :
    Spells (fold (name.toList ++ [':', ' '] ++ cs) ++ continued more)
      [(name, String.ofList (cs ++ more.flatten))] := by
  have fits : size (name.toList ++ [':', ' ']) ≤ lineWidth := by
    rw [size_append, size_of_isHeaderName named, String.length_toList]
    exact short
  obtain ⟨piece, pieces, lines, whole⟩ := fold_pieces fits cs
  have joined : piece ++ (pieces ++ more).flatten =
      (String.ofList (cs ++ more.flatten)).toList := by
    rw [String.toList_ofList, List.flatten_append, ← List.append_assoc, whole]
  have spelled := header named joined nil
  rw [List.append_nil, continued, List.map_append] at spelled
  rw [lines, List.append_assoc]
  exact spelled

/-- No line has a boundary in it when no value has one. -/
theorem unbroken (spells : Spells lines headers)
    (values : ∀ header ∈ headers, Text.Unbroken header.2.toList) :
    ∀ line ∈ lines, Text.Unbroken line := by
  induction spells with
  | nil => exact nofun
  | @header name value piece pieces lines headers named whole later ih =>
    have value := values _ List.mem_cons_self
    rw [← whole, Text.unbroken_append] at value
    have colon : Text.Unbroken [':', ' '] := by decide
    have rest := ih fun other among => values other (List.mem_cons_of_mem _ among)
    refine List.forall_mem_cons.mpr ⟨?_, List.forall_mem_append.mpr ⟨?_, rest⟩⟩
    · exact (unbroken_of_isHeaderName named).append (colon.append value.1)
    · exact unbroken_continued value.2

/-- The reader finds the headers that lines spell and goes on behind them. -/
theorem readLines_append (spells : Spells lines headers) {before : Fields String}
    (distinct : (Fields.keys (headers.reverse ++ before)).Nodup) (number : Nat)
    (rest : List (List Char)) :
    readLines number before (lines ++ rest) =
      readLines (number + lines.length) (headers.reverse ++ before) rest := by
  induction spells generalizing before number with
  | nil => rfl
  | @header name value piece pieces lines headers named whole later ih =>
    have order : ((name, value) :: headers).reverse ++ before =
        headers.reverse ++ (name, value) :: before := by simp
    rw [order] at distinct ⊢
    have new : name ∉ Fields.keys before := by
      have keysDistinct := distinct
      rw [Fields.keys, List.map_append, List.nodup_append] at keysDistinct
      exact (List.nodup_cons.mp keysDistinct.2.1).1
    have joined : String.ofList piece ++ String.ofList pieces.flatten = value := by
      rw [← String.ofList_append, whole, String.ofList_toList]
    rw [List.cons_append, List.append_assoc, readLines_colon named new, valueOf,
      readLines_continued, joined, ih distinct]
    congr 1
    simp [continued]
    omega

/-- A manifest is read as the headers that its lines spell, up to its end or to an empty line. -/
theorem read_of_lines {text : String} {more : List (List Char)} (spells : Spells lines headers)
    (distinct : (Fields.keys headers).Nodup) (found : Text.lines text.toList = lines ++ more)
    (ends : more = [] ∨ more.head? = some []) (file : Option String) :
    read text file = .ok headers := by
  have reversed : (Fields.keys (headers.reverse ++ [])).Nodup := by
    rw [List.append_nil, Fields.keys, List.map_reverse, List.nodup_reverse]
    exact distinct
  have stops (number : Nat) (before : Fields String) :
      readLines number before more = .ok before.reverse := by
    rcases ends with rfl | first
    · rfl
    · obtain ⟨later, rfl⟩ := List.head?_eq_some_iff.mp first
      rfl
  rw [read, found, spells.readLines_append reversed, List.append_nil, stops, List.reverse_reverse]

end Spells

/-- However headers are cut into lines, and with whichever of the usual endings, they are read as they
are; nothing that follows an empty line is looked at. -/
theorem read_folded {lines : List (List Char)} {headers : Fields String} {ending : String}
    (spells : Spells lines headers) (distinct : (Fields.keys headers).Nodup)
    (values : ∀ header ∈ headers, Text.Unbroken header.2.toList)
    (usual : ending ∈ Text.lineEndings) (later : String) (file : Option String) :
    let text := String.ofList (lines.flatMap (· ++ ending.toList))
    read text file = .ok headers ∧ read (text ++ ending ++ later) file = .ok headers := by
  intro text
  have unbroken := spells.unbroken values
  have whole (rest : List Char) (apart : ending = "\r" → rest.head? ≠ some '\n') :
      Text.lines (text.toList ++ rest) = lines ++ Text.lines rest := by
    rw [String.toList_ofList]
    exact Text.lines_flatMap unbroken usual apart
  constructor
  · have found := whole [] fun _ => nofun
    rw [List.append_nil] at found
    exact spells.read_of_lines distinct found (Or.inl rfl) file
  · have found := whole (ending.toList ++ later.toList) (by
      rintro rfl
      exact fun feed => absurd (Option.some.inj feed) (by decide))
    refine spells.read_of_lines distinct ?_ (Or.inr (Text.head?_lines_ending usual later.toList)) file
    rw [String.toList_append, String.toList_append, List.append_assoc, found]

/-- A value with colons and with spaces at its ends, cut inside of these and with an empty piece. The
text after the empty line starts with a line feed, which ends the empty line too. -/
theorem read_folded_cut :
    read "Bundle-Name:  a\r : b\r \r  \rEmpty: \r\r\nName: x\r no header" none =
      .ok [("Bundle-Name", " a: b "), ("Empty", "")] := by
  have spells : Spells
      (("Bundle-Name".toList ++ ':' :: ' ' :: [' ', 'a']) ::
        (continued [[':', ' ', 'b'], [], [' ']] ++
          ("Empty".toList ++ ':' :: ' ' :: []) :: (continued [] ++ [])))
      [("Bundle-Name", " a: b "), ("Empty", "")] :=
    .header (by decide) (by decide) (.header (by decide) (by decide) .nil)
  have usual : "\r" ∈ Text.lineEndings := by decide
  exact (read_folded spells (by decide) (by decide) usual "\nName: x\r no header" none).2

end Pruning.Manifest
