import Pruning.Text.Lines

/-!
# Lines come back

A line without a line boundary, followed by one of the three usual line endings, is the first line of a
text (`lines_cons`), whatever comes next: only the lone carriage return needs to know that no line feed
follows. So a text made of such lines has just these lines (`lines_flatMap`). Lines that hold boundaries of
their own come apart, but never run together (`run_of_mem_lines_intercalate`).
-/

namespace Pruning.Text

/-- The texts that end a line of a manifest: a line feed, both characters, or a carriage return. -/
def lineEndings : List String :=
  ["\n", "\r\n", "\r"]

/-- A text that holds no line boundary. -/
def Unbroken (cs : List Char) : Prop :=
  ∀ c ∈ cs, isLineBreak c = false

-- Given by name: the search for an instance may come upon one that goes through all characters.
instance (cs : List Char) : Decidable (Unbroken cs) :=
  List.decidableBAll (fun c => isLineBreak c = false) cs

theorem unbroken_append {cs ds : List Char} :
    Unbroken (cs ++ ds) ↔ Unbroken cs ∧ Unbroken ds :=
  List.forall_mem_append

theorem Unbroken.append {cs ds : List Char} (left : Unbroken cs) (right : Unbroken ds) :
    Unbroken (cs ++ ds) :=
  unbroken_append.mpr ⟨left, right⟩

/-- What holds of pieces, and of texts put together from texts it holds of, holds of joined pieces. -/
theorem intercalate_closed {P : List Char → Prop} (nil : P [])
    (append : ∀ left right, P left → P right → P (left ++ right)) {between : List Char}
    {pieces : List (List Char)} (each : ∀ piece ∈ pieces, P piece) (joint : P between) :
    P (between.intercalate pieces) := by
  induction pieces with
  | nil => exact nil
  | cons first others ih =>
    have start := each first List.mem_cons_self
    have later := ih fun piece held => each piece (List.mem_cons_of_mem first held)
    cases others with
    | nil =>
      rw [List.intercalate_singleton]
      exact start
    | cons second others =>
      rw [List.intercalate_cons_cons]
      exact append _ _ (append _ _ start joint) later

theorem Unbroken.intercalate {between : List Char} {pieces : List (List Char)}
    (each : ∀ piece ∈ pieces, Unbroken piece) (joint : Unbroken between) :
    Unbroken (between.intercalate pieces) :=
  intercalate_closed nofun (fun _ _ => Unbroken.append) each joint

variable {c : Char} {cs line rest tail found run left right : List Char} {done : List (List Char)}
  {ending : String}

theorem linesFrom_break (broken : isLineBreak c = true)
    (apart : c = '\r' → rest.head? ≠ some '\n') (done : List (List Char)) (line : List Char) :
    linesFrom done line (c :: rest) = linesFrom (line.reverse :: done) [] rest := by
  rw [linesFrom, if_pos broken]
  intro more return' feed
  exact apart return' (by rw [feed]; rfl)

theorem linesFrom_feed (done : List (List Char)) (line rest : List Char) :
    linesFrom done line ('\r' :: '\n' :: rest) = linesFrom (line.reverse :: done) [] rest := by
  rw [linesFrom, if_pos (by decide)]

theorem linesFrom_char (unbroken : isLineBreak c = false) (done : List (List Char))
    (line rest : List Char) :
    linesFrom done line (c :: rest) = linesFrom done (c :: line) rest := by
  rw [linesFrom, if_neg (by simp [unbroken])]
  intro more return' feed
  rw [return'] at unbroken
  exact absurd unbroken (by decide)

/-- The lines that are done stay in front. -/
theorem linesFrom_append (done before : List (List Char)) (line cs : List Char) :
    linesFrom (done ++ before) line cs = before.reverse ++ linesFrom done line cs := by
  fun_induction linesFrom done line cs with
  | case1 done line =>
    rw [linesFrom]
    split <;> simp
  | case2 done line rest broken ih =>
    rw [linesFrom_feed]
    exact ih
  | case3 done line c broken rest single ih =>
    rw [linesFrom_break broken]
    · exact ih
    · intro return' feed
      cases rest with
      | nil => cases feed
      | cons d more => exact single more return' (by cases feed; rfl)
  | case4 done line c rest unbroken ih =>
    rw [linesFrom_char (by simpa using unbroken)]
    exact ih

/-- Characters that are no boundaries belong to the line being read. -/
theorem linesFrom_unbroken (unbroken : Unbroken line) (done : List (List Char))
    (start cs : List Char) :
    linesFrom done start (line ++ cs) = linesFrom done (line.reverse ++ start) cs := by
  induction line generalizing start with
  | nil => rfl
  | cons c line ih =>
    have later : Unbroken line := fun d held => unbroken d (List.mem_cons_of_mem c held)
    rw [List.cons_append, linesFrom_char (unbroken c List.mem_cons_self), ih later,
      List.reverse_cons, List.append_assoc]
    rfl

/-- An ending closes the line being read. -/
theorem linesFrom_ending (usual : ending ∈ lineEndings)
    (apart : ending = "\r" → rest.head? ≠ some '\n')
    (done : List (List Char)) (start : List Char) :
    linesFrom done start (ending.toList ++ rest) = linesFrom (start.reverse :: done) [] rest := by
  simp only [lineEndings, List.mem_cons, List.not_mem_nil, or_false] at usual
  rcases usual with rfl | rfl | rfl
  · exact linesFrom_break (by decide) (fun same => absurd same (by decide)) done start
  · exact linesFrom_feed done start rest
  · exact linesFrom_break (by decide) (fun _ => apart rfl) done start

/-- A line and its ending are the first line of a text. -/
theorem lines_cons (unbroken : Unbroken line) (usual : ending ∈ lineEndings)
    (apart : ending = "\r" → rest.head? ≠ some '\n') :
    lines (line ++ ending.toList ++ rest) = line :: lines rest := by
  have ended := linesFrom_ending usual apart [] line.reverse
  rw [List.reverse_reverse] at ended
  rw [lines, List.append_assoc, linesFrom_unbroken unbroken, List.append_nil, ended]
  exact linesFrom_append [] [line] [] rest

/-- A text that starts with an ending starts with an empty line. -/
theorem head?_lines_ending (usual : ending ∈ lineEndings) (rest : List Char) :
    (lines (ending.toList ++ rest)).head? = some [] := by
  have ended (later : List Char) : (linesFrom [[]] [] later).head? = some [] := by
    rw [← List.nil_append [[]], linesFrom_append]
    rfl
  by_cases apart : ending = "\r" → rest.head? ≠ some '\n'
  · rw [lines, linesFrom_ending usual apart]
    exact ended rest
  -- The line feed belongs to the carriage return before it.
  · rw [Classical.not_imp, ne_eq, Classical.not_not] at apart
    obtain ⟨rfl, feed⟩ := apart
    obtain ⟨later, rfl⟩ := List.head?_eq_some_iff.mp feed
    exact ended later

/-- Lines that each have an ending are the first lines of a text. -/
theorem lines_flatMap {written : List (List Char)} (unbroken : ∀ line ∈ written, Unbroken line)
    (usual : ending ∈ lineEndings) (apart : ending = "\r" → tail.head? ≠ some '\n') :
    lines (written.flatMap (· ++ ending.toList) ++ tail) = written ++ lines tail := by
  induction written with
  | nil => rfl
  | cons line written ih =>
    have here := unbroken line List.mem_cons_self
    have later := fun other held => unbroken other (List.mem_cons_of_mem line held)
    rw [List.flatMap_cons, List.append_assoc, lines_cons here usual, ih later, List.cons_append]
    -- What follows starts like a line, like an ending, or like the tail.
    intro lone
    cases written with
    | nil => exact apart lone
    | cons next written =>
      cases next with
      | nil => rw [lone]; exact fun feed => absurd (Option.some.inj feed) (by decide)
      | cons d next =>
        intro feed
        have same : d = '\n' := Option.some.inj feed
        have whole := later _ List.mem_cons_self d List.mem_cons_self
        rw [same] at whole
        exact absurd whole (by decide)

/-- Joining lines by an ending and adding one more is to give each line its ending. -/
theorem intercalate_append_ending {written : List (List Char)} (filled : written ≠ [])
    (ending : List Char) :
    ending.intercalate written ++ ending = written.flatMap (· ++ ending) := by
  induction written with
  | nil => exact absurd rfl filled
  | cons first others ih =>
    cases others with
    | nil => simp
    | cons second others =>
      rw [List.intercalate_cons_cons, List.append_assoc, ih (List.cons_ne_nil _ _)]
      rfl

/-- Lines that are joined by an ending, with one more at the end, are read as they are. -/
theorem lines_intercalate {written : List (List Char)} (filled : written ≠ [])
    (unbroken : ∀ line ∈ written, Unbroken line) (usual : ending ∈ lineEndings) :
    lines (ending.toList.intercalate written ++ ending.toList) = written := by
  have ended : ending = "\r" → ([] : List Char).head? ≠ some '\n' := fun _ => nofun
  have read := lines_flatMap unbroken usual ended
  rw [List.append_nil] at read
  rw [intercalate_append_ending filled, read]
  exact List.append_nil _

/-! ## Runs between line boundaries -/

theorem Unbroken.reverse (unbroken : Unbroken line) : Unbroken line.reverse :=
  fun c held => unbroken c (List.mem_reverse.mp held)

/-- What is found after a line has ended, seen from the start of that line. -/
theorem run_of_ended (unbroken : Unbroken line) (boundary : List Char)
    (held : found ∈ line.reverse :: done ∨ found <:+: rest ∧ Unbroken found) :
    found ∈ done ∨ found <:+: line.reverse ++ (boundary ++ rest) ∧ Unbroken found := by
  rcases held with earlier | ⟨later, bare⟩
  · rcases List.mem_cons.mp earlier with rfl | earlier
    · exact Or.inr ⟨(List.prefix_append _ _).isInfix, unbroken.reverse⟩
    · exact Or.inl earlier
  · have stop : rest <:+ line.reverse ++ (boundary ++ rest) :=
      (List.suffix_append _ _).trans (List.suffix_append _ _)
    exact Or.inr ⟨later.trans stop.isInfix, bare⟩

/-- Every line is one of those before, or a run of the text that holds no boundary. -/
theorem mem_linesFrom (unbroken : Unbroken line) (held : found ∈ linesFrom done line cs) :
    found ∈ done ∨ found <:+: line.reverse ++ cs ∧ Unbroken found := by
  fun_induction linesFrom done line cs with
  | case1 done line =>
    refine run_of_ended unbroken [] (Or.inl ?_)
    rw [List.mem_reverse] at held
    split at held
    case isTrue => exact List.mem_cons_of_mem _ held
    case isFalse => exact held
  | case2 done line rest broken ih =>
    exact run_of_ended unbroken ['\r', '\n'] (ih (List.forall_mem_nil _) held)
  | case3 done line c broken rest single ih =>
    exact run_of_ended unbroken [c] (ih (List.forall_mem_nil _) held)
  | case4 done line c rest whole ih =>
    have longer : Unbroken (c :: line) := List.forall_mem_cons.mpr ⟨by simpa using whole, unbroken⟩
    simpa using ih longer held

theorem run_of_mem_lines (held : found ∈ lines cs) : found <:+: cs ∧ Unbroken found :=
  (mem_linesFrom (List.forall_mem_nil _) held).resolve_left List.not_mem_nil

/-- A run that holds no boundary lies on one side of each boundary. -/
theorem run_append_cons (broken : isLineBreak c = true) (unbroken : Unbroken run)
    (within : run <:+: left ++ c :: right) : run <:+: left ∨ run <:+: right := by
  have apart {part : List Char} (inside : ∀ d ∈ part, d ∈ run) (starts : part <+: c :: right) :
      part = [] := by
    refine (List.prefix_cons_iff.mp starts).resolve_right ?_
    rintro ⟨more, rfl, -⟩
    rw [unbroken c (inside c List.mem_cons_self)] at broken
    cases broken
  rcases List.infix_append_iff.mp within with before | after | ⟨first, second, whole, ends, starts⟩
  · exact Or.inl before
  · rcases List.infix_cons_iff.mp after with starts | later
    · rw [apart (fun _ => id) starts]
      exact Or.inl List.nil_infix
    · exact Or.inr later
  · have inside : ∀ d ∈ second, d ∈ run := fun d held => whole ▸ List.mem_append_right first held
    rw [whole, apart inside starts, List.append_nil]
    exact Or.inl ends.isInfix

theorem run_append_ending (usual : ending ∈ lineEndings) (unbroken : Unbroken run)
    (within : run <:+: left ++ ending.toList ++ right) : run <:+: left ∨ run <:+: right := by
  rw [List.append_assoc] at within
  simp only [lineEndings, List.mem_cons, List.not_mem_nil, or_false] at usual
  rcases usual with rfl | rfl | rfl
  · exact run_append_cons (by decide) unbroken within
  -- Nothing lies between the two characters of this ending.
  · have within : run <:+: left ++ '\r' :: ([] ++ '\n' :: right) := within
    rcases run_append_cons (by decide) unbroken within with before | after
    · exact Or.inl before
    · rcases run_append_cons (by decide) unbroken after with nothing | later
      · exact Or.inl (nothing.trans List.nil_infix)
      · exact Or.inr later
  · exact run_append_cons (by decide) unbroken within

/-- Whatever lines are joined by an ending, a line of the text is a run of one of them, or empty. -/
theorem run_of_mem_lines_intercalate {written : List (List Char)} (usual : ending ∈ lineEndings)
    (held : found ∈ lines (ending.toList.intercalate written ++ ending.toList)) :
    found = [] ∨ ∃ line ∈ written, found <:+: line := by
  obtain ⟨within, unbroken⟩ := run_of_mem_lines held
  have apart {written : List (List Char)} (within : found <:+: written.flatMap (· ++ ending.toList)) :
      found = [] ∨ ∃ line ∈ written, found <:+: line := by
    induction written with
    | nil => exact Or.inl (List.infix_nil.mp within)
    | cons first others ih =>
      rcases run_append_ending usual unbroken within with here | later
      · exact Or.inr ⟨first, List.mem_cons_self, here⟩
      · refine (ih later).imp_right ?_
        rintro ⟨line, among, held⟩
        exact ⟨line, List.mem_cons_of_mem first among, held⟩
  cases written with
  | nil =>
    have only : found <:+: [[]].flatMap (· ++ ending.toList) := by simpa using within
    rcases apart only with nothing | ⟨line, among, held⟩
    · exact Or.inl nothing
    · rw [List.mem_singleton.mp among] at held
      exact Or.inl (List.infix_nil.mp held)
  | cons first others =>
    rw [intercalate_append_ending (List.cons_ne_nil _ _)] at within
    exact apart within

end Pruning.Text
