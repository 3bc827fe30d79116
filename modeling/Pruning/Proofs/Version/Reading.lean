import Mathlib.Data.List.TakeWhile
import Mathlib.Data.Option.Basic
import Mathlib.Order.Nat
import Pruning.Proofs.Mapping
import Pruning.Proofs.Text.Blank
import Pruning.Version.Reader

/-!
# Versions that can be read

No number of a version has more digits than its text has characters (`Version.short_of_spelling`), so a
short text is refused only if it does not follow the scheme (`Version.read_cases`). Then it is cut down to
the numbers at its start, and these are read if their digits are those of ASCII
(`Version.read_of_isDotted`). So a text of usual length and digits always gives a version
(`Version.ofManifest_of_usual`).
-/

namespace Pruning.Version

variable {cs rest digits : List Char} {n : Nat}

/-! ## Parts of a text -/

theorem length_spanDigits (cs : List Char) :
    (spanDigits cs).1.length ≤ cs.length ∧ (spanDigits cs).2.length ≤ cs.length :=
  ⟨(List.takeWhile_sublist _).length_le, (List.dropWhile_sublist _).length_le⟩

theorem length_skipSeparator (cs : List Char) : (skipSeparator cs).length ≤ cs.length := by
  rw [skipSeparator.eq_def]
  split
  case h_1 c rest =>
    split
    · exact Nat.le_succ _
    · exact Nat.le_refl _
  case h_2 => exact Nat.le_refl _

theorem length_afterWord {word : String} (found : afterWord? word cs = some rest) :
    rest.length ≤ cs.length := by
  rw [afterWord?] at found
  split at found
  · cases found
    exact (List.drop_sublist _ _).length_le
  · cases found

section Marks

variable {α : Type} {words : List (String × α)} {meaning : α}

theorem length_afterAny (found : afterAny? words cs = some (meaning, rest)) :
    rest.length ≤ cs.length := by
  obtain ⟨word, -, found⟩ := List.exists_of_findSome?_eq_some found
  obtain ⟨after, cut, same⟩ := Option.map_eq_some_iff.mp found
  cases same
  exact length_afterWord cut

theorem length_mark (found : mark? words cs = some (meaning, digits, rest)) :
    digits.length ≤ cs.length ∧ rest.length ≤ cs.length := by
  rw [mark?] at found
  split at found
  case h_1 => cases found
  case h_2 meaning' after cut =>
    cases found
    have inAfter := length_spanDigits (skipSeparator after)
    have skipped := (length_skipSeparator after).trans
      ((length_afterAny cut).trans (length_skipSeparator cs))
    exact ⟨inAfter.1.trans skipped, inAfter.2.trans skipped⟩

end Marks

theorem length_post [Casing] {mark : PostMark} (found : post? cs = some (mark, digits, rest)) :
    digits.length ≤ cs.length ∧ rest.length ≤ cs.length := by
  rw [post?.eq_def] at found
  dsimp only at found
  split at found
  case h_1 dashed =>
    cases found
    split at dashed
    case h_1 after =>
      have inAfter := length_spanDigits after
      split at dashed
      · cases dashed
      · cases dashed
        exact ⟨inAfter.1.trans (Nat.le_succ _), inAfter.2.trans (Nat.le_succ _)⟩
    case h_2 => cases dashed
  case h_2 => exact length_mark found

theorem length_moreNumbers {numbers : List (List Char)} (fuel : Nat)
    (before : ∀ digits ∈ numbers, digits.length ≤ n) (short : cs.length ≤ n) :
    (∀ digits ∈ (moreNumbers numbers fuel cs).1, digits.length ≤ n) ∧
      (moreNumbers numbers fuel cs).2.length ≤ n := by
  have unchanged : (∀ digits ∈ numbers.reverse, digits.length ≤ n) ∧ cs.length ≤ n :=
    ⟨fun digits held => before digits (List.mem_reverse.mp held), short⟩
  induction fuel generalizing numbers cs with
  | zero => exact unchanged
  | succ fuel ih =>
    rw [moreNumbers.eq_def]
    dsimp only
    split
    case h_1 after =>
      have inAfter := length_spanDigits after
      have shorter : after.length ≤ n := (Nat.le_succ _).trans short
      split
      · exact unchanged
      · have before' : ∀ digits ∈ (spanDigits after).1 :: numbers, digits.length ≤ n :=
          List.forall_mem_cons.mpr ⟨inAfter.1.trans shorter, before⟩
        have short' := inAfter.2.trans shorter
        exact ih before' short' ⟨fun digits held => before' digits (List.mem_reverse.mp held), short'⟩
    case h_2 => exact unchanged

theorem length_buildSegments [Casing] {segments found : List (List Char)} (fuel : Nat)
    (before : ∀ segment ∈ segments, segment.length ≤ n) (short : cs.length ≤ n)
    (built : buildSegments segments fuel cs = some found) :
    ∀ segment ∈ found, segment.length ≤ n := by
  induction fuel generalizing segments cs with
  | zero => cases built
  | succ fuel ih =>
    rw [buildSegments] at built
    have before' : ∀ segment ∈ cs.takeWhile isSegmentChar :: segments, segment.length ≤ n :=
      List.forall_mem_cons.mpr ⟨(List.takeWhile_sublist _).length_le.trans short, before⟩
    split at built
    case isTrue => cases built
    case isFalse =>
    split at built
    case h_1 =>
      cases built
      exact fun segment held => before' segment (List.mem_reverse.mp held)
    case h_2 c after cut =>
      split at built
      case isTrue =>
        have shorter : (c :: after).length ≤ cs.length := by
          rw [← cut]
          exact (List.dropWhile_sublist _).length_le
        exact ih before' ((Nat.le_succ _).trans (shorter.trans short)) built
      case isFalse => cases built

/-! ## Spellings -/

/-- No number of a spelling has more than `n` digits. -/
structure Spelling.Short (spelling : Spelling) (n : Nat) : Prop where
  epoch : spelling.epoch.length ≤ n
  release : ∀ digits ∈ spelling.release, digits.length ≤ n
  pre : ∀ found, spelling.pre = some found → found.2.length ≤ n
  post : ∀ found, spelling.post = some found → found.2.length ≤ n
  dev : ∀ digits, spelling.dev = some digits → digits.length ≤ n
  build : ∀ segments, spelling.build = some segments → ∀ segment ∈ segments, segment.length ≤ n

/-- No number has more digits than the text has characters. -/
theorem short_of_spelling [Casing] {spelling : Spelling} (short : cs.length ≤ n)
    (spelled : spelling? cs = some spelling) : spelling.Short n := by
  rw [spelling?] at spelled
  have unmarked : ((afterWord? "v" cs).getD cs).length ≤ n := by
    cases marked : afterWord? "v" cs with
    | none => exact short
    | some after => exact (length_afterWord marked).trans short
  split at spelled
  case h_1 first afterFirst cut =>
  have inFirst := length_spanDigits ((afterWord? "v" cs).getD cs)
  rw [cut] at inFirst
  split at spelled
  case h_1 epoch afterEpoch counted =>
  have inEpoch : epoch.length ≤ n ∧ afterEpoch.length ≤ n := by
    split at counted
    case h_1 =>
      cases counted
      exact ⟨inFirst.1.trans unmarked, (Nat.le_succ _).trans (inFirst.2.trans unmarked)⟩
    case h_2 =>
      cases counted
      exact ⟨Nat.zero_le n, unmarked⟩
  split at spelled
  case h_1 major afterMajor spanned =>
  have inMajor := length_spanDigits afterEpoch
  rw [spanned] at inMajor
  obtain ⟨_, -, spelled⟩ := Option.bind_eq_some_iff.mp spelled
  split at spelled
  case h_1 release afterRelease numbered =>
  have inRelease := length_moreNumbers afterMajor.length
    (List.forall_mem_singleton.mpr (inMajor.1.trans inEpoch.2)) (inMajor.2.trans inEpoch.2)
  rw [numbered] at inRelease
  split at spelled
  case h_1 pre afterPre staged =>
  have inPre : (∀ found, pre = some found → found.2.length ≤ n) ∧ afterPre.length ≤ n := by
    split at staged
    case h_1 stage digits after found =>
      cases staged
      have bounds := length_mark found
      refine ⟨?_, bounds.2.trans inRelease.2⟩
      rintro _ ⟨⟩
      exact bounds.1.trans inRelease.2
    case h_2 =>
      cases staged
      exact ⟨nofun, inRelease.2⟩
  split at spelled
  case h_1 post afterPost posted =>
  have inPost : (∀ found, post = some found → found.2.length ≤ n) ∧ afterPost.length ≤ n := by
    split at posted
    case h_1 mark digits after found =>
      cases posted
      have bounds := length_post found
      refine ⟨?_, bounds.2.trans inPre.2⟩
      rintro _ ⟨⟩
      exact bounds.1.trans inPre.2
    case h_2 =>
      cases posted
      exact ⟨nofun, inPre.2⟩
  split at spelled
  case h_1 dev afterDev developed =>
  have inDev : (∀ digits, dev = some digits → digits.length ≤ n) ∧ afterDev.length ≤ n := by
    split at developed
    case h_1 digits after found =>
      cases developed
      have bounds := length_mark found
      refine ⟨?_, bounds.2.trans inPost.2⟩
      rintro _ ⟨⟩
      exact bounds.1.trans inPost.2
    case h_2 =>
      cases developed
      exact ⟨nofun, inPost.2⟩
  split at spelled
  case h_1 =>
    cases spelled
    exact ⟨inEpoch.1, inRelease.1, inPre.1, inPost.1, inDev.1, nofun⟩
  case h_2 after =>
    obtain ⟨segments, built, spelled⟩ := Option.bind_eq_some_iff.mp spelled
    cases spelled
    refine ⟨inEpoch.1, inRelease.1, inPre.1, inPost.1, inDev.1, ?_⟩
    rintro _ ⟨⟩
    exact length_buildSegments after.length (List.forall_mem_nil _) ((Nat.le_succ _).trans inDev.2) built
  case h_3 => cases spelled

theorem number_of_short (short : digits.length ≤ Text.maxDigits) : ∃ value, number digits = .ok value := by
  rw [number, if_neg (Nat.not_lt.mpr short)]
  exact ⟨_, rfl⟩

/-- A short number is read beside its mark. -/
theorem marked_of_short {α : Type} {found : α × List Char} (short : found.2.length ≤ Text.maxDigits) :
    ∃ read, (do return (found.1, ← number found.2)) = Except.ok (ε := Refusal) read := by
  obtain ⟨value, read⟩ := number_of_short short
  exact ⟨(found.1, value), by rw [read]; rfl⟩

theorem segment_of_short (short : cs.length ≤ Text.maxDigits) : ∃ found, segment cs = .ok found := by
  rw [segment]
  split
  · obtain ⟨value, read⟩ := number_of_short short
    exact ⟨.number value, by rw [read]; rfl⟩
  · exact ⟨_, rfl⟩

/-- A spelling with short numbers gives a version. -/
theorem version_of_short {spelling : Spelling} (short : spelling.Short Text.maxDigits) :
    ∃ version, spelling.version = .ok version := by
  obtain ⟨epoch, readEpoch⟩ := number_of_short short.epoch
  obtain ⟨release, readRelease⟩ :=
    mapM_of_ok fun digits held => number_of_short (short.release digits held)
  obtain ⟨pre, readPre⟩ :=
    mapM_option_of_ok fun found given => marked_of_short (short.pre found given)
  obtain ⟨post, readPost⟩ :=
    mapM_option_of_ok fun found given => marked_of_short (short.post found given)
  obtain ⟨dev, readDev⟩ :=
    mapM_option_of_ok fun digits given => number_of_short (short.dev digits given)
  obtain ⟨build, readBuild⟩ := mapM_option_of_ok fun segments given =>
    mapM_of_ok fun cs held => segment_of_short (short.build segments given cs held)
  refine ⟨⟨epoch, release, pre, post, dev, build⟩, ?_⟩
  simp only [Spelling.version, readEpoch, readRelease, readPre, readPost, readDev, readBuild]
  rfl

/-! ## Numbers at the start -/

/-- Numbers with dots between them, the first one apart. -/
def dotted (first : List Char) (others : List (List Char)) : List Char :=
  first ++ others.flatMap fun digits => '.' :: digits

/-- Digits of ASCII, at least one. -/
def IsNumber (digits : List Char) : Prop :=
  digits ≠ [] ∧ ∀ c ∈ digits, c.isDigit = true

theorem spanDigits_append (rest : List Char) (number : ∀ c ∈ digits, c.isDigit = true)
    (ends : ∀ c, rest.head? = some c → c.isDigit = false) : spanDigits (digits ++ rest) = (digits, rest) := by
  have stops : rest.takeWhile Char.isDigit = [] ∧ rest.dropWhile Char.isDigit = rest := by
    cases rest with
    | nil => exact ⟨rfl, rfl⟩
    | cons c rest => simp [ends c rfl]
  rw [spanDigits, List.takeWhile_append_of_pos number, List.dropWhile_append_of_pos number, stops.1,
    stops.2, List.append_nil]

variable {first : List Char} {others : List (List Char)}

theorem moreNumbers_flatMap (numbers : List (List Char)) {fuel : Nat}
    (isNumber : ∀ digits ∈ others, IsNumber digits)
    (enough : (others.flatMap fun digits => '.' :: digits).length ≤ fuel) :
    moreNumbers numbers fuel (others.flatMap fun digits => '.' :: digits) =
      (numbers.reverse ++ others, []) := by
  induction others generalizing numbers fuel with
  | nil => cases fuel <;> simp [moreNumbers]
  | cons digits others ih =>
    have number := isNumber digits List.mem_cons_self
    rw [List.flatMap_cons, List.cons_append] at enough ⊢
    cases fuel with
    | zero => cases enough
    | succ fuel =>
      have spanned := spanDigits_append (others.flatMap fun digits => '.' :: digits) number.2
        (by cases others <;> simp)
      have notEmpty : digits.isEmpty = false := by simpa using number.1
      have enough' : (others.flatMap fun digits => '.' :: digits).length ≤ fuel := by
        rw [List.length_cons, List.length_append] at enough
        omega
      rw [moreNumbers, spanned]
      dsimp only
      rw [notEmpty, if_neg Bool.false_ne_true,
        ih _ (fun other held => isNumber other (List.mem_cons_of_mem _ held)) enough']
      simp

theorem stage_nil [casing : Casing] : mark? stageWords [] = none := by
  obtain ⟨beyondAscii⟩ := casing
  cases beyondAscii <;> rfl

theorem post_nil [casing : Casing] : post? [] = none := by
  obtain ⟨beyondAscii⟩ := casing
  cases beyondAscii <;> rfl

theorem spelling_dotted [Casing] (isFirst : IsNumber first) (isNumber : ∀ digits ∈ others, IsNumber digits) :
    spelling? (dotted first others) = some ⟨[], first :: others, none, none, none, none⟩ := by
  obtain ⟨c, digits, rfl⟩ := List.exists_cons_of_ne_nil isFirst.1
  have isDigit := isFirst.2 c List.mem_cons_self
  have unmarked : afterWord? "v" (dotted (c :: digits) others) = none := by
    have differs : 'v' ≠ c := by
      rintro rfl
      revert isDigit
      decide
    simp [afterWord?, dotted, differs]
  have spanned := spanDigits_append (others.flatMap fun digits => '.' :: digits) isFirst.2
    (by cases others <;> simp)
  have numbered := moreNumbers_flatMap [c :: digits] isNumber (Nat.le_refl _)
  rw [spelling?, unmarked, Option.getD_none, dotted, spanned]
  -- No epoch is read, because a dot follows the first number if anything does.
  split
  case h_1 major after cut =>
  cases cut
  split
  case h_1 epoch after counted =>
  split at counted
  case h_1 marked => cases others <;> cases marked
  case h_2 =>
  cases counted
  rw [spanned]
  dsimp only
  rw [numbered]
  dsimp only
  rw [stage_nil]
  dsimp only
  rw [post_nil]
  rfl

/-- What `numericStart` has cut off, with the next number if one follows. -/
def withNext (cs seen : List Char) : List Char :=
  match cs.drop seen.length with
  | '.' :: rest =>
    let digits := rest.takeWhile Text.isDecimalDigit
    if digits.isEmpty then seen else seen ++ '.' :: digits
  | _ => seen

theorem numericStart_eq (cs : List Char) : numericStart cs =
    let first := cs.takeWhile Text.isDecimalDigit
    if first.isEmpty then []
    else if (withNext cs first).length = first.length then first
    else withNext cs (withNext cs first) :=
  rfl

/-- A text whose digits are all those of ASCII, with no more characters than a number may have digits. -/
structure Usual (cs : List Char) : Prop where
  short : cs.length ≤ Text.maxDigits
  plain : ∀ c ∈ cs, Text.isDecimalDigit c = true → c.isDigit = true

/-- Numbers with dots between them, not longer than the text. -/
def IsDotted (cs start : List Char) : Prop :=
  start.length ≤ cs.length ∧ ∃ first others, IsNumber first ∧ (∀ digits ∈ others, IsNumber digits) ∧
    start = dotted first others

section Starts

variable {seen : List Char} (plain : ∀ c ∈ cs, Text.isDecimalDigit c = true → c.isDigit = true)

include plain

theorem isNumber_takeWhile (filled : (cs.takeWhile Text.isDecimalDigit).isEmpty = false) :
    IsNumber (cs.takeWhile Text.isDecimalDigit) := by
  refine ⟨by simpa using filled, fun c held => ?_⟩
  exact plain c ((List.takeWhile_sublist _).mem held) (List.mem_takeWhile_imp held)

theorem isDotted_withNext (numbers : IsDotted cs seen) : IsDotted cs (withNext cs seen) := by
  rw [withNext]
  split
  case h_2 => exact numbers
  case h_1 rest cut =>
  dsimp only
  split
  case isTrue => exact numbers
  case isFalse filled =>
  obtain ⟨short, first, others, isFirst, isNumber, rfl⟩ := numbers
  have within : ∀ c ∈ rest, c ∈ cs := fun c held =>
    (List.drop_sublist _ _).mem (cut ▸ List.mem_cons_of_mem _ held)
  have number := isNumber_takeWhile (fun c held => plain c (within c held)) (by simpa using filled)
  refine ⟨?_, first, others ++ [rest.takeWhile Text.isDecimalDigit], isFirst, ?_, ?_⟩
  · have left := congrArg List.length cut
    have digits := (List.takeWhile_sublist Text.isDecimalDigit (l := rest)).length_le
    rw [List.length_drop, List.length_cons] at left
    rw [List.length_append, List.length_cons]
    omega
  · intro digits held
    rcases List.mem_append.mp held with before | last
    · exact isNumber digits before
    · rw [List.mem_singleton.mp last]
      exact number
  · simp [dotted]

theorem numericStart_cases : numericStart cs = [] ∨ IsDotted cs (numericStart cs) := by
  rw [numericStart_eq]
  dsimp only
  split
  case isTrue => exact Or.inl rfl
  case isFalse filled =>
  have first : IsDotted cs (cs.takeWhile Text.isDecimalDigit) :=
    ⟨(List.takeWhile_sublist _).length_le, _, [], isNumber_takeWhile plain (by simpa using filled),
      List.forall_mem_nil _, by simp [dotted]⟩
  right
  split
  · exact first
  · exact isDotted_withNext plain (isDotted_withNext plain first)

end Starts

theorem toLower_of_isDigit {c : Char} (isDigit : c.isDigit = true) : c.toLower = c := by
  have digit : 48 ≤ c.val ∧ c.val ≤ 57 := by simpa [Char.isDigit] using isDigit
  have notUpper : ¬(c.val ≥ 'A'.val ∧ c.val ≤ 'Z'.val) := by
    rintro ⟨upper, -⟩
    exact absurd (UInt32.le_trans upper digit.2) (by decide)
  exact dif_neg notUpper

theorem map_toLower_dotted (isFirst : IsNumber first) (isNumber : ∀ digits ∈ others, IsNumber digits) :
    (dotted first others).map Char.toLower = dotted first others := by
  refine (List.map_congr_left fun c held => ?_).trans (List.map_id _)
  rcases List.mem_append.mp held with inFirst | later
  · exact toLower_of_isDigit (isFirst.2 c inFirst)
  · obtain ⟨digits, member, held⟩ := List.mem_flatMap.mp later
    rcases List.mem_cons.mp held with rfl | held
    · rfl
    · exact toLower_of_isDigit ((isNumber digits member).2 c held)

/-! ## Versions -/

/-- A text of usual length is read, or it does not follow the scheme. -/
theorem read_cases [Casing] (short : cs.length ≤ Text.maxDigits) :
    (∃ version, read cs = .ok version) ∨ read cs = .error (.malformed (String.ofList cs)) := by
  rw [read]
  split
  case h_1 => exact Or.inr rfl
  case h_2 spelling spelled =>
    have short' : (cs.map Char.toLower).length ≤ Text.maxDigits := by rwa [List.length_map]
    exact Or.inl (version_of_short (short_of_spelling short' spelled))

theorem read_of_isDotted [Casing] {start : List Char} (short : cs.length ≤ Text.maxDigits)
    (numbers : IsDotted cs start) : ∃ version, read start = .ok version := by
  obtain ⟨shorter, first, others, isFirst, isNumber, rfl⟩ := numbers
  have spelled := spelling_dotted isFirst isNumber
  have inLimits := short_of_spelling (shorter.trans short) spelled
  obtain ⟨version, told⟩ := version_of_short inLimits
  exact ⟨version, by rw [read, map_toLower_dotted isFirst isNumber, spelled]; exact told⟩

/-- Every text of usual length and digits gives a version. -/
theorem ofManifest_of_usual [Casing] {declared : String} (usual : Usual declared.toList) :
    ∃ version, ofManifest declared = .ok version := by
  have trimmed := Text.trim_sublist declared.toList
  have short := trimmed.length_le.trans usual.short
  have plain : ∀ c ∈ Text.trim declared.toList, Text.isDecimalDigit c = true → c.isDigit = true :=
    fun c held => usual.plain c (trimmed.mem held)
  rw [ofManifest]
  dsimp only
  split
  · exact ⟨zero, rfl⟩
  rcases read_cases short with ⟨version, told⟩ | malformed
  · rw [told]
    exact ⟨version, rfl⟩
  · rw [malformed]
    dsimp only
    split
    · exact ⟨zero, rfl⟩
    case isFalse filled =>
      rcases numericStart_cases plain with empty | numbers
      · exact absurd (by rw [empty]; rfl) filled
      · exact read_of_isDotted short numbers

theorem unusual_of_refused [Casing] {declared : String} {refusal : Refusal}
    (refused : ofManifest declared = .error refusal) : ¬ Usual declared.toList := by
  intro usual
  obtain ⟨version, told⟩ := ofManifest_of_usual usual
  rw [told] at refused
  cases refused

end Pruning.Version
