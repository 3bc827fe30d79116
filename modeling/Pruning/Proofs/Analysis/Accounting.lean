import Pruning.Proofs.Analysis.Classification
import Pruning.Proofs.Patience

/-!
# What an analysis tells of its progress

From its start on, an analysis does work and finds entries, and the monitor shows both: a gauge of units
and of entries that only moves forward, and never beyond the total (`Event.Moves`, `Advances`). A monitor
that shows a gauge tells where the events move it, one update for each move (`Advances.watch`). Each pass
over the declarations moves the gauge by its own units and by the entries it adds (`advances_search`), so
a run that is not cancelled accounts for all of its work (`run_accounts`).
-/

namespace Pruning

/-! ## Counts in names -/

theorem toList_countMessage (n : Nat) : ∃ rest, (countMessage n).toList =
    "Analyzing: ".toList ++ (Nat.toDigits 10 n ++ ' ' :: rest) := by
  have digits : toString (n : Int) = String.ofList (Nat.toDigits 10 n) := Nat.repr_eq_ofList_toDigits
  have parts : countMessage n = "Analyzing: " ++ toString (n : Int) ++ " unused " ++
      (if (n : Int) = 1 then "dependency" else "dependencies") ++ " found" := rfl
  have blank : " unused ".toList = ' ' :: "unused ".toList := by decide
  rw [parts, digits]
  simp only [String.toList_append, String.toList_ofList, List.append_assoc, blank, List.cons_append]
  exact ⟨_, rfl⟩

theorem takeWhile_toDigits (n : Nat) (rest : List Char) :
    (Nat.toDigits 10 n ++ ' ' :: rest).takeWhile Char.isDigit = Nat.toDigits 10 n := by
  have allDigits : ∀ c ∈ Nat.toDigits 10 n, c.isDigit = true := fun _ member =>
    Nat.isDigit_of_mem_toDigits (by decide) (by decide) member
  rw [List.takeWhile_append_of_pos allDigits, List.takeWhile_cons_of_neg (by decide), List.append_nil]

/-- A count can be read off the name of the work. -/
theorem countMessage_inj {count other : Nat} :
    countMessage count = countMessage other ↔ count = other := by
  constructor
  · intro same
    obtain ⟨rest, first⟩ := toList_countMessage count
    obtain ⟨rest', second⟩ := toList_countMessage other
    have told : Nat.toDigits 10 count ++ ' ' :: rest = Nat.toDigits 10 other ++ ' ' :: rest' :=
      List.append_cancel_left (first.symm.trans ((congrArg String.toList same).trans second))
    have digits : Nat.toDigits 10 count = Nat.toDigits 10 other := by
      rw [← takeWhile_toDigits count rest, told, takeWhile_toDigits]
    apply Nat.repr_injective
    rw [Nat.repr_eq_ofList_toDigits, Nat.repr_eq_ofList_toDigits, digits]
  · rintro rfl
    rfl

/-! ## Moves of a gauge -/

/-- How far an analysis has come: the units of work that are done, and the entries that are found. -/
structure Gauge where
  completed : Int
  found : Nat

namespace Gauge

/-- Neither less work is done, nor fewer entries are found. -/
instance : Preorder Gauge where
  le earlier later := earlier.completed ≤ later.completed ∧ earlier.found ≤ later.found
  le_refl _ := ⟨le_rfl, le_rfl⟩
  le_trans _ _ _ first second := ⟨first.1.trans second.1, first.2.trans second.2⟩

/-- What a monitor tells here. -/
def update (total : Int) (gauge : Gauge) : Update :=
  ⟨gauge.completed, total, countMessage gauge.found⟩

end Gauge

/-- Whether an event leaves the progress as it is. -/
def Event.isQuiet : Event → Bool
  | .note _ => true
  | .phase _ => true
  | .poll _ => true
  | _ => false

/-- `e.Moves total before after`: the event moves the gauge forward, and not beyond the total. -/
inductive Event.Moves (total : Int) : Event → Gauge → Gauge → Prop
  | quiet {e : Event} {gauge : Gauge} (isQuiet : e.isQuiet = true) : Moves total e gauge gauge
  | worked {amount : Int} {gauge : Gauge} (positive : 0 < amount)
    (within : gauge.completed + amount ≤ total) :
    Moves total (.worked amount) gauge ⟨gauge.completed + amount, gauge.found⟩
  | task {count : Nat} {gauge : Gauge} (more : gauge.found ≤ count) :
    Moves total (.task (countMessage count)) gauge ⟨gauge.completed, count⟩

/-- One event after the other moves the gauge. -/
inductive Advances (total : Int) : List Event → Gauge → Gauge → Prop
  | nil {gauge : Gauge} : Advances total [] gauge gauge
  | cons {e : Event} {rest : List Event} {first next last : Gauge} (moves : e.Moves total first next)
    (later : Advances total rest next last) : Advances total (e :: rest) first last

section Advances

variable {total : Int} {e : Event} {events rest : List Event} {first next last : Gauge}
  {monitor : Monitor}

namespace Advances

theorem append (left : Advances total events first next) (right : Advances total rest next last) :
    Advances total (events ++ rest) first last := by
  induction left with
  | nil => exact right
  | cons moves _ ih => exact cons moves (ih right)

theorem split (advances : Advances total (events ++ rest) first last) :
    ∃ next, Advances total events first next ∧ Advances total rest next last := by
  induction events generalizing first with
  | nil => exact ⟨first, nil, advances⟩
  | cons e others ih =>
    cases advances with
    | cons moves later =>
      obtain ⟨next, left, right⟩ := ih later
      exact ⟨next, cons moves left, right⟩

theorem of_quiet (quiet : ∀ e ∈ events, e.isQuiet = true) : Advances total events first first := by
  induction events with
  | nil => exact nil
  | cons e others ih =>
    exact cons (.quiet (quiet e List.mem_cons_self))
      (ih fun e later => quiet e (List.mem_cons_of_mem _ later))

/-- The units of an event that comes next fit into the total. -/
theorem within_of_worked {amount : Int} (advances : Advances total (.worked amount :: rest) first last) :
    first.completed + amount ≤ total := by
  cases advances with
  | cons moves later =>
    cases moves with
    | quiet isQuiet => cases isQuiet
    | worked _ within => exact within

end Advances

/-! ## What the monitor makes of a gauge -/

theorem Monitor.observe_of_quiet (isQuiet : e.isQuiet = true) : monitor.observe e = monitor := by
  cases e with
  | note record => rfl
  | phase phase => rfl
  | poll owner => rfl
  | start total task => cases isQuiet
  | worked amount => cases isQuiet
  | task name => cases isQuiet

theorem Monitor.watch_of_quiet (quiet : ∀ e ∈ events, e.isQuiet = true) : monitor.watch events = monitor := by
  induction events with
  | nil => rfl
  | cons e others ih =>
    rw [Monitor.watch, List.foldl_cons, observe_of_quiet (quiet e List.mem_cons_self)]
    exact ih fun e later => quiet e (List.mem_cons_of_mem _ later)

/-- A monitor that shows the gauge shows where the event moves it, and tells that unless the event is
quiet. -/
theorem Event.Moves.observe (moves : e.Moves total first next)
    (shows : monitor.state = first.update total) :
    first ≤ next ∧ (monitor.observe e).state = next.update total ∧
      ((monitor.observe e).updates = monitor.updates ∧ next = first ∨
        (monitor.observe e).updates = monitor.updates ++ [next.update total]) := by
  obtain ⟨completed, same, task⟩ : monitor.completed = first.completed ∧ monitor.total = total ∧
      monitor.task = countMessage first.found := by
    simpa [Monitor.state, Gauge.update] using shows
  cases moves with
  | quiet isQuiet =>
    rw [Monitor.observe_of_quiet isQuiet]
    exact ⟨le_rfl, shows, Or.inl ⟨rfl, rfl⟩⟩
  | @worked amount _ positive within =>
    have more : min (first.completed + amount) total = first.completed + amount := min_eq_left within
    have counts : monitor.observe (.worked amount) =
        { monitor with completed := first.completed + amount }.tell := by
      rw [Monitor.observe, Monitor.worked, if_neg (by omega), completed, same, more]
    have shown : ({ monitor with completed := first.completed + amount } : Monitor).state =
        Gauge.update total ⟨first.completed + amount, first.found⟩ := by
      rw [Monitor.state, same, task]
      rfl
    rw [counts]
    exact ⟨⟨by dsimp only; omega, le_rfl⟩, shown, Or.inr (congrArg (monitor.updates ++ [·]) shown)⟩
  | @task count _ more =>
    have shown : ({ monitor with task := countMessage count } : Monitor).state =
        Gauge.update total ⟨first.completed, count⟩ := by
      rw [Monitor.state, completed, same]
      rfl
    exact ⟨⟨le_rfl, more⟩, shown, Or.inr (congrArg (monitor.updates ++ [·]) shown)⟩

/-- A monitor that shows the gauge tells one after the other where the events move it. -/
theorem Advances.watch (advances : Advances total events first last)
    (shows : monitor.state = first.update total) :
    (monitor.watch events).state = last.update total ∧
      ∃ told : List Gauge,
        (monitor.watch events).updates = monitor.updates ++ told.map (Gauge.update total) ∧
        (first :: told).IsChain (· ≤ ·) ∧ (first :: told).getLast? = some last := by
  induction advances generalizing monitor with
  | nil => exact ⟨shows, [], (List.append_nil _).symm, List.isChain_singleton _, rfl⟩
  | @cons e rest first next last moves _ ih =>
    obtain ⟨forward, showsNext, tells⟩ := moves.observe shows
    obtain ⟨showsLast, told, updates, chain, ends⟩ := ih showsNext
    refine ⟨showsLast, ?_⟩
    rcases tells with ⟨silent, rfl⟩ | tells
    · exact ⟨told, by rw [← silent]; exact updates, chain, ends⟩
    · refine ⟨next :: told, ?_, List.isChain_cons_cons.mpr ⟨forward, chain⟩, ?_⟩
      · rw [List.map_cons, List.append_cons, ← tells]
        exact updates
      · rw [List.getLast?_cons_cons, ends]

/-- No unit is cut off at the total. -/
theorem Advances.within {before after : List Event} {amount : Int}
    (advances : Advances total (before ++ .worked amount :: after) first last)
    (shows : monitor.state = first.update total) :
    (monitor.watch before).completed + amount ≤ (monitor.watch before).total := by
  obtain ⟨next, left, right⟩ := advances.split
  have shown := (left.watch shows).1
  have completed : (monitor.watch before).completed = next.completed := congrArg Update.completed shown
  have same : (monitor.watch before).total = total := congrArg Update.total shown
  rw [completed, same]
  exact right.within_of_worked

theorem Monitor.state_start (total_nonneg : 0 ≤ total) :
    (monitor.start total (countMessage 0)).state = Gauge.update total ⟨0, 0⟩ :=
  congrArg (fun total => (⟨0, total, countMessage 0⟩ : Update)) (max_eq_left total_nonneg)

theorem Monitor.watch_start {before : List Event} {task : String}
    (silent : ∀ e ∈ before, e.isQuiet = true) :
    monitor.watch (before ++ .start total task :: rest) = (monitor.start total task).watch rest := by
  rw [watch_append, watch_of_quiet silent]
  rfl

/-- Events that tell of no progress until they start the work, and then move the gauge from nothing to its
last place. -/
structure Tallies (total : Int) (events : List Event) (last : Gauge) : Prop where
  total_nonneg : 0 ≤ total
  starts : ∃ before rest, events = before ++ .start total (countMessage 0) :: rest ∧
    (∀ e ∈ before, e.isQuiet = true) ∧ Advances total rest ⟨0, 0⟩ last

namespace Tallies

/-- Any monitor tells where the gauge starts, and then where the events move it. -/
theorem watch (tallies : Tallies total events last) (monitor : Monitor) :
    ∃ told : List Gauge,
      (monitor.watch events).updates = monitor.updates ++ told.map (Gauge.update total) ∧
      told.head? = some ⟨0, 0⟩ ∧ told.getLast? = some last ∧ told.Pairwise (· ≤ ·) := by
  obtain ⟨before, rest, rfl, silent, advances⟩ := tallies.starts
  have shows : (monitor.start total (countMessage 0)).state = Gauge.update total ⟨0, 0⟩ :=
    Monitor.state_start tallies.total_nonneg
  obtain ⟨_, told, tells, chain, ends⟩ := advances.watch shows
  refine ⟨⟨0, 0⟩ :: told, ?_, rfl, ends, List.isChain_iff_pairwise.mp chain⟩
  rw [Monitor.watch_start silent, tells, List.map_cons, List.append_cons, ← shows]
  rfl

/-- No unit is cut off at the total. -/
theorem within (tallies : Tallies total events last) (monitor : Monitor) {first after : List Event}
    {amount : Int} (split : events = first ++ .worked amount :: after) :
    (monitor.watch first).completed + amount ≤ (monitor.watch first).total := by
  obtain ⟨before, rest, rfl, silent, advances⟩ := tallies.starts
  -- work is counted after the start only, as what comes before is quiet
  rcases List.append_eq_append_iff.mp split with ⟨between, rfl, later⟩ | ⟨between, rfl, later⟩
  · cases between with
    | nil => cases later
    | cons e between =>
      cases later
      rw [Monitor.watch_start silent]
      exact advances.within (Monitor.state_start tallies.total_nonneg)
  · cases between with
    | nil => cases later
    | cons e between =>
      cases later
      cases silent (.worked amount) (by simp)

end Tallies

end Advances

/-! ## Quiet scripts -/

namespace Script

variable {α β : Type}

/-- The script tells of no progress. -/
def Quiet (script : Script α) : Prop :=
  ∀ e ∈ script.events, e.isQuiet = true

theorem events_event_bind (e : Event) (next : Unit → Script β) :
    (event e >>= next).events = e :: (next ()).events :=
  rfl

theorem quiet_pure (a : α) : (pure a : Script α).Quiet :=
  List.forall_mem_nil _

theorem quiet_note {severity : Severity} {channel : Channel} {text : String} :
    (note severity channel text).Quiet :=
  List.forall_mem_singleton.mpr rfl

theorem Quiet.bind {script : Script α} {next : α → Script β} (first : script.Quiet)
    (later : ∀ a, (next a).Quiet) : (script >>= next).Quiet := by
  intro e happens
  change e ∈ (script.andThen next).events at happens
  rw [andThen] at happens
  split at happens
  case h_1 => exact first e happens
  case h_2 a _ => exact (List.mem_append.mp happens).elim (first e) (later a e)

theorem Quiet.forIn {items : List α} {round : α → PUnit → Script (ForInStep PUnit)}
    (each : ∀ item state, (round item state).Quiet) : (forIn items PUnit.unit round).Quiet := by
  induction items with
  | nil => exact quiet_pure _
  | cons item rest ih =>
    rw [List.forIn_cons]
    refine (each item PUnit.unit).bind fun step => ?_
    cases step with
    | done state => exact quiet_pure _
    | yield state => exact ih

theorem quiet_noteEach {items : List α} {severity : Severity} {channel : Channel} {text : α → String}
    {b : β} : (do
      for item in items do
        note severity channel (text item)
      return b : Script β).Quiet :=
  .bind (.forIn fun _ _ => .bind (quiet_note) fun _ => quiet_pure _) fun _ => quiet_pure _

end Script

theorem quiet_absorb (used : UsedModules) (packages : List PackageImport) :
    (absorb used packages).Quiet :=
  Script.quiet_noteEach

theorem quiet_script (owner : Option String) (step : Expansion) : (step.script owner).Quiet :=
  .bind (List.forall_mem_singleton.mpr rfl) fun _ => Script.quiet_noteEach

theorem quiet_minimize (used : UsedModules) (packages : List PackageImport) (graph : ReexportGraph)
    (owner : Option String) : (minimize used packages graph owner).Quiet := by
  refine .bind (quiet_absorb used packages) fun _ => .bind ?_ fun _ => Script.quiet_pure _
  refine .bind (.forIn fun step _ => ?_) fun _ => Script.quiet_pure _
  exact .bind (quiet_script owner step) fun _ => Script.quiet_pure _

theorem quiet_keepBuddies (m : Module) (entries : List Entry) : (keepBuddies m entries).Quiet :=
  Script.quiet_noteEach

theorem quiet_keepReexported (entries : List Entry) : (keepReexported entries).Quiet :=
  Script.quiet_noteEach

/-- An oracle with fixed packages tells of its phases, and of no progress. -/
theorem quiet_fixed (packages : PackageSet) (m : Module) : ((Oracle.fixed packages).consult m).Quiet := by
  have phases : ((Oracle.fixed packages).consult m).events =
      [.phase .opening, .phase .computing, .phase .closing] := rfl
  rw [Script.Quiet, phases]
  decide

/-! ## The passes of an analysis -/

namespace Analysis

variable {m : Module} {registry : Registry} {used : PackageSet} {total : Int}

/-- Each requirement takes its units, and the count of entries is told of each. -/
theorem advances_classifyRequires {graph : ReexportGraph} {requires : List ModuleImport}
    {classified after : Classified} (done : Int)
    (answers : (classifyRequires m used registry graph classified requires).outcome = .ok after)
    (within : done + requirementWork * requires.length ≤ total) :
    Advances total (classifyRequires m used registry graph classified requires).events
      ⟨done, classified.unused.length⟩
      ⟨done + requirementWork * requires.length, after.unused.length⟩ := by
  induction requires generalizing classified done with
  | nil =>
    cases answers
    simpa [classifyRequires, Script.answer] using Advances.nil
  | cons required rest ih =>
    have units : done + requirementWork * (required :: rest).length =
        done + requirementWork + requirementWork * rest.length := by
      rw [List.length_cons]
      push_cast
      ring
    rw [units] at within ⊢
    have own : (0 : Int) < requirementWork := by decide
    have fits : done + requirementWork ≤ total := by
      have others : (0 : Int) ≤ requirementWork * rest.length := by positivity
      omega
    rw [classifyRequires, poll, Script.outcome_event_bind] at answers
    obtain ⟨isUnused, judged, answers⟩ := Script.answer_of_bind answers
    dsimp only at answers
    rw [Script.outcome_event_bind, tellCount, Script.outcome_event_bind] at answers
    rw [classifyRequires, poll, Script.events_event_bind, Script.events_bind_of_ok _ judged]
    dsimp only
    rw [Script.events_event_bind, tellCount, Script.events_event_bind]
    refine .cons (.quiet rfl) (.cons (.worked own fits) (.cons (.task ?_) (ih _ answers within)))
    cases isUnused <;> simp

/-- Each package import takes one unit. The count of entries is told of those that are unused, in front of
their unit. -/
theorem advances_classifyPackages {exported : List String} {packages : List PackageImport}
    {classified after : Classified} (done : Int)
    (answers : (classifyPackages m exported used classified packages).outcome = .ok after)
    (within : done + packages.length ≤ total) :
    Advances total (classifyPackages m exported used classified packages).events
      ⟨done, classified.unused.length⟩ ⟨done + packages.length, after.unused.length⟩ := by
  induction packages generalizing classified done with
  | nil =>
    cases answers
    simpa [classifyPackages, Script.answer] using Advances.nil
  | cons package rest ih =>
    have units : done + (package :: rest).length = done + 1 + rest.length := by
      rw [List.length_cons]
      push_cast
      ring
    rw [units] at within ⊢
    rw [classifyPackages, poll, Script.outcome_event_bind] at answers
    rw [classifyPackages, poll, Script.events_event_bind]
    cases isUnused : package.isUnused exported used with
    | true =>
      rw [isUnused, if_pos rfl] at answers
      rw [if_pos rfl]
      dsimp only at answers ⊢
      rw [tellCount, Script.outcome_event_bind, Script.outcome_bind_of_ok _ (Script.outcome_pure _),
        Script.outcome_event_bind] at answers
      rw [tellCount, Script.events_event_bind, Script.events_bind_of_ok _ (Script.outcome_pure _)]
      exact .cons (.quiet rfl) (.cons (.task (by simp)) (.cons (.worked one_pos (by dsimp only; omega))
        (ih _ answers within)))
    | false =>
      rw [isUnused, if_neg Bool.false_ne_true, Script.outcome_bind_of_ok _ (Script.outcome_pure _),
        Script.outcome_event_bind] at answers
      rw [if_neg Bool.false_ne_true, Script.events_bind_of_ok _ (Script.outcome_pure _)]
      exact .cons (.quiet rfl) (.cons (.worked one_pos (by dsimp only; omega)) (ih _ answers within))

/-- What the units of an analysis come to. -/
def units (m : Module) : Int :=
  3 * m.requires.length + m.packageImports.length + 1

theorem units_eq (m : Module) :
    (m.requires.length * requirementWork + m.packageImports.length + 1 : Int) = units m := by
  rw [units, requirementWork]
  push_cast
  ring

/-- After its start a search does all of its work, and finds its entries on the way. -/
theorem advances_search (used : PackageSet) (legible : m.Legible registry) :
    ∃ events, (search m registry used).events = .start (units m) (countMessage 0) :: events ∧
      Advances (units m) events ⟨0, 0⟩ ⟨units m, (found m registry used).length⟩ := by
  obtain ⟨names, told⟩ := legible.own
  obtain ⟨byRequires, requires, ofRequires⟩ : ∃ classified : Classified,
      (classifyRequires m used registry (.ofRegistry registry) ⟨[], [], []⟩ m.requires).outcome =
          .ok classified ∧
        classified = ⟨(m.requires.filter fun required => !registry.serves used required.id).map
          .requirement, usedModules m registry used, []⟩ :=
    ⟨_, classifyRequires_outcome legible.shown _, rfl⟩
  have packages : (classifyPackages m names used byRequires m.packageImports).outcome = _ :=
    classifyPackages_outcome names byRequires m.packageImports
  have sum : 0 + requirementWork * m.requires.length + m.packageImports.length + 1 = units m := by
    rw [← units_eq]
    ring
  have overRequires : Advances (units m) _ _ _ := advances_classifyRequires 0 requires (by omega)
  have overPackages : Advances (units m) _ _ _ :=
    advances_classifyPackages (0 + requirementWork * m.requires.length) packages (by omega)
  have all : byRequires.unused ++ (m.packageImports.filter fun package =>
      package.isUnused names used).map Entry.packageImport ++
        ((absorbed byRequires.usedModules (byRequires.usedPackages ++ m.packageImports.filter fun package =>
          !package.isUnused names used)).map Entry.packageImport ++
        ((ReexportGraph.ofRegistry registry).contracted byRequires.usedModules).map Entry.requirement) =
          found m registry used := by
    rw [ofRequires, found, Module.exported_eq told]
    rfl
  rw [search]
  dsimp only
  rw [Script.events_event_bind, told, Script.events_bind_of_ok _ rfl, units_eq]
  refine ⟨_, rfl, .append .nil ?_⟩
  rw [Script.events_bind_of_ok _ requires, Script.events_bind_of_ok _ packages, poll,
    Script.events_event_bind, Script.events_bind_of_ok _ (minimize_outcome _ _ _ _)]
  refine overRequires.append (overPackages.append (.cons (.quiet rfl)
    (.append (.of_quiet (quiet_minimize _ _ _ _)) ?_)))
  rw [Script.events_event_bind, tellCount, Script.events_event_bind,
    Script.events_bind_of_ok _ (keepBuddies_outcome _ _)]
  have finish (found : Nat) : Event.Moves (units m) (.worked 1)
      ⟨0 + requirementWork * m.requires.length + m.packageImports.length, found⟩ ⟨units m, found⟩ :=
    sum ▸ .worked one_pos le_rfl
  refine .cons (finish _) (all ▸ .cons (.task ?_) (.append (.of_quiet (quiet_keepBuddies _ _))
    (.of_quiet (quiet_keepReexported _))))
  simp

/-- What a run tells in front of its start and behind its search is quiet. -/
theorem tallies_run {oracle : Oracle} (hasId : m.hasId) (legible : m.Legible registry)
    (answers : (oracle.consult m).outcome = .ok used) (quiet : (oracle.consult m).Quiet) :
    Tallies (units m) (run m registry oracle).events
      ⟨units m, (found m registry used).length⟩ := by
  obtain ⟨events, searched, advances⟩ := advances_search used legible
  refine ⟨by rw [units]; omega, ?_⟩
  rw [run, if_neg (by simp [hasId]), poll, Script.events_event_bind,
    Script.events_bind_of_ok _ (Script.outcome_mapFailure_of_ok _ answers), Script.note,
    Script.events_event_bind, Script.events_bind_of_ok _ (search_outcome legible), searched,
    List.append_cons, ← List.cons_append]
  refine ⟨_, _, rfl, fun e happens => ?_, advances.append (.of_quiet ?_)⟩
  · rcases List.mem_cons.mp happens with rfl | happens
    · rfl
    · rcases List.mem_append.mp happens with happens | happens
      · exact quiet e happens
      · cases List.mem_singleton.mp happens
        rfl
  · exact List.forall_mem_singleton.mpr rfl

theorem reported_eq_filter : reported m registry used =
    (found m registry used).filter fun entry => !(entry.isBuddy m || entry.isReexported) := by
  rw [reported, List.filter_filter]
  refine List.filter_congr fun entry _ => ?_
  rw [Bool.not_or, Bool.and_comm]

/-- The updates of a run that is not cancelled account for all of its work. They start at nothing out of
three units for each requirement, one for each package import and one for the minimization, never take
back a unit or an entry, and end at the total; no unit that is counted is cut off at the total. The last
number of entries is that before the policies, which drop some of them from the result. The oracle is not
handed the monitor, and tells of no progress. -/
theorem run_accounts {oracle : Oracle} {monitor : Monitor} (hasId : m.hasId) (told : m.Readable)
    (readable : registry.Readable) (answers : (oracle.consult m).outcome = .ok used)
    (quiet : (oracle.consult m).Quiet) (uncancelled : ¬ monitor.Cancels (run m registry oracle)) :
    ∃ (findings : Findings) (updates : List Update),
      (monitor.play (run m registry oracle)).1.outcome = .ok findings ∧
      (monitor.play (run m registry oracle)).2.updates = monitor.updates ++ updates ∧
      updates.head? = some ⟨0, units m, countMessage 0⟩ ∧
      updates.getLast? =
        some ⟨units m, units m, countMessage ((found m registry used).length : Nat)⟩ ∧
      (∀ update ∈ updates, update.total = units m ∧ ∃ count : Nat, update.task = countMessage count) ∧
      (updates.Pairwise fun earlier later => earlier.completed ≤ later.completed ∧
        ∀ count more : Nat, earlier.task = countMessage count → later.task = countMessage more →
          count ≤ more) ∧
      (∀ before amount after, (run m registry oracle).events = before ++ .worked amount :: after →
        (monitor.calm.watch before).completed + amount ≤ (monitor.calm.watch before).total) ∧
      findings.unused = (found m registry used).filter (fun entry =>
        !(entry.isBuddy m || entry.isReexported)) ∧
      (found m registry used).length = findings.unused.length +
        ((found m registry used).filter fun entry => entry.isBuddy m || entry.isReexported).length := by
  have tallies := tallies_run hasId (.of_readable told readable) answers quiet
  obtain ⟨gauges, tells, starts, ends, ordered⟩ := tallies.watch monitor.calm
  refine ⟨_, gauges.map (Gauge.update (units m)),
    play_run_outcome hasId told readable answers uncancelled, ?_, ?_, ?_, ?_, ?_,
    fun _ _ _ split => tallies.within monitor.calm split, reported_eq_filter, ?_⟩
  · rw [Monitor.updates_play_of_not_cancels uncancelled, tells, Monitor.updates_calm]
  · rw [List.head?_map, starts]
    rfl
  · rw [List.getLast?_map, ends]
    rfl
  · intro update member
    obtain ⟨gauge, _, rfl⟩ := List.mem_map.mp member
    exact ⟨rfl, gauge.found, rfl⟩
  · rw [List.pairwise_map]
    refine ordered.imp fun {earlier later} forward => ⟨forward.1, fun count more isCount isMore => ?_⟩
    rw [← countMessage_inj.mp isCount, ← countMessage_inj.mp isMore]
    exact forward.2
  · rw [reported_eq_filter, Nat.add_comm, ← List.length_eq_length_filter_add]

/-- A module that re-exports a module nobody has, requires the library, and imports a package that nothing
uses. -/
def clientOfEight : Module :=
  { Module.plain 9 "client" "1.0" [.plain ⟨9, 0⟩ "missing" true, .plain ⟨9, 1⟩ "library" false] [] with
    packages := some [⟨⟨9, 0⟩, "unused.api", [], []⟩] }

/-- Eight units of work, and two entries on the way; the re-exported one is dropped in the end. -/
theorem run_accounts_eight :
    clientOfEight.hasId = true ∧ clientOfEight.Readable ∧ Registry.facadeOfTwo.Readable ∧
      ((Oracle.fixed ["library.api"]).consult clientOfEight).Quiet ∧
      ∃ (findings : Findings) (updates : List Update),
        (Monitor.silent.play
          (run clientOfEight Registry.facadeOfTwo (.fixed ["library.api"]))).1.outcome = .ok findings ∧
        (Monitor.silent.play
          (run clientOfEight Registry.facadeOfTwo (.fixed ["library.api"]))).2.updates = updates ∧
        updates.head? = some ⟨0, 8, "Analyzing: 0 unused dependencies found"⟩ ∧
        updates.getLast? = some ⟨8, 8, "Analyzing: 2 unused dependencies found"⟩ ∧
        findings.unused = [.packageImport ⟨⟨9, 0⟩, "unused.api", [], []⟩] := by
  have told : clientOfEight.Readable := ⟨[], rfl⟩
  have readable : Registry.facadeOfTwo.Readable := Registry.readable_facadeOfTwo
  have quiet := quiet_fixed ["library.api"] clientOfEight
  have uncancelled : ¬ Monitor.silent.Cancels
      (run clientOfEight Registry.facadeOfTwo (.fixed ["library.api"])) :=
    Monitor.idle_silent.not_cancels (run_outcome rfl told readable rfl)
  have two : found clientOfEight Registry.facadeOfTwo ["library.api"] =
      [.requirement (.plain ⟨9, 0⟩ "missing" true), .packageImport ⟨⟨9, 0⟩, "unused.api", [], []⟩] := by
    cbv
  obtain ⟨findings, updates, outcome, tells, starts, ends, _, _, _, kept, _⟩ :=
    run_accounts rfl told readable rfl quiet uncancelled
  rw [two] at ends kept
  exact ⟨rfl, told, readable, quiet, findings, updates, outcome, tells, starts, ends, kept⟩

end Analysis

end Pruning
