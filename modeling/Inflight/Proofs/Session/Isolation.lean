import Inflight.Proofs.Session.Independence
import Inflight.Proofs.Session.Level
import Inflight.Proofs.Session.Ordinals

/-!
# Addresses do not disturb each other

An event is recorded at the address of its pivot, and which address that is lies
with the configuration and the live state alone (`Config.addressOf?`).  Its
number comes from the count at this one address, which no command changes that
is not recorded there.  So two sessions that count alike at an address stay so
when one of them is also given commands that are not recorded at it
(`Session.AlikeAt`): the events at an address make the same records alone as in
any run among other events, other failures and logs that come and go
(`Session.runLines_isolated`).  In particular it does not matter how the events
at several addresses are interleaved.
-/

namespace Inflight

set_option autoImplicit false

open Log (Surroundings)
open Storage (FileSystem)

/-! ## Where a command is recorded -/

/-- The address at which a command is recorded; none where it makes no record. -/
def Config.addressOf? (config : Config) (line : String) (live : Inspector) : Option Address :=
  match Command.ofLine line with
  | .ok (.record event) =>
    match event.sight config live with
    | .ok (.captured capture) => some capture.pivot.addr
    | _ => none
  | _ => none

/-- The commands of a row that are recorded at an address. -/
def Config.eventsAt (config : Config) (addr : Address) (steps : List (String × Inspector)) :
    List (String × Inspector) :=
  steps.filter fun step => config.addressOf? step.1 step.2 = some addr

variable {config : Config} {line : String} {live : Inspector} {addr : Address}

theorem Config.addressOf?_eq_some_iff :
    config.addressOf? line live = some addr ↔
      ∃ event capture, Command.ofLine line = .ok (.record event) ∧
        event.sight config live = .ok (.captured capture) ∧ capture.pivot.addr = addr := by
  unfold addressOf?
  constructor
  · intro told
    split at told
    · next event parsed =>
      split at told
      · next capture seen => exact ⟨event, capture, parsed, seen, Option.some.inj told⟩
      · cases told
    · cases told
  · rintro ⟨event, capture, parsed, seen, pivot⟩
    simp only [parsed, seen, pivot]

theorem Config.eventsAt_cons_of_eq (here : config.addressOf? line live = some addr)
    (rest : List (String × Inspector)) :
    config.eventsAt addr ((line, live) :: rest) = (line, live) :: config.eventsAt addr rest :=
  List.filter_cons_of_pos (decide_eq_true here)

theorem Config.eventsAt_cons_of_ne (apart : config.addressOf? line live ≠ some addr)
    (rest : List (String × Inspector)) :
    config.eventsAt addr ((line, live) :: rest) = config.eventsAt addr rest :=
  List.filter_cons_of_neg (by simpa using apart)

/-- Two rows of commands have the same events at each address, in the same order there.  They
may differ in how the events at different addresses lie between each other, and in all commands
that make no record. -/
def Config.SameEvents (config : Config) (steps others : List (String × Inspector)) : Prop :=
  ∀ addr, config.eventsAt addr steps = config.eventsAt addr others

/-- Whether a command left a record at an address. -/
def Outcome.recordedAt (addr : Address) : Outcome → Bool
  | .recorded record => record.addr = addr
  | _ => false

/-- The commands of a run that left a record at an address, as a row to run again. -/
def recordedAt (addr : Address) (run : List ((String × Inspector) × Outcome)) :
    List (String × Inspector) :=
  (run.filter fun command => command.2.recordedAt addr).map Prod.fst

theorem recordedAt_cons (addr : Address) (step : String × Inspector) (outcome : Outcome)
    (rest : List ((String × Inspector) × Outcome)) :
    recordedAt addr ((step, outcome) :: rest) =
      if outcome.recordedAt addr then step :: recordedAt addr rest else recordedAt addr rest := by
  unfold recordedAt
  rw [List.filter_cons]
  split <;> rfl

/-- The number of an event at an address, and the count there after it, depend on the count at
that address alone. -/
theorem Event.count_congr (event : Event) {counters others : Counters} {addr : Address}
    (same : counters.count addr = others.count addr) :
    (event.count counters addr).1 = (event.count others addr).1 ∧
      (event.count counters addr).2.count addr = (event.count others addr).2.count addr := by
  cases event with
  | mispredict => simp only [Event.count, Counters.count_record, same, and_self]
  | recoveryEnd => exact ⟨same, same⟩

/-- An event at one address leaves the count at every other. -/
theorem Event.count_apart (event : Event) (counters : Counters) {addr other : Address}
    (apart : other ≠ addr) :
    (event.count counters addr).2.count other = counters.count other := by
  cases event with
  | mispredict => simp only [Event.count, Counters.count_record, if_neg apart, Nat.add_zero]
  | recoveryEnd => rfl

namespace Session

/-! ## One command -/

section Command

variable {σ φ : Type} [FileSystem σ φ] {session : Session σ φ}

/-- On a console that works, a command is recorded where the live state says. -/
theorem recordedAt_runLine (works : session.console.mode = .works) (addr : Address)
    (line : String) (live : Inspector) :
    (session.runLine line live).1.recordedAt addr = true ↔
      session.config.addressOf? line live = some addr := by
  rw [Config.addressOf?_eq_some_iff]
  constructor
  · intro told
    cases recorded : (session.runLine line live).1 with
    | recorded record =>
      obtain ⟨event, capture, parsed, seen, rfl⟩ := exists_captured_of_recorded recorded
      rw [recorded] at told
      exact ⟨event, capture, parsed, seen, of_decide_eq_true told⟩
    | _ => rw [recorded] at told; cases told
  · rintro ⟨event, capture, parsed, seen, rfl⟩
    have came := runLine_eq_result live works parsed
    simp only [Event.result, seen, Prod.mk.injEq] at came
    rw [came.1]
    exact decide_eq_true rfl

/-- A command that is not recorded at an address leaves the count there. -/
theorem count_runLine_apart (works : session.console.mode = .works) {addr : Address}
    {line : String} {live : Inspector} (apart : session.config.addressOf? line live ≠ some addr) :
    (session.runLine line live).2.counters.count addr = session.counters.count addr := by
  rw [Ne, ← recordedAt_runLine works] at apart
  have stepping := session.runLine_stepping line live works
  generalize session.runLine line live = ended at apart stepping
  obtain ⟨outcome, after⟩ := ended
  cases stepping with
  | @recorded event record counters after parsed counted steady =>
    have elsewhere : addr ≠ record.addr := by
      rintro rfl
      exact apart (decide_eq_true rfl)
    have kept := event.count_apart session.counters elsewhere
    rw [counted] at kept
    exact (congrArg (Counters.count · addr) steady.counters).trans kept
  | quiet unrecorded steady => exact congrArg (Counters.count · addr) steady.counters

end Command

/-! ## Two sessions side by side -/

variable {σ φ τ ψ : Type} {first : Session σ φ} {second : Session τ ψ} {addr : Address}
  {line : String} {live : Inspector}

/-- Two sessions, over different files and with or without a log, are configured alike and have
counted the same at an address, on consoles that work. -/
structure AlikeAt (addr : Address) (first : Session σ φ) (second : Session τ ψ) : Prop where
  config : first.config = second.config
  count : first.counters.count addr = second.counters.count addr
  firstWorks : first.console.mode = .works
  secondWorks : second.console.mode = .works

variable [FileSystem σ φ]

/-- A command that is not recorded at the address, and that only one of them is given, leaves
them alike. -/
theorem AlikeAt.step_left (alike : AlikeAt addr first second)
    (apart : first.config.addressOf? line live ≠ some addr) :
    AlikeAt addr (first.runLine line live).2 second := by
  have stepping := first.runLine_stepping line live alike.firstWorks
  refine ⟨stepping.config.trans alike.config, ?_, stepping.mode.trans alike.firstWorks,
    alike.secondWorks⟩
  exact (count_runLine_apart alike.firstWorks apart).trans alike.count

variable [FileSystem τ ψ]

/-- A command that is recorded at the address makes the same record in both, and leaves them
alike. -/
theorem AlikeAt.step (alike : AlikeAt addr first second)
    (here : first.config.addressOf? line live = some addr) :
    (second.runLine line live).1 = (first.runLine line live).1 ∧
      AlikeAt addr (first.runLine line live).2 (second.runLine line live).2 := by
  obtain ⟨event, capture, parsed, seen, rfl⟩ := Config.addressOf?_eq_some_iff.mp here
  obtain ⟨number, count⟩ := event.count_congr alike.count
  have came := runLine_eq_result live alike.firstWorks parsed
  have other := runLine_eq_result live alike.secondWorks parsed
  rw [← alike.config] at other
  simp only [Event.result, seen, Prod.mk.injEq] at came other
  have stepping := first.runLine_stepping line live alike.firstWorks
  have beside := second.runLine_stepping line live alike.secondWorks
  constructor
  · rw [came.1, other.1, number]
  · refine ⟨stepping.config.trans (alike.config.trans beside.config.symm), ?_,
      stepping.mode.trans alike.firstWorks, beside.mode.trans alike.secondWorks⟩
    rw [came.2, other.2, count]

/-! ## Two runs side by side -/

/-- The events at an address have the same outcomes alone as in a run, and the count there ends
the same. -/
theorem AlikeAt.run (alike : AlikeAt addr first second) (steps : List (String × Inspector)) :
    (second.runLines (first.config.eventsAt addr steps)).1 =
        (first.runLines steps).1.filter (Outcome.recordedAt addr) ∧
      AlikeAt addr (first.runLines steps).2
        (second.runLines (first.config.eventsAt addr steps)).2 := by
  induction steps generalizing first second with
  | nil => exact ⟨rfl, alike⟩
  | cons step rest ih =>
    obtain ⟨line, live⟩ := step
    have stepping := first.runLine_stepping line live alike.firstWorks
    have told := recordedAt_runLine alike.firstWorks addr line live
    by_cases here : first.config.addressOf? line live = some addr
    · obtain ⟨same, kept⟩ := alike.step here
      obtain ⟨outcomes, after⟩ := ih kept
      rw [stepping.config] at outcomes after
      rw [Config.eventsAt_cons_of_eq here, runLines_cons, runLines_cons,
        List.filter_cons_of_pos (told.mpr here), outcomes, same]
      exact ⟨rfl, after⟩
    · obtain ⟨outcomes, after⟩ := ih (alike.step_left here)
      rw [stepping.config] at outcomes after
      rw [Config.eventsAt_cons_of_ne here, runLines_cons,
        List.filter_cons_of_neg fun recorded => here (told.mp recorded), outcomes]
      exact ⟨rfl, after⟩

omit [FileSystem τ ψ] in
/-- The commands of a run that left a record at an address are the events there. -/
theorem recordedAt_runLines (works : first.console.mode = .works) (addr : Address)
    (steps : List (String × Inspector)) :
    recordedAt addr (steps.zip (first.runLines steps).1) = first.config.eventsAt addr steps := by
  induction steps generalizing first with
  | nil => rfl
  | cons step rest ih =>
    obtain ⟨line, live⟩ := step
    have stepping := first.runLine_stepping line live works
    have told := recordedAt_runLine works addr line live
    have later := ih (stepping.mode.trans works)
    rw [stepping.config] at later
    rw [runLines_cons, List.zip_cons_cons, recordedAt_cons, later]
    by_cases here : first.config.addressOf? line live = some addr
    · rw [if_pos (told.mpr here), Config.eventsAt_cons_of_eq here]
    · rw [if_neg fun recorded => here (told.mp recorded), Config.eventsAt_cons_of_ne here]

/-- **Addresses do not disturb each other.**  Take a run from a session without a detection or a
log, over any files, on a console that works.  At each address, the commands that left a record
there leave the same records when they alone are run from such a session, over whatever other
files.  So a second run with the same events at each address makes the same records there,
however it interleaves them and whatever else it is given; and it ends with the same counters:
their entries are the same, in some order, and the hottest addresses come in the same order. -/
theorem runLines_isolated (config : Config) (shown displayed : String)
    (around : Surroundings σ) (elsewhere : Surroundings τ) (steps : List (String × Inspector)) :
    let fresh : Session σ φ := { config, console := { shown }, around }
    let apart : Session τ ψ :=
      { config, console := { shown := displayed }, around := elsewhere }
    let outcomes := (fresh.runLines steps).1
    (∀ addr, recordedAt addr (steps.zip outcomes) = config.eventsAt addr steps ∧
      (apart.runLines (recordedAt addr (steps.zip outcomes))).1 =
        outcomes.filter (Outcome.recordedAt addr)) ∧
      ∀ others, config.SameEvents steps others →
        (∀ addr, (apart.runLines others).1.filter (Outcome.recordedAt addr) =
          outcomes.filter (Outcome.recordedAt addr)) ∧
          (∀ addr, (apart.runLines others).2.counters.count addr =
            (fresh.runLines steps).2.counters.count addr) ∧
          (apart.runLines others).2.counters.entries.Perm
            (fresh.runLines steps).2.counters.entries ∧
          (apart.runLines others).2.counters.hottest =
            (fresh.runLines steps).2.counters.hottest := by
  intro fresh apart outcomes
  have alike : ∀ addr, AlikeAt addr fresh apart := fun _ => ⟨rfl, rfl, rfl, rfl⟩
  have alone : ∀ addr, AlikeAt addr apart apart := fun _ => ⟨rfl, rfl, rfl, rfl⟩
  have recorded : ∀ addr, recordedAt addr (steps.zip outcomes) = config.eventsAt addr steps :=
    fun addr => recordedAt_runLines rfl addr steps
  refine ⟨fun addr => ⟨recorded addr, ?_⟩, fun others same => ?_⟩
  · rw [recorded]
    exact ((alike addr).run steps).1
  -- Either run is compared with the run of the events at one address alone.
  have counts : ∀ addr, (apart.runLines others).2.counters.count addr =
      (fresh.runLines steps).2.counters.count addr := by
    intro addr
    have here := ((alike addr).run steps).2.count
    have there := ((alone addr).run others).2.count
    rw [here, there]
    exact congrArg (fun events => (apart.runLines events).2.counters.count addr) (same addr).symm
  have works : fresh.console.mode = .works ∧ apart.console.mode = .works := ⟨rfl, rfl⟩
  have here := (runLines_numbers works.1 numbers_nil steps).tallies
  have there := (runLines_numbers works.2 numbers_nil others).tallies
  have table := there.perm here counts
  refine ⟨fun addr => ?_, counts, table, Counters.hottest_eq_of_perm there.distinct table⟩
  have first := ((alike addr).run steps).1
  have second := ((alone addr).run others).1
  rw [← first, ← second]
  exact congrArg (fun events => (apart.runLines events).1) (same addr).symm

/-- The window with one op, which is at another address. -/
def otherOp : Snapshot :=
  { oneOp with objects := oneOp.objects.modify 0 fun op => op.insert "addr" (.scalar 32) }

/-- Three events at one address and a detection at another. -/
def interleaved : List (String × Inspector) :=
  [("log_mispred", oneOp.inspector), ("log_mispred", otherOp.inspector),
    ("log_recovery_end", oneOp.inspector), ("log_mispred", oneOp.inspector)]

/-- The detection at the other address comes first, and a command that fails stands between. -/
def reordered : List (String × Inspector) :=
  [("log_mispred", otherOp.inspector), ("log_mispred", oneOp.inspector), ("mispred", oneOp.inspector),
    ("log_recovery_end", oneOp.inspector), ("log_mispred", oneOp.inspector)]

/-- Both rows number the records at either address alike, and count alike. -/
theorem runLines_reordered :
    let fresh : Session Storage.Directory Storage.OpenFile :=
      { config := oneDetection.config, around := oneDetection.around }
    fresh.config.SameEvents interleaved reordered ∧
      ((fresh.runLines interleaved).1.filterMap Outcome.record?).map Record.ordinal =
        [1, 1, 1, 2] ∧
      (fresh.runLines reordered).1.filter (Outcome.recordedAt ⟨16⟩) =
        (fresh.runLines interleaved).1.filter (Outcome.recordedAt ⟨16⟩) ∧
      (fresh.runLines reordered).2.counters.hottest =
        (fresh.runLines interleaved).2.counters.hottest := by
  have same : oneDetection.config.SameEvents interleaved reordered := by
    have detected : oneDetection.config.addressOf? "log_mispred" oneOp.inspector = some ⟨16⟩ := by
      decide +kernel
    have recovered : oneDetection.config.addressOf? "log_recovery_end" oneOp.inspector =
        some ⟨16⟩ := by decide +kernel
    have other : oneDetection.config.addressOf? "log_mispred" otherOp.inspector = some ⟨32⟩ := by
      decide +kernel
    have unknown : oneDetection.config.addressOf? "mispred" oneOp.inspector = none := by
      decide +kernel
    intro addr
    simp only [Config.eventsAt, interleaved, reordered, List.filter_cons, List.filter_nil, detected,
      recovered, other, unknown]
    by_cases here : (⟨16⟩ : Address) = addr
    · subst here
      rfl
    · simp [here]
  have alike := (runLines_isolated oneDetection.config "" "" oneDetection.around
    oneDetection.around interleaved).2 reordered same
  exact ⟨same, by decide +kernel, alike.1 ⟨16⟩, alike.2.2.2⟩

end Session

end Inflight
