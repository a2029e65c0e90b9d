import Inflight.Proofs.Session.Run

/-!
# Sessions on a level

What a command does depends on the configuration, the counters, the log, the
files and the way in which the console takes texts.  The notices left so far and
the texts shown so far are carried along and never looked at.  Two sessions that
agree in all but these are on a level (`Session.Level`), and they stay so: each
step of one is a step of the other, with the same result and the same text on
the console (`Session.Level.runLine`, `Session.Level.runLines`).

For an event this holds even where the two sessions read different live state,
as long as what they capture makes the same record (`Session.Level.settle_captured`).
-/

namespace Inflight

set_option autoImplicit false

open Log (Sink Surroundings)
open Storage (FileSystem)

/-! ## Two steps side by side -/

/-- Two steps have the same result, and what they leave is related. -/
def Agree {α β γ : Type} (related : β → γ → Prop) (first : α × β) (second : α × γ) : Prop :=
  first.1 = second.1 ∧ related first.2 second.2

theorem Agree.exists {α β γ : Type} {related : β → γ → Prop} {first : α × β} {second : α × γ}
    (agree : Agree related first second) :
    ∃ result here there, first = (result, here) ∧ second = (result, there) ∧
      related here there := by
  obtain ⟨result, here⟩ := first
  obtain ⟨_, there⟩ := second
  obtain ⟨rfl, afterwards⟩ := agree
  exact ⟨result, here, there, rfl, rfl, afterwards⟩

/-! ## Consoles -/

namespace Console

/-- Two consoles take texts alike, and have shown the same since two earlier texts. -/
structure Level (early late : String) (first second : Console) : Prop where
  mode : first.mode = second.mode
  shown : ∃ text, first.shown = early ++ text ∧ second.shown = late ++ text

variable {early late : String} {first second : Console}

/-- Consoles that take texts alike have shown the same since now. -/
theorem Level.start (mode : first.mode = second.mode) :
    Level first.shown second.shown first second :=
  ⟨mode, "", by simp⟩

/-- Consoles that have shown the same since the same text are the same. -/
theorem Level.eq {text : String} (level : Level text text first second) : first = second := by
  obtain ⟨mode, more, here, there⟩ := level
  cases first
  cases second
  simp_all

theorem Level.showing (level : Level early late first second) (text : String) :
    Level early late (first.showing text) (second.showing text) := by
  obtain ⟨mode, more, here, there⟩ := level
  refine ⟨mode, more ++ text, ?_, ?_⟩
  · rw [← String.append_assoc, ← here, Console.showing]
  · rw [← String.append_assoc, ← there, Console.showing]

theorem write_eq (console : Console) (text : String) :
    console.write text =
      match console.mode with
      | .works => (.ok (), console.showing text)
      | .writeFails => (if text = "" then .ok () else .error .consoleWrite, console)
      | .flushFails => (.error .consoleFlush, console.showing text) :=
  rfl

/-- A text is shown or refused by both. -/
theorem Level.write (level : Level early late first second) (text : String) :
    Agree (Level early late) (first.write text) (second.write text) := by
  rw [write_eq, write_eq, ← level.mode]
  split
  · exact ⟨rfl, level.showing text⟩
  · exact ⟨rfl, level⟩
  · exact ⟨rfl, level.showing text⟩

end Console

/-! ## Sinks -/

namespace Log.Sink

variable {σ φ : Type} [FileSystem σ φ] {around other : Surroundings σ}

/-- The notices have no part in the closing of a file. -/
theorem close_agree (sink : Sink φ) (files : around.files = other.files) :
    Agree (fun here there => here.files = there.files) (sink.close around)
      (sink.close other) := by
  unfold close
  rw [files]
  split <;> exact ⟨rfl, rfl⟩

/-- The notices have no part in the opening of a file. -/
theorem openAt_agree (path : String) (files : around.files = other.files) :
    Agree (fun here there => here.files = there.files)
      (openAt path around : Except Fault (Sink φ) × Surroundings σ) (openAt path other) := by
  unfold openAt
  rw [files]
  split <;> exact ⟨rfl, rfl⟩

end Log.Sink

namespace Session

variable {σ φ : Type}

/-! ## What an event comes to once it is sighted -/

section Settle

variable (session : Session σ φ) (event : Event) (capture : Capture)

/-- The session in which the record of a capture is written: the walk is noted, and the event is
counted. -/
def counting : Session σ φ :=
  { session with
    counters := (event.count session.counters capture.pivot.addr).2
    around := { session.around with
      notices := session.around.notices ++
        capture.census.notices capture.pivot.handle capture.cycle } }

/-- The record of a capture, numbered by the counters of the session. -/
def recordOf : Record :=
  capture.record (event.count session.counters capture.pivot.addr).1 session.config.columns.miss

variable [FileSystem σ φ]

/-- Ends the command for an event that was sighted, or that could not be. -/
def settle : Except Fault Sighting → Outcome × Session σ φ
  | .error fault => session.fail (Command.record event).name fault
  | .ok (.outside cycle) =>
    (.skipped,
      session.note (.outsideCycleWindow event.name cycle session.config.general.cycleWindow))
  | .ok .endless => (.endless, session)
  | .ok (.captured capture) =>
    match (session.counting event capture).emit (session.recordOf event capture).text with
    | (.error fault, session) => session.fail (Command.record event).name fault
    | (.ok (), after) => (.recorded (session.recordOf event capture), after)

variable {event}

/-- Live state has no part in the command for an event beyond what is sighted. -/
theorem runLine_eq_settle {line : String} (live : Inspector)
    (parsed : Command.ofLine line = .ok (.record event)) :
    session.runLine line live = session.settle event (event.sight session.config live) := by
  simp only [runLine, parsed, execute, handle]
  cases event.sight session.config live with
  | error fault => rfl
  | ok sighting =>
    cases sighting with
    | outside cycle => rfl
    | endless => rfl
    | captured capture =>
      cases emitted : (session.counting event capture).emit
          (session.recordOf event capture).text with
      | mk result after =>
        unfold counting recordOf at emitted
        simp only [foldl_note, settle, counting, recordOf, emitted]
        cases result <;> rfl

theorem emit_steady (text : String) : Steady session (session.emit text).2 := by
  have mode := session.console.mode_write text
  unfold emit
  split
  · next refused => rw [refused] at mode; exact ⟨rfl, rfl, mode⟩
  · next written =>
    rw [written] at mode
    refine Steady.trans ?_ (logRecord_steady _ text)
    exact ⟨rfl, rfl, mode⟩

theorem config_settle (sighted : Except Fault Sighting) :
    (session.settle event sighted).2.config = session.config := by
  cases sighted with
  | error fault => exact (session.fail_steady _ fault).config
  | ok sighting =>
    cases sighting with
    | outside cycle => rfl
    | endless => rfl
    | captured capture =>
      have kept := ((session.counting event capture).emit_steady
        (session.recordOf event capture).text).config
      simp only [settle]
      split
      · next after refused =>
        rw [refused] at kept
        exact (after.fail_steady _ _).config.trans kept
      · next after written =>
        rw [written] at kept
        exact kept

/-- Only a capture ends in a record, only a cycle outside is passed over, and only an endless walk
never comes back. -/
theorem sighted_of_settle {sighted : Except Fault Sighting} {outcome : Outcome}
    (settled : (session.settle event sighted).1 = outcome) :
    (∀ record, outcome = .recorded record →
      ∃ capture, sighted = .ok (.captured capture) ∧ record = session.recordOf event capture) ∧
      (outcome = .skipped → ∃ cycle, sighted = .ok (.outside cycle)) ∧
      (outcome = .endless → sighted = .ok .endless) := by
  cases sighted with
  | error fault =>
    have failed : outcome = .failed fault := settled.symm
    simp [failed]
  | ok sighting =>
    cases sighting with
    | outside cycle =>
      have skipped : outcome = .skipped := settled.symm
      simp [skipped]
    | endless =>
      have endless : outcome = .endless := settled.symm
      simp [endless]
    | captured capture =>
      simp only [settle] at settled
      split at settled
      · next fault after emitted =>
        have failed : outcome = .failed fault := settled.symm
        simp [failed]
      · have recorded : outcome = .recorded (session.recordOf event capture) := settled.symm
        simp [recorded]

end Settle

/-! ## What a command's outcome tells of it -/

section Told

variable [FileSystem σ φ] {session : Session σ φ} {line : String} {live : Inspector}

/-- Only an event makes a record, is passed over, or never comes back. -/
theorem exists_event_of_told
    (told : (∃ record, (session.runLine line live).1 = .recorded record) ∨
      (session.runLine line live).1 = .skipped ∨ (session.runLine line live).1 = .endless) :
    ∃ event, Command.ofLine line = .ok (.record event) := by
  cases parsed : Command.ofLine line with
  | error fault => simp [runLine, parsed, fail] at told
  | ok command =>
    cases command with
    | startLog path =>
      simp only [runLine, parsed, execute] at told
      split at told <;> simp [fail] at told
    | stopLog =>
      simp only [runLine, parsed, execute] at told
      split at told <;> simp [fail] at told
    | record event => exact ⟨event, rfl⟩

theorem exists_captured_of_recorded {record : Record}
    (recorded : (session.runLine line live).1 = .recorded record) :
    ∃ event capture, Command.ofLine line = .ok (.record event) ∧
      event.sight session.config live = .ok (.captured capture) ∧
        record = session.recordOf event capture := by
  obtain ⟨event, parsed⟩ := exists_event_of_told (.inl ⟨record, recorded⟩)
  rw [runLine_eq_settle session live parsed] at recorded
  obtain ⟨capture, seen, same⟩ := (session.sighted_of_settle recorded).1 record rfl
  exact ⟨event, capture, parsed, seen, same⟩

theorem exists_outside_of_skipped (skipped : (session.runLine line live).1 = .skipped) :
    ∃ event cycle, Command.ofLine line = .ok (.record event) ∧
      event.sight session.config live = .ok (.outside cycle) := by
  obtain ⟨event, parsed⟩ := exists_event_of_told (.inr (.inl skipped))
  rw [runLine_eq_settle session live parsed] at skipped
  obtain ⟨cycle, seen⟩ := (session.sighted_of_settle skipped).2.1 rfl
  exact ⟨event, cycle, parsed, seen⟩

/-- The commands that never come back are those for events whose walk wanders. -/
theorem runLine_eq_endless_iff :
    (session.runLine line live).1 = .endless ↔
      ∃ event, Command.ofLine line = .ok (.record event) ∧
        event.Wanders session.config live := by
  constructor
  · intro endless
    obtain ⟨event, parsed⟩ := exists_event_of_told (.inr (.inr endless))
    rw [runLine_eq_settle session live parsed] at endless
    have seen := (session.sighted_of_settle endless).2.2 rfl
    exact ⟨event, parsed, Event.sight_eq_endless_iff.mp seen⟩
  · rintro ⟨event, parsed, wanders⟩
    rw [runLine_of_wanders parsed wanders]

end Told

theorem config_runLine [FileSystem σ φ] (session : Session σ φ) (line : String)
    (live : Inspector) : (session.runLine line live).2.config = session.config := by
  cases parsed : Command.ofLine line with
  | error fault =>
    simp only [runLine, parsed]
    exact (session.fail_steady _ fault).config
  | ok command =>
    cases command with
    | startLog path =>
      obtain ⟨outcome, after, executed, -, steady⟩ := session.execute_startLog_quiet live path
      simp only [runLine, parsed, executed]
      exact steady.config
    | stopLog =>
      obtain ⟨outcome, after, executed, -, steady⟩ := session.execute_stopLog_quiet live
      simp only [runLine, parsed, executed]
      exact steady.config
    | record event =>
      rw [runLine_eq_settle session live parsed]
      exact session.config_settle _

theorem config_runLines [FileSystem σ φ] (session : Session σ φ)
    (steps : List (String × Inspector)) :
    (session.runLines steps).2.config = session.config := by
  induction steps generalizing session with
  | nil => rfl
  | cons step rest ih =>
    obtain ⟨line, live⟩ := step
    rw [runLines_cons]
    exact (ih _).trans (session.config_runLine line live)

/-- A run comes to its end unless the walk of one of its events wanders. -/
theorem endless_mem_runLines_iff [FileSystem σ φ] (session : Session σ φ)
    (steps : List (String × Inspector)) :
    Outcome.endless ∈ (session.runLines steps).1 ↔
      ∃ step ∈ steps, ∃ event, Command.ofLine step.1 = .ok (.record event) ∧
        event.Wanders session.config step.2 := by
  induction steps generalizing session with
  | nil => simp [runLines]
  | cons step rest ih =>
    obtain ⟨line, live⟩ := step
    rw [runLines_cons, List.mem_cons, ih, config_runLine, eq_comm, runLine_eq_endless_iff]
    simp only [List.exists_mem_cons_iff]

/-! ## Two sessions -/

/-- Two sessions agree in all that a command looks at beside the configuration, and their
consoles have shown the same since two earlier texts. -/
structure Level (early late : String) (first second : Session σ φ) : Prop where
  counters : first.counters = second.counters
  sink : first.sink = second.sink
  files : first.around.files = second.around.files
  console : Console.Level early late first.console second.console

namespace Level

variable {early late : String} {first second : Session σ φ}

theorem refl (session : Session σ φ) :
    Level session.console.shown session.console.shown session session :=
  ⟨rfl, rfl, rfl, .start rfl⟩

theorem logPath (level : Level early late first second) : first.logPath = second.logPath := by
  unfold Session.logPath
  rw [level.sink]

theorem note (level : Level early late first second) (here there : Notice) :
    Level early late (first.note here) (second.note there) :=
  ⟨level.counters, level.sink, level.files, level.console⟩

theorem report (level : Level early late first second) (message : String) :
    Level early late (first.report message) (second.report message) := by
  obtain ⟨result, here, there, shownHere, shownThere, console⟩ :=
    (level.console.write (message ++ "\n")).exists
  simp only [Session.report, shownHere, shownThere]
  cases result <;> exact ⟨level.counters, level.sink, level.files, console⟩

theorem fail (level : Level early late first second) (command : String) (fault : Fault) :
    Agree (Level early late) (first.fail command fault) (second.fail command fault) :=
  ⟨rfl, (level.note _ _).report _⟩

variable [FileSystem σ φ]

theorem closePrevious (level : Level early late first second) :
    Level early late first.closePrevious second.closePrevious := by
  cases opened : first.sink with
  | none =>
    simp only [Session.closePrevious, ← level.sink, opened]
    exact level
  | some sink =>
    obtain ⟨result, here, there, closedHere, closedThere, files⟩ :=
      (sink.close_agree level.files).exists
    have closed : Level early late ({ first with sink := none, around := here } : Session σ φ)
        { second with sink := none, around := there } :=
      ⟨level.counters, rfl, files, level.console⟩
    simp only [Session.closePrevious, ← level.sink, opened, closedHere, closedThere]
    cases result with
    | ok path => exact closed
    | error fault => exact (closed.note _ _).report _

theorem openLog (level : Level early late first second) (path : String) :
    Agree (Level early late) (first.openLog path) (second.openLog path) := by
  have closed := level.closePrevious
  obtain ⟨result, here, there, openedHere, openedThere, files⟩ :=
    (Sink.openAt_agree path closed.files).exists
  simp only [Session.openLog, openedHere, openedThere]
  cases result with
  | error fault => exact ⟨rfl, closed.counters, closed.sink, files, closed.console⟩
  | ok sink => exact ⟨rfl, closed.counters, rfl, files, closed.console⟩

theorem startLog (level : Level early late first second) (path : Option String) :
    Agree (Level early late) (first.startLog path) (second.startLog path) := by
  unfold Session.startLog
  dsimp only
  split
  · exact ⟨rfl, level⟩
  · exact level.openLog _

theorem stopLog (level : Level early late first second) :
    Agree (Level early late) first.stopLog second.stopLog := by
  cases opened : first.sink with
  | none =>
    simp only [Session.stopLog, ← level.sink, opened]
    exact ⟨rfl, level⟩
  | some sink =>
    obtain ⟨result, here, there, closedHere, closedThere, files⟩ :=
      (sink.close_agree level.files).exists
    simp only [Session.stopLog, ← level.sink, opened, closedHere, closedThere]
    cases result <;> exact ⟨rfl, level.counters, rfl, files, level.console⟩

theorem logRecord (level : Level early late first second) (text : String) :
    Level early late (first.logRecord text) (second.logRecord text) := by
  unfold Session.logRecord
  rw [← level.sink, ← level.files]
  split
  · exact level
  · split
    · exact ⟨level.counters, rfl, rfl, level.console⟩
    · refine Level.report (Level.note ?_ _ _) _
      exact ⟨level.counters, rfl, rfl, level.console⟩

theorem emit (level : Level early late first second) (text : String) :
    Agree (Level early late) (first.emit text) (second.emit text) := by
  obtain ⟨result, here, there, shownHere, shownThere, console⟩ :=
    (level.console.write text).exists
  have shown : Level early late { first with console := here } { second with console := there } :=
    ⟨level.counters, level.sink, level.files, console⟩
  simp only [Session.emit, shownHere, shownThere]
  cases result with
  | error cause => exact ⟨rfl, shown⟩
  | ok done => exact ⟨rfl, shown.logRecord text⟩

/-! ## Commands side by side -/

/-- Two captures that make the same record end their events alike. -/
theorem settle_captured (level : Level early late first second) (event : Event)
    {capture other : Capture} (addr : capture.pivot.addr = other.pivot.addr)
    (record : first.recordOf event capture = second.recordOf event other) :
    Agree (Level early late) (first.settle event (.ok (.captured capture)))
      (second.settle event (.ok (.captured other))) := by
  have counting : Level early late (first.counting event capture)
      (second.counting event other) := by
    refine ⟨?_, level.sink, level.files, level.console⟩
    rw [Session.counting, Session.counting, level.counters, addr]
  obtain ⟨result, here, there, emittedHere, emittedThere, emitted⟩ :=
    (counting.emit (second.recordOf event other).text).exists
  simp only [settle, record, emittedHere, emittedThere]
  cases result with
  | error fault => exact emitted.fail _ fault
  | ok done => exact ⟨rfl, emitted⟩

/-- What was sighted ends alike in both, when their records have the same columns. -/
theorem settle (level : Level early late first second)
    (columns : first.config.columns = second.config.columns) (event : Event)
    (sighted : Except Fault Sighting) :
    Agree (Level early late) (first.settle event sighted) (second.settle event sighted) := by
  cases sighted with
  | error fault => exact level.fail _ fault
  | ok sighting =>
    cases sighting with
    | outside cycle => exact ⟨rfl, level.note _ _⟩
    | endless => exact ⟨rfl, level⟩
    | captured capture =>
      refine level.settle_captured event rfl ?_
      rw [recordOf, recordOf, level.counters, columns]

/-- A command about the log comes to the same in both. -/
theorem execute_startLog (level : Level early late first second) (path : Option String)
    (live other : Inspector) :
    Agree (Level early late) (first.execute (.startLog path) live)
      (second.execute (.startLog path) other) := by
  obtain ⟨result, here, there, startedHere, startedThere, started⟩ :=
    (level.startLog path).exists
  simp only [execute, startedHere, startedThere]
  cases result with
  | ok path => exact ⟨rfl, started.report _⟩
  | error fault => exact started.fail _ fault

theorem execute_stopLog (level : Level early late first second) (live other : Inspector) :
    Agree (Level early late) (first.execute .stopLog live) (second.execute .stopLog other) := by
  obtain ⟨result, here, there, stoppedHere, stoppedThere, stopped⟩ := level.stopLog.exists
  simp only [execute, stoppedHere, stoppedThere]
  cases result with
  | error fault => exact stopped.fail _ fault
  | ok path =>
    cases path <;> exact ⟨rfl, stopped.report _⟩

/-- A command that is no event comes to the same in both, whatever live state they read. -/
theorem runLine_of_not_record (level : Level early late first second) {line : String}
    (live other : Inspector) (unrecorded : ∀ event, Command.ofLine line ≠ .ok (.record event)) :
    Agree (Level early late) (first.runLine line live) (second.runLine line other) := by
  unfold Session.runLine
  split
  · next command parsed =>
    cases command with
    | startLog path => exact level.execute_startLog path live other
    | stopLog => exact level.execute_stopLog live other
    | record event => exact absurd parsed (unrecorded event)
  · exact level.fail _ _

/-- A command comes to the same in two sessions that are configured alike. -/
theorem runLine (level : Level early late first second) (config : first.config = second.config)
    (line : String) (live : Inspector) :
    Agree (Level early late) (first.runLine line live) (second.runLine line live) := by
  by_cases unrecorded : ∀ event, Command.ofLine line ≠ .ok (.record event)
  · exact level.runLine_of_not_record live live unrecorded
  · push Not at unrecorded
    obtain ⟨event, parsed⟩ := unrecorded
    rw [runLine_eq_settle first live parsed, runLine_eq_settle second live parsed, config]
    exact level.settle (congrArg Config.columns config) event _

/-- A run of commands comes to the same in two sessions that are configured alike. -/
theorem runLines (level : Level early late first second) (config : first.config = second.config)
    (steps : List (String × Inspector)) :
    Agree (Level early late) (first.runLines steps) (second.runLines steps) := by
  induction steps generalizing first second with
  | nil => exact ⟨rfl, level⟩
  | cons step rest ih =>
    obtain ⟨line, live⟩ := step
    obtain ⟨same, stepped⟩ := level.runLine config line live
    have configured : (first.runLine line live).2.config = (second.runLine line live).2.config := by
      rw [config_runLine, config_runLine, config]
    obtain ⟨sames, ran⟩ := ih stepped configured
    rw [runLines_cons, runLines_cons, same, sames]
    exact ⟨rfl, ran⟩

end Level

end Session

end Inflight
