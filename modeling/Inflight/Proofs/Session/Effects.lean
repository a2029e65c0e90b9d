import Inflight.Session.Command

/-!
# What a session's steps change

Each step of a session changes a few parts of it and leaves the rest.  Starting
and stopping a log, messages, notices and the writing of a record leave the
configuration, the counters and the way in which the console takes texts
(`Session.Steady`).  On a console that works, a message is one more line on the
console and nothing else, and the writing of a record is the text on the console
and, where a log is open, one write to it, whose failure costs the log and adds
one message (`Session.Writing`).
-/

namespace Inflight

set_option autoImplicit false

open Log (Sink Surroundings)
open Storage (FileSystem)

/-! ## Consoles -/

namespace Console

variable (console : Console)

/-- The console when it has shown one more text. -/
def showing (text : String) : Console :=
  { console with shown := console.shown ++ text }

theorem write_of_works (works : console.mode = .works) (text : String) :
    console.write text = (.ok (), console.showing text) := by
  simp only [write, works, showing]

/-- A write does not change how the console takes texts. -/
theorem mode_write (text : String) : (console.write text).2.mode = console.mode := by
  unfold write
  split <;> rfl

end Console

/-! ## Sinks -/

namespace Log.Sink

variable {σ φ : Type} [FileSystem σ φ] (sink : Sink φ) (text : String) (files : σ)

theorem path_flush : (sink.flush files).2.1.path = sink.path := by
  unfold flush
  split
  · rfl
  · split <;> rfl

theorem path_accept : (sink.accept text files).2.1.path = sink.path := by
  have kept : (sink.makeRoom text files).2.1.path = sink.path := by
    unfold makeRoom
    split
    · exact path_flush sink files
    · rfl
  unfold accept
  split
  · rfl
  · split
    · next roomless => rw [roomless] at kept; exact kept
    · next roomed =>
      rw [roomed] at kept
      split <;> exact kept

/-- A write leaves a sink under its path. -/
theorem path_write : (sink.write text files).2.1.path = sink.path := by
  have kept := path_accept sink text files
  unfold write
  split
  · next refused => rw [refused] at kept; exact kept
  · next accepted =>
    rw [accepted] at kept
    exact (path_flush _ _).trans kept

end Log.Sink

namespace Session

variable {σ φ : Type}

/-! ## What no log is about -/

/-- The configuration, the counters and the way in which the console takes texts stay. -/
structure Steady (before after : Session σ φ) : Prop where
  config : after.config = before.config
  counters : after.counters = before.counters
  mode : after.console.mode = before.console.mode

theorem Steady.refl (session : Session σ φ) : Steady session session :=
  ⟨rfl, rfl, rfl⟩

theorem Steady.trans {first second third : Session σ φ} (early : Steady first second)
    (late : Steady second third) : Steady first third :=
  ⟨late.config.trans early.config, late.counters.trans early.counters,
    late.mode.trans early.mode⟩

variable (session : Session σ φ)

theorem note_steady (notice : Notice) : Steady session (session.note notice) :=
  ⟨rfl, rfl, rfl⟩

theorem report_steady (message : String) : Steady session (session.report message) := by
  have mode := session.console.mode_write (message ++ "\n")
  unfold report
  split
  · next written => rw [written] at mode; exact ⟨rfl, rfl, mode⟩
  · next refused => rw [refused] at mode; exact ⟨rfl, rfl, mode⟩

/-- On a console that works a message is one more line. -/
theorem report_of_works (works : session.console.mode = .works) (message : String) :
    session.report message =
      { session with console := session.console.showing (message ++ "\n") } := by
  simp only [report, session.console.write_of_works works]

theorem fail_steady (command : String) (fault : Fault) :
    Steady session (session.fail command fault).2 :=
  (session.note_steady _).trans (report_steady _ _)

/-- Notices are left one after the other. -/
theorem foldl_note (notices : List Notice) :
    notices.foldl note session =
      { session with around := { session.around with
          notices := session.around.notices ++ notices } } := by
  induction notices generalizing session with
  | nil => simp
  | cons notice rest ih =>
    rw [List.foldl_cons, ih]
    simp [note, Surroundings.note]

variable [FileSystem σ φ]

theorem closePrevious_steady : Steady session session.closePrevious := by
  unfold closePrevious
  split
  · exact .refl session
  · split
    · exact ⟨rfl, rfl, rfl⟩
    · refine Steady.trans ?_ (report_steady _ _)
      exact ⟨rfl, rfl, rfl⟩

theorem startLog_steady (path : Option String) : Steady session (session.startLog path).2 := by
  have closed := session.closePrevious_steady
  unfold startLog
  dsimp only
  split
  · exact .refl session
  · unfold openLog
    dsimp only
    split
    · exact closed.trans ⟨rfl, rfl, rfl⟩
    · exact closed.trans ⟨rfl, rfl, rfl⟩

theorem stopLog_steady : Steady session session.stopLog.2 := by
  unfold stopLog
  split
  · exact .refl session
  · split <;> exact ⟨rfl, rfl, rfl⟩

theorem logRecord_steady (text : String) : Steady session (session.logRecord text) := by
  unfold logRecord
  split
  · exact .refl session
  · split
    · exact ⟨rfl, rfl, rfl⟩
    · refine Steady.trans ?_ (report_steady _ _)
      exact ⟨rfl, rfl, rfl⟩

/-! ## Writing a record -/

/-- The message with which a log is given up. -/
def brokenLogMessage (path : String) (cause : Storage.Fault) : String :=
  "Error writing log " ++ path ++ ": " ++ (Fault.storage cause).message ++ ". Logging stopped."

/-- What writing a text does on a console that works: the console shows the text, and an open
log takes it, or is given up with one message. -/
inductive Writing (before : Session σ φ) (text : String) (after : Session σ φ) : Prop where
  | unlogged :
      before.sink = none → after.sink = none → after.around.files = before.around.files →
        after.console = before.console.showing text → Writing before text after
  | logged {sink written : Sink φ} {files : σ} :
      before.sink = some sink →
        sink.write text before.around.files = (.ok (), written, files) →
        after.sink = some written → after.around.files = files →
        after.console = before.console.showing text → Writing before text after
  | broken {sink rest : Sink φ} {cause : Storage.Fault} {files : σ} :
      before.sink = some sink →
        sink.write text before.around.files = (.error cause, rest, files) →
        after.sink = none → after.around.files = files →
        after.console = (before.console.showing text).showing
          (brokenLogMessage sink.path cause ++ "\n") → Writing before text after

/-- What a session is beside its log, its files and its console is nothing to the writing. -/
theorem Writing.congr {before other after : Session σ φ} {text : String}
    (writing : Writing before text after) (sink : other.sink = before.sink)
    (files : other.around.files = before.around.files)
    (console : other.console = before.console) : Writing other text after := by
  cases writing with
  | unlogged closed stays kept shown =>
    exact .unlogged (sink.trans closed) stays (kept.trans files.symm) (by rw [shown, console])
  | logged opened write stays kept shown =>
    rw [← files] at write
    exact .logged (sink.trans opened) write stays kept (by rw [shown, console])
  | broken opened write lost kept shown =>
    rw [← files] at write
    exact .broken (sink.trans opened) write lost kept (by rw [shown, console])

/-- On a console that works a record is always written. -/
theorem emit_of_works (works : session.console.mode = .works) (text : String) :
    ∃ after, session.emit text = (.ok (), after) ∧ Writing session text after ∧
      Steady session after := by
  let shown : Session σ φ := { session with console := session.console.showing text }
  have emitted : session.emit text = (.ok (), shown.logRecord text) := by
    simp only [emit, session.console.write_of_works works, shown]
  have steady := shown.logRecord_steady text
  refine ⟨_, emitted, ?_, steady.config, steady.counters, steady.mode⟩
  cases opened : session.sink with
  | none =>
    simp only [logRecord, shown, opened]
    exact .unlogged opened rfl rfl rfl
  | some sink =>
    have path := sink.path_write text session.around.files
    cases write : sink.write text session.around.files with
    | mk result rest =>
      obtain ⟨written, files⟩ := rest
      rw [write] at path
      cases result with
      | ok done =>
        simp only [logRecord, shown, opened, write]
        exact .logged opened write rfl rfl rfl
      | error cause =>
        simp only [logRecord, shown, opened, write]
        rw [report_of_works]
        · refine .broken opened write rfl rfl ?_
          rw [← path]
          rfl
        · exact works

end Session

end Inflight
