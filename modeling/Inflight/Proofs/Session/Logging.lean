import Inflight.Proofs.Record
import Inflight.Proofs.Session.Run

/-!
# What a command does to the log

Only three commands touch a log.  One starts it, where it has a path that is not
blank, one stops it, and an event that is recorded is written to it.  Between
commands the buffer of an open log is empty, so a write to it is one write of
the text to its file, and closing it writes nothing.  With that, every command
on every console is one of five steps of the log (`Session.Logging`,
`Session.runLine_logging`).
-/

namespace Inflight

set_option autoImplicit false

open Log (Sink Surroundings)
open Storage (FileSystem)

/-! ## Sinks between commands -/

namespace Log.Sink

variable {σ φ : Type} [FileSystem σ φ] {sink : Sink φ} {text : String} {files later : σ}

theorem flush_of_settled (settled : sink.pending = "") (files : σ) :
    sink.flush files = (.ok (), sink, files) := by
  unfold flush
  rw [if_pos settled]

/-- The empty buffer takes a text that is shorter than it, and a longer one is written past it. -/
theorem accept_of_settled (settled : sink.pending = "") (text : String) (files : σ) :
    sink.accept text files =
      if text.utf8ByteSize < capacity then (.ok (), sink.buffer text, files)
      else
        match FileSystem.write sink.file text files with
        | (result, files) => (result, sink, files) := by
  have whole : sink.room = capacity := by
    rw [room, settled]
    rfl
  have roomy : sink.makeRoom text files = (.ok (), sink, files) := by
    unfold makeRoom
    split
    · exact flush_of_settled settled files
    · rfl
  unfold accept
  rw [whole, roomy]
  split
  · rfl
  · next large => simp only [if_pos (Nat.le_of_not_lt large)]

/-- A text that is flushed right after it came into the empty buffer is written to the file. -/
theorem flush_buffer_of_settled (settled : sink.pending = "") (something : text ≠ "")
    (files : σ) :
    (sink.buffer text).flush files =
      match FileSystem.write sink.file text files with
      | (.error cause, files) => (.error cause, sink.buffer text, files)
      | (.ok (), files) => (.ok (), sink, files) := by
  have pending : (sink.buffer text).pending = text := by
    rw [buffer, settled, String.empty_append]
  have emptied : (⟨sink.path, sink.file, ""⟩ : Sink φ) = sink := by
    rw [← settled]
  have kept : (sink.buffer text).file = sink.file := rfl
  unfold flush
  rw [pending, if_neg something, kept]
  cases FileSystem.write sink.file text files with
  | mk result later =>
    cases result with
    | error cause => rfl
    | ok done => exact congrArg (fun flushed => (Except.ok (), flushed, later)) emptied

/-- An empty buffer makes a write to the sink one write to the file. -/
theorem write_of_settled (settled : sink.pending = "") (something : text ≠ "")
    (written : FileSystem.write sink.file text files = (.ok (), later)) :
    sink.write text files = (.ok (), sink, later) := by
  unfold write
  rw [accept_of_settled settled, written]
  split_ifs with fits
  · simp only [flush_buffer_of_settled settled something, written]
  · exact flush_of_settled settled later

/-- When the file refuses the text, so does the sink. -/
theorem write_of_settled_of_error {cause : Storage.Fault} (settled : sink.pending = "")
    (something : text ≠ "")
    (refused : FileSystem.write sink.file text files = (.error cause, later)) :
    ∃ rest, sink.write text files = (.error cause, rest, later) := by
  unfold write
  rw [accept_of_settled settled, refused]
  split_ifs with fits
  · simp only [flush_buffer_of_settled settled something, refused]
    exact ⟨_, rfl⟩
  · exact ⟨_, rfl⟩

theorem close_of_settled (settled : sink.pending = "") (around : Surroundings σ) :
    sink.close around = (.ok sink.path, around.note (.logClosed sink.path)) := by
  unfold close
  rw [flush_of_settled settled]

end Log.Sink

/-! ## Command lines -/

namespace Command

/-- The path under which a command line starts a log: none when it is blank. -/
def logPath? (line : String) : Option String :=
  match ofLine line with
  | .ok (.startLog path) =>
    let path := Text.trim (path.getD "")
    if path = "" then none else some path
  | _ => none

/-- Whether the log that is open when a command line is run is not the log after it.  A start
ends the log even where the next one cannot be opened. -/
def endsLog (line : String) : Bool :=
  (logPath? line).isSome || decide (ofLine line = .ok .stopLog)

end Command

namespace Session

variable {σ φ : Type}

/-! ## What leaves the log alone -/

/-- The log and the files stay. -/
structure SameLog (before after : Session σ φ) : Prop where
  sink : after.sink = before.sink
  files : after.around.files = before.around.files

theorem SameLog.trans {first second third : Session σ φ} (early : SameLog first second)
    (late : SameLog second third) : SameLog first third :=
  ⟨late.sink.trans early.sink, late.files.trans early.files⟩

variable (session : Session σ φ)

theorem note_sameLog (notice : Notice) : SameLog session (session.note notice) :=
  ⟨rfl, rfl⟩

theorem report_sameLog (message : String) : SameLog session (session.report message) := by
  unfold report
  split <;> exact ⟨rfl, rfl⟩

theorem fail_ne_logging (command : String) (fault : Fault) (path : String) :
    (session.fail command fault).1 ≠ .logging path := by
  intro same
  cases same

theorem fail_sameLog (command : String) (fault : Fault) :
    SameLog session (session.fail command fault).2 :=
  (session.note_sameLog _).trans (report_sameLog _ _)

variable [FileSystem σ φ]

/-- A console that does not work takes no record, and then the log does not see it. -/
theorem emit_of_not_works (broken : session.console.mode ≠ .works) {text : String}
    (something : text ≠ "") :
    ∃ fault after, session.emit text = (.error fault, after) ∧ SameLog session after := by
  unfold emit Console.write
  cases mode : session.console.mode with
  | works => exact absurd mode broken
  | writeFails => exact ⟨_, _, by rw [if_neg something], rfl, rfl⟩
  | flushFails => exact ⟨_, _, rfl, rfl, rfl⟩

/-! ## The steps of the log -/

/-- What a command does to the log, by its line and its outcome. -/
inductive Logging (before : Session σ φ) (line : String) : Outcome → Session σ φ → Prop where
  /-- The command is not about the log. -/
  | kept {outcome : Outcome} {after : Session σ φ} :
      Command.endsLog line = false → (∀ path, outcome ≠ .logging path) →
        outcome.record? = none → SameLog before after → Logging before line outcome after
  | stopped {outcome : Outcome} {after : Session σ φ} :
      Command.endsLog line = true → (∀ path, outcome ≠ .logging path) →
        outcome.record? = none → after.sink = none → after.around.files = before.around.files →
        Logging before line outcome after
  /-- The file could not be opened, and the log before it is closed all the same. -/
  | refused {path : String} {fault : Fault} {cause : Storage.Fault} {after : Session σ φ} :
      Command.logPath? line = some path →
        FileSystem.create path before.around.files = (.error cause, after.around.files) →
        after.sink = none → Logging before line (.failed fault) after
  | started {path : String} {file : φ} {after : Session σ φ} :
      Command.logPath? line = some path →
        FileSystem.create path before.around.files = (.ok file, after.around.files) →
        after.sink = some { path, file } → Logging before line (.logging path) after
  | recorded {record : Record} {after : Session σ φ} :
      Command.endsLog line = false → Writing before record.text after →
        Logging before line (.recorded record) after

variable {session} {line : String} (live : Inspector)

theorem closePrevious_of_settled (settled : ∀ sink, session.sink = some sink → sink.pending = "") :
    session.closePrevious.sink = none ∧
      session.closePrevious.around.files = session.around.files := by
  unfold closePrevious
  split
  · next closed => exact ⟨closed, rfl⟩
  · next sink opened =>
    rw [Sink.close_of_settled (settled sink opened)]
    exact ⟨rfl, rfl⟩

theorem openLog_of_error {path : String} {later : σ} {cause : Storage.Fault}
    (settled : ∀ sink, session.sink = some sink → sink.pending = "")
    (refused : FileSystem.create path session.around.files = (.error cause, later)) :
    ∃ after, session.openLog path = (.error (.logNotOpened path cause), after) ∧
      after.sink = none ∧ after.around.files = later := by
  obtain ⟨closed, same⟩ := closePrevious_of_settled settled
  simp only [openLog, Sink.openAt, same, refused]
  exact ⟨_, rfl, closed, rfl⟩

theorem openLog_of_ok {path : String} {later : σ} {file : φ}
    (settled : ∀ sink, session.sink = some sink → sink.pending = "")
    (created : FileSystem.create path session.around.files = (.ok file, later)) :
    ∃ after, session.openLog path = (.ok path, after) ∧
      after.sink = some { path, file } ∧ after.around.files = later := by
  obtain ⟨closed, same⟩ := closePrevious_of_settled settled
  simp only [openLog, Sink.openAt, same, created]
  exact ⟨_, rfl, rfl, rfl⟩

theorem execute_startLog_logging {path : Option String}
    (settled : ∀ sink, session.sink = some sink → sink.pending = "")
    (parsed : Command.ofLine line = .ok (.startLog path)) :
    Logging session line (session.execute (.startLog path) live).1
      (session.execute (.startLog path) live).2 := by
  by_cases blank : Text.trim (path.getD "") = ""
  · have ignored : Command.endsLog line = false := by
      simp [Command.endsLog, Command.logPath?, parsed, blank]
    simp only [execute, startLog, if_pos blank]
    exact .kept ignored (session.fail_ne_logging _ _) rfl (session.fail_sameLog _ _)
  · have named : Command.logPath? line = some (Text.trim (path.getD "")) := by
      simp [Command.logPath?, parsed, blank]
    simp only [execute, startLog, if_neg blank]
    generalize Text.trim (path.getD "") = path at named
    cases created : FileSystem.create path session.around.files with
    | mk result later =>
      cases result with
      | error cause =>
        obtain ⟨after, opened, sink, rfl⟩ := openLog_of_error settled created
        rw [opened]
        have told := after.fail_sameLog "start_log" (.logNotOpened path cause)
        exact .refused named (told.files ▸ created) (told.sink.trans sink)
      | ok file =>
        obtain ⟨after, opened, sink, rfl⟩ := openLog_of_ok settled created
        rw [opened]
        have told := after.report_sameLog ("Logging to '" ++ path ++ "'")
        exact .started named (told.files ▸ created) (told.sink.trans sink)

theorem execute_stopLog_logging
    (settled : ∀ sink, session.sink = some sink → sink.pending = "")
    (parsed : Command.ofLine line = .ok .stopLog) :
    Logging session line (session.execute .stopLog live).1 (session.execute .stopLog live).2 := by
  have ending : Command.endsLog line = true := by
    simp [Command.endsLog, parsed]
  cases opened : session.sink with
  | none =>
    have told := session.report_sameLog "Logging is not active."
    simp only [execute, stopLog, opened]
    exact .stopped ending (by simp) rfl (told.sink.trans opened) told.files
  | some sink =>
    simp only [execute, stopLog, opened, Sink.close_of_settled (settled sink opened)]
    exact .stopped ending (by simp) rfl (report_sameLog _ _).sink (report_sameLog _ _).files

theorem runLine_of_captured_of_not_works {event : Event} {capture : Capture}
    (broken : session.console.mode ≠ .works)
    (parsed : Command.ofLine line = .ok (.record event))
    (seen : event.sight session.config live = .ok (.captured capture)) :
    ∃ fault after, session.runLine line live = (.failed fault, after) ∧
      SameLog session after := by
  let counted := event.count session.counters capture.pivot.addr
  let record := capture.record counted.1 session.config.columns.miss
  let noted : Session σ φ := { session with
    counters := counted.2
    around := { session.around with
      notices := session.around.notices ++
        capture.census.notices capture.pivot.handle capture.cycle } }
  obtain ⟨fault, after, refused, same⟩ := noted.emit_of_not_works broken record.text_ne_empty
  have told := after.fail_sameLog (Command.record event).name fault
  refine ⟨fault, _, ?_, told.sink.trans same.sink, told.files.trans same.files⟩
  simp only [runLine, parsed, execute, handle, seen, foldl_note]
  rw [refused]
  rfl

theorem runLine_record_logging {event : Event}
    (parsed : Command.ofLine line = .ok (.record event)) :
    Logging session line (session.runLine line live).1 (session.runLine line live).2 := by
  have going : Command.endsLog line = false := by
    simp [Command.endsLog, Command.logPath?, parsed]
  cases seen : event.sight session.config live with
  | error fault =>
    rw [runLine_of_error parsed seen]
    exact .kept going (session.fail_ne_logging _ _) rfl (session.fail_sameLog _ _)
  | ok sighting =>
    cases sighting with
    | outside cycle =>
      rw [runLine_of_outside parsed seen]
      exact .kept going (by simp) rfl (session.note_sameLog _)
    | captured capture =>
      by_cases works : session.console.mode = .works
      · obtain ⟨record, after, rfl, ran, writing, steady⟩ :=
          runLine_of_captured works parsed seen rfl
        rw [ran]
        exact .recorded going writing
      · obtain ⟨fault, after, ran, same⟩ := runLine_of_captured_of_not_works live works parsed seen
        rw [ran]
        exact .kept going (by simp) rfl same
    | endless =>
      rw [runLine_of_wanders parsed (Event.sight_eq_endless_iff.mp seen)]
      exact .kept going (by simp) rfl ⟨rfl, rfl⟩

/-- On every console, each command is a step of the log. -/
theorem runLine_logging (session : Session σ φ) (line : String) (live : Inspector)
    (settled : ∀ sink, session.sink = some sink → sink.pending = "") :
    Logging session line (session.runLine line live).1 (session.runLine line live).2 := by
  cases parsed : Command.ofLine line with
  | error fault =>
    have going : Command.endsLog line = false := by
      simp [Command.endsLog, Command.logPath?, parsed]
    simp only [runLine, parsed]
    exact .kept going (session.fail_ne_logging _ _) rfl (session.fail_sameLog _ _)
  | ok command =>
    cases command with
    | startLog path =>
      simp only [runLine, parsed]
      exact execute_startLog_logging live settled parsed
    | stopLog =>
      simp only [runLine, parsed]
      exact execute_stopLog_logging live settled parsed
    | record event => exact runLine_record_logging live parsed

end Session

end Inflight
