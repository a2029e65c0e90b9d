import Inflight.Proofs.Record.Size
import Inflight.Proofs.Session.Level
import Inflight.Proofs.Session.Logging

/-!
# A log whose file takes nothing

The buffer of an open log is empty before every call on the session, whatever
the calls before it were and however they failed (`Session.Reachable.settled`).
Every record is shorter than the buffer.  So when the file of the log refuses to
be written, what is left in the buffer is the text of one record, and that is
all that is lost: the console has the text, the event counts as recorded, and
the log is given up with one message (`Session.emit_gives_log_up`).  The session
goes on without a log, and the next log that is started takes the next record.

All this is said of a console that works.  One that refuses the text of a record
refuses the record, and the log is not asked at all
(`Session.emit_refused_by_console`).
-/

namespace Inflight

set_option autoImplicit false

open Log (Sink Surroundings)
open Storage (FileSystem)

/-! ## Files that take nothing -/

section Refusing

variable {σ φ : Type} [FileSystem σ φ]

/-- Every write of some text to the file fails. -/
def Storage.Refuses (file : φ) (files : σ) : Prop :=
  ∀ text, text ≠ "" → ∃ cause later, FileSystem.write file text files = (.error cause, later)

namespace Log.Sink

/-- The file of a sink refuses a text, and the buffer is left with that text and no other. -/
structure Loses (sink : Sink φ) (text : String) (files : σ) (cause : Storage.Fault) (later : σ) :
    Prop where
  refused : FileSystem.write sink.file text files = (.error cause, later)
  unwritten : sink.write text files = (.error cause, sink.buffer text, later)
  pending : (sink.buffer text).pending = text

variable {sink after : Sink φ} {text : String} {files later : σ}

theorem pending_flush (done : sink.flush files = (.ok (), after, later)) :
    after.pending = "" := by
  unfold flush at done
  split at done
  · next empty =>
    cases done
    exact empty
  · split at done <;> cases done
    rfl

/-- A write that succeeds leaves the buffer empty. -/
theorem pending_write (done : sink.write text files = (.ok (), after, later)) :
    after.pending = "" := by
  unfold write at done
  split at done
  · cases done
  · exact pending_flush done

/-- A text that is shorter than the buffer stays in it when the file refuses it. -/
theorem loses_of_short {cause : Storage.Fault} (settled : sink.pending = "")
    (something : text ≠ "") (short : text.utf8ByteSize < capacity)
    (refused : FileSystem.write sink.file text files = (.error cause, later)) :
    sink.Loses text files cause later where
  refused := refused
  unwritten := by
    unfold write
    rw [accept_of_settled settled, if_pos short]
    simp only [flush_buffer_of_settled settled something, refused]
  pending := by rw [buffer, settled, String.empty_append]

theorem exists_loses {record : Record} (settled : sink.pending = "")
    (refuses : Storage.Refuses sink.file files) (fits : record.Fits) :
    ∃ cause later, sink.Loses record.text files cause later := by
  obtain ⟨cause, later, refused⟩ := refuses record.text record.text_ne_empty
  exact ⟨cause, later, loses_of_short settled record.text_ne_empty
    (Record.utf8ByteSize_text_lt fits) refused⟩

end Log.Sink

end Refusing

namespace Session

variable {σ φ : Type}

/-! ## The buffer before a call -/

/-- The buffer of the log is empty when there is a log. -/
def Settled (session : Session σ φ) : Prop :=
  ∀ sink, session.sink = some sink → sink.pending = ""

theorem settled_of_closed {session : Session σ φ} (closed : session.sink = none) :
    session.Settled := by
  intro sink opened
  cases closed.symm.trans opened

theorem Settled.sameLog {before after : Session σ φ} (settled : before.Settled)
    (same : SameLog before after) : after.Settled :=
  fun sink opened => settled sink (same.sink.symm.trans opened)

section Calls

variable [FileSystem σ φ] {session : Session σ φ}

theorem Settled.logRecord (settled : session.Settled) (text : String) :
    (session.logRecord text).Settled := by
  unfold Session.logRecord
  split
  · exact settled
  · split
    · next write =>
      rintro _ ⟨⟩
      exact Sink.pending_write write
    · exact settled_of_closed (report_sameLog _ _).sink

theorem Settled.emit (settled : session.Settled) (text : String) :
    (session.emit text).2.Settled := by
  unfold Session.emit
  split
  · exact settled
  · next console shown =>
    have written : ({ session with console } : Session σ φ).Settled := settled
    exact written.logRecord text

theorem sink_closePrevious (session : Session σ φ) : session.closePrevious.sink = none := by
  unfold closePrevious
  split
  · next closed => exact closed
  · split
    · rfl
    · exact (report_sameLog _ _).sink

theorem Settled.startLog (settled : session.Settled) (path : Option String) :
    (session.startLog path).2.Settled := by
  unfold Session.startLog openLog Sink.openAt
  dsimp only
  split
  · exact settled
  · cases FileSystem.create (Text.trim (path.getD "")) session.closePrevious.around.files with
    | mk result files =>
      cases result with
      | error cause => exact settled_of_closed session.sink_closePrevious
      | ok file =>
        rintro _ ⟨⟩
        rfl

theorem settled_stopLog (session : Session σ φ) : session.stopLog.2.Settled := by
  unfold stopLog
  split
  · next closed => exact settled_of_closed closed
  · split <;> exact settled_of_closed rfl

theorem Settled.handle (settled : session.Settled) {event : Event} {live : Inspector}
    {result : Except Fault (Option Record)} {after : Session σ φ}
    (handled : session.handle event live = some (result, after)) : after.Settled := by
  unfold Session.handle at handled
  split at handled
  · cases handled
    exact settled
  · cases handled
  · cases handled
    exact settled
  · next capture seen =>
    have counted : (session.counting event capture).Settled := settled
    have written := counted.emit (session.recordOf event capture).text
    simp only [foldl_note] at handled
    cases emitted : (session.counting event capture).emit
        (session.recordOf event capture).text with
    | mk ending emittedTo =>
      rw [emitted] at written
      unfold counting recordOf at emitted
      rw [emitted] at handled
      cases ending <;> cases handled <;> exact written

theorem Settled.execute (settled : session.Settled) (command : Command) (live : Inspector) :
    (session.execute command live).2.Settled := by
  cases command with
  | startLog path =>
    have started := settled.startLog path
    cases start : session.startLog path with
    | mk result after =>
      rw [start] at started
      simp only [Session.execute, start]
      cases result with
      | error fault => exact started.sameLog (after.fail_sameLog _ fault)
      | ok path => exact started.sameLog (after.report_sameLog _)
  | stopLog =>
    have stopped := session.settled_stopLog
    cases stop : session.stopLog with
    | mk result after =>
      rw [stop] at stopped
      simp only [Session.execute, stop]
      cases result with
      | error fault => exact stopped.sameLog (after.fail_sameLog _ fault)
      | ok path => cases path <;> exact stopped.sameLog (after.report_sameLog _)
  | record event =>
    cases handled : session.handle event live with
    | none => simpa only [Session.execute, handled] using settled
    | some ended =>
      obtain ⟨result, after⟩ := ended
      have kept := settled.handle handled
      simp only [Session.execute, handled]
      cases result with
      | error fault => exact kept.sameLog (after.fail_sameLog _ fault)
      | ok record => cases record <;> exact kept

theorem Settled.runLine (settled : session.Settled) (line : String) (live : Inspector) :
    (session.runLine line live).2.Settled := by
  unfold Session.runLine
  split
  · exact settled.execute _ live
  · exact settled.sameLog (fail_sameLog _ _ _)

/-- The sessions that calls lead to, from one without a log.  Between two calls the console, the
files and the notices may change in any way. -/
inductive Reachable : Session σ φ → Prop where
  | fresh (config : Config) (console : Console) (around : Surroundings σ) :
      Reachable { config, console, around }
  | meanwhile {session : Session σ φ} (console : Console) (around : Surroundings σ) :
      Reachable session → Reachable { session with console, around }
  | startLog {session : Session σ φ} (path : Option String) :
      Reachable session → Reachable (session.startLog path).2
  | stopLog {session : Session σ φ} : Reachable session → Reachable session.stopLog.2
  | emit {session : Session σ φ} (text : String) :
      Reachable session → Reachable (session.emit text).2
  | report {session : Session σ φ} (message : String) :
      Reachable session → Reachable (session.report message)
  | handle {session after : Session σ φ} {event : Event} {live : Inspector}
      {result : Except Fault (Option Record)} :
      Reachable session → session.handle event live = some (result, after) → Reachable after
  | execute {session : Session σ φ} (command : Command) (live : Inspector) :
      Reachable session → Reachable (session.execute command live).2
  | runLine {session : Session σ φ} (line : String) (live : Inspector) :
      Reachable session → Reachable (session.runLine line live).2

/-- Whatever was called and whatever failed, the buffer of the log is empty before a call. -/
theorem Reachable.settled (reachable : session.Reachable) : session.Settled := by
  induction reachable with
  | fresh config console around => exact settled_of_closed rfl
  | meanwhile console around _ ih => exact ih
  | startLog path _ ih => exact ih.startLog path
  | stopLog _ _ => exact settled_stopLog _
  | emit text _ ih => exact ih.emit text
  | report message _ ih => exact ih.sameLog (report_sameLog _ message)
  | handle _ handled ih => exact ih.handle handled
  | execute command live _ ih => exact ih.execute command live
  | runLine line live _ ih => exact ih.runLine line live

end Calls

/-! ## The sessions after a write -/

variable (session : Session σ φ)

/-- The session when the console and the file of its log have taken a text. -/
def wrote (text : String) (files : σ) : Session σ φ :=
  { session with
    console := session.console.showing text
    around := { session.around with files } }

/-- The session when the console has taken a text and the log under a path is given up over it:
one message names the path and the cause, and the bytes of the text are those that are
abandoned. -/
def givingUp (path text : String) (cause : Storage.Fault) (files : σ) : Session σ φ :=
  { session with
    sink := none
    console := (session.console.showing text).showing (brokenLogMessage path cause ++ "\n")
    around :=
      { files
        notices := session.around.notices ++
          [.logAbandoned path text.utf8ByteSize, .logWriteFailed path (.storage cause)] } }

/-- The session when a log is started under a path and there was none before. -/
def starting (path : String) (file : φ) (files : σ) : Session σ φ :=
  { session with
    sink := some { path, file }
    console := session.console.showing ("Logging to '" ++ path ++ "'" ++ "\n")
    around := { files, notices := session.around.notices ++ [.logOpened path] } }

variable {session} [FileSystem σ φ] {sink : Sink φ} {text : String} {files later : σ}

theorem emit_of_written (works : session.console.mode = .works)
    (opened : session.sink = some sink)
    (write : sink.write text session.around.files = (.ok (), sink, later)) :
    session.emit text = (.ok (), session.wrote text later) := by
  simp only [emit, session.console.write_of_works works, logRecord, opened, write]
  rw [wrote, ← opened]

theorem emit_of_loses {cause : Storage.Fault} (works : session.console.mode = .works)
    (opened : session.sink = some sink)
    (lost : sink.Loses text session.around.files cause later) :
    session.emit text = (.ok (), session.givingUp sink.path text cause later) := by
  simp only [emit, session.console.write_of_works works, logRecord, opened, lost.unwritten]
  rw [report_of_works]
  · simp only [givingUp, note, Surroundings.note, Sink.abandon, lost.pending, List.append_assoc]
    rfl
  · exact works

/-- A captured event whose record is written without a fault is recorded. -/
theorem runLine_of_emitted {line : String} {live : Inspector} {event : Event} {capture : Capture}
    {after : Session σ φ} (parsed : Command.ofLine line = .ok (.record event))
    (seen : event.sight session.config live = .ok (.captured capture))
    (emitted : (session.counting event capture).emit (session.recordOf event capture).text =
      (.ok (), after)) :
    session.runLine line live = (.recorded (session.recordOf event capture), after) := by
  rw [runLine_eq_settle session live parsed, seen]
  simp only [settle, emitted]

/-! ## Going on after a log is given up -/

/-- The session has a log under a path, and a record whose text the file takes is shown and is in
the file. -/
structure LogsNext (path : String) (file : φ) (session : Session σ φ) : Prop where
  sink : session.sink = some { path, file }
  emit : ∀ (record : Record) (later : σ),
    FileSystem.write file record.text session.around.files = (.ok (), later) →
      session.emit record.text = (.ok (), session.wrote record.text later)
  runLine : ∀ (line : String) (live : Inspector) (event : Event) (capture : Capture) (later : σ),
    Command.ofLine line = .ok (.record event) →
    event.sight session.config live = .ok (.captured capture) →
    FileSystem.write file (session.recordOf event capture).text session.around.files =
      (.ok (), later) →
      session.runLine line live = (.recorded (session.recordOf event capture),
        (session.counting event capture).wrote (session.recordOf event capture).text later)

/-- Where the file of a path can be opened, a start with the path begins a log that takes the next
record. -/
def StartsAnew (session : Session σ φ) : Prop :=
  ∀ (line : String) (live : Inspector) (path : String) (file : φ) (later : σ),
    Command.logPath? line = some path →
    FileSystem.create path session.around.files = (.ok file, later) →
      session.runLine line live = (.logging path, session.starting path file later) ∧
        LogsNext path file (session.starting path file later)

/-- A session goes on without its log: there is nothing to stop, and a log can be started, at once
or after a stop. -/
structure GoesOn (session : Session σ φ) : Prop where
  stopLog : session.stopLog = (.ok none, session)
  stop : ∀ (line : String) (live : Inspector), Command.ofLine line = .ok .stopLog →
    session.runLine line live = (.notActive, session.report "Logging is not active.")
  start : session.StartsAnew
  startAfterStop : (session.report "Logging is not active.").StartsAnew

theorem logsNext_of_settled {path : String} {file : φ} (works : session.console.mode = .works)
    (opened : session.sink = some { path, file }) : LogsNext path file session where
  sink := opened
  emit record later written :=
    emit_of_written works opened (Sink.write_of_settled rfl record.text_ne_empty written)
  runLine line live event capture later parsed seen written := by
    have something := (session.recordOf event capture).text_ne_empty
    have emitted : (session.counting event capture).emit (session.recordOf event capture).text =
        (.ok (), (session.counting event capture).wrote (session.recordOf event capture).text
          later) :=
      emit_of_written works opened (Sink.write_of_settled rfl something written)
    exact runLine_of_emitted parsed seen emitted

theorem startsAnew_of_closed (works : session.console.mode = .works)
    (closed : session.sink = none) : session.StartsAnew := by
  intro line live path file later starting created
  refine ⟨?_, logsNext_of_settled works rfl⟩
  unfold Command.logPath? at starting
  split at starting
  · next argument parsed =>
    dsimp only at starting
    split at starting
    · cases starting
    · next named =>
      cases starting
      simp only [Session.runLine, parsed, execute, startLog, if_neg named, openLog, closePrevious,
        closed, Sink.openAt, created]
      rw [report_of_works]
      · rfl
      · exact works
  · cases starting

theorem goesOn_of_closed (works : session.console.mode = .works) (closed : session.sink = none) :
    session.GoesOn where
  stopLog := by
    simp only [Session.stopLog, closed]
  stop line live parsed := by
    simp only [Session.runLine, parsed, execute, stopLog, closed]
  start := startsAnew_of_closed works closed
  startAfterStop := by
    rw [report_of_works _ works]
    exact startsAnew_of_closed works closed

/-! ## Giving a log up -/

/-- **A log whose file takes nothing costs the record that is being written.**  Take a session that
calls lead to, on a console that works, with a log whose file refuses every text.  The buffer is
empty.  Of every record the console gets the text and one message, the log is given up, and the
bytes of the record are those that are abandoned.  An event whose record it is counts as recorded.
Then there is no log to stop, and the next log that is started takes the next record. -/
theorem emit_gives_log_up (reachable : session.Reachable)
    (works : session.console.mode = .works) (opened : session.sink = some sink)
    (refuses : Storage.Refuses sink.file session.around.files) :
    sink.pending = "" ∧
    (∀ record : Record, record.Fits →
      record.text.utf8ByteSize < Sink.capacity ∧
      ∃ cause later, sink.Loses record.text session.around.files cause later ∧
        let after := session.givingUp sink.path record.text cause later
        session.emit record.text = (.ok (), after) ∧ after.GoesOn) ∧
    ∀ (line : String) (live : Inspector) (event : Event) (capture : Capture),
      Command.ofLine line = .ok (.record event) →
      event.sight session.config live = .ok (.captured capture) →
      let record := session.recordOf event capture
      record.Fits →
      ∃ cause later, sink.Loses record.text session.around.files cause later ∧
        let after := (session.counting event capture).givingUp sink.path record.text cause later
        session.runLine line live = (.recorded record, after) ∧
        event.Counted session.counters record.addr record.ordinal after.counters ∧
        after.GoesOn := by
  have settled := reachable.settled sink opened
  refine ⟨settled, ?_, ?_⟩
  · intro record fits
    obtain ⟨cause, later, lost⟩ := Sink.exists_loses settled refuses fits
    exact ⟨Record.utf8ByteSize_text_lt fits, cause, later, lost, emit_of_loses works opened lost,
      goesOn_of_closed works rfl⟩
  · intro line live event capture parsed seen record fits
    obtain ⟨cause, later, lost⟩ := Sink.exists_loses settled refuses fits
    -- The notices of the walk and the new count are nothing to the writing of the record.
    have emitted : (session.counting event capture).emit record.text =
        (.ok (), (session.counting event capture).givingUp sink.path record.text cause later) :=
      emit_of_loses works opened lost
    exact ⟨cause, later, lost, runLine_of_emitted parsed seen emitted,
      event.counted_count session.counters capture.pivot.addr, goesOn_of_closed works rfl⟩

/-- A session on a console that takes texts in a given way, with a log on the device that is
always full. -/
def onFullDevice (mode : ConsoleMode) : Session Storage.Directory Storage.OpenFile :=
  (startLog { config := oneDetection.config, console := { mode }, around := { files := {} } }
    (some "/dev/full")).2

/-- The record of the first detection at the only op. -/
def firstDetection : Record where
  trigger := .mispredict 9
  addr := ⟨16⟩
  ordinal := 1
  cycle := 7
  opNum := 4
  offPath := false
  fetchAddr := ⟨64⟩
  census := { rsOnPath := 1, pivotFound := true, visited := 1 }
  windowTotal := 1
  rsTotal := 1
  missColumn := false
  oracle := none

theorem fits_firstDetection : firstDetection.Fits := by
  constructor <;> decide

theorem reachable_onFullDevice (mode : ConsoleMode) : (onFullDevice mode).Reachable :=
  .startLog _ (.fresh _ _ _)

theorem sink_onFullDevice (mode : ConsoleMode) :
    (onFullDevice mode).sink = some { path := "/dev/full", file := .fullDevice } :=
  rfl

theorem refuses_fullDevice (directory : Storage.Directory) :
    Storage.Refuses Storage.OpenFile.fullDevice directory :=
  fun _ _ => ⟨.noSpace, directory, rfl⟩

/-- The device that is always full costs the log the record of the detection. -/
theorem emit_onFullDevice :
    (onFullDevice .works).Reachable ∧ (onFullDevice .works).console.mode = .works ∧
      (onFullDevice .works).sink = some { path := "/dev/full", file := .fullDevice } ∧
      Storage.Refuses Storage.OpenFile.fullDevice (onFullDevice .works).around.files ∧
      firstDetection.Fits ∧
      (∃ cause later, (onFullDevice .works).emit firstDetection.text =
        (.ok (), (onFullDevice .works).givingUp "/dev/full" firstDetection.text cause later)) ∧
      ∃ after, (onFullDevice .works).runLine "log_mispred" oneOp.inspector =
        (.recorded firstDetection, after) ∧ after.sink = none ∧ after.GoesOn := by
  have works : (onFullDevice .works).console.mode = .works := rfl
  have refuses := refuses_fullDevice (onFullDevice .works).around.files
  obtain ⟨-, records, events⟩ := emit_gives_log_up (reachable_onFullDevice .works) works
    (sink_onFullDevice .works) refuses
  have recorded : ((onFullDevice .works).runLine "log_mispred" oneOp.inspector).1 =
      .recorded firstDetection := by
    decide +kernel
  obtain ⟨event, capture, parsed, seen, same⟩ := exists_captured_of_recorded recorded
  refine ⟨reachable_onFullDevice .works, works, sink_onFullDevice .works, refuses,
    fits_firstDetection, ?_, ?_⟩
  · obtain ⟨-, cause, later, -, emitted, -⟩ := records firstDetection fits_firstDetection
    exact ⟨cause, later, emitted⟩
  · obtain ⟨cause, later, -, ran, -, on⟩ :=
      events _ _ event capture parsed seen (same ▸ fits_firstDetection)
    exact ⟨_, by rw [ran, ← same], rfl, on⟩

/-- A console that refuses the text of a record refuses the record: that is a fault, the event is
not recorded, and the log is still open, for it is not asked. -/
theorem emit_refused_by_console :
    (onFullDevice .writeFails).Reachable ∧
      (onFullDevice .writeFails).sink = some { path := "/dev/full", file := .fullDevice } ∧
      Storage.Refuses Storage.OpenFile.fullDevice (onFullDevice .writeFails).around.files ∧
      firstDetection.Fits ∧
      (onFullDevice .writeFails).emit firstDetection.text =
        (.error (.storage .consoleWrite), onFullDevice .writeFails) ∧
      ((onFullDevice .writeFails).runLine "log_mispred" oneOp.inspector).1 =
        .failed (.storage .consoleWrite) ∧
      ((onFullDevice .writeFails).runLine "log_mispred" oneOp.inspector).2.logPath =
        some "/dev/full" := by
  have emitted : (onFullDevice .writeFails).emit firstDetection.text =
      (.error (.storage .consoleWrite), onFullDevice .writeFails) := by
    have mode : (onFullDevice .writeFails).console.mode = .writeFails := rfl
    simp only [emit, Console.write_eq, mode, if_neg firstDetection.text_ne_empty]
  exact ⟨reachable_onFullDevice .writeFails, sink_onFullDevice .writeFails,
    refuses_fullDevice _, fits_firstDetection, emitted, by decide +kernel, by decide +kernel⟩

end Session

end Inflight
