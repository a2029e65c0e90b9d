import Inflight.Proofs.Session.Logging

/-!
# The life of a log

A log begins with a start that opens its file.  It ends with a stop, with a
start under another path even where that file cannot be opened, and with the
first write that its file refuses; nothing else ends it.  All the while its
buffer is empty between commands, because each record is written out before the
command that made it is over, or else the log is given up with the record in it.
So there is nothing left to write when a log is closed, and the failures of
closing cannot happen: a stop always succeeds, a start never tells of the log
before it, and no command fails because of a file (`Session.runLines_between`).
-/

namespace Inflight

set_option autoImplicit false

open Log (Sink Surroundings)
open Storage (FileSystem)

/-- What a snapshot fails with is never a file's failure. -/
theorem Snapshot.not_raises_storage (snapshot : Snapshot) (cause : Storage.Fault) :
    ¬snapshot.inspector.Raises (.storage cause) := by
  rintro (⟨name, failed⟩ | ⟨handle, name, failed⟩)
  · exact snapshot.resolve_failsInReading name _ failed
  · exact snapshot.field_failsInReading handle name _ failed

theorem Command.fault_of_ofLine {line : String} {fault : Fault}
    (unread : Command.ofLine line = .error fault) : ∃ name, fault = .unknownCommand name := by
  unfold ofLine ofName at unread
  dsimp only at unread
  split at unread <;> cases unread
  exact ⟨_, rfl⟩

namespace Session

variable {σ φ : Type}

/-! ## Turns -/

/-- A command of a run: the session that it was given in, its line, and what it did. -/
structure Turn (σ φ : Type) where
  before : Session σ φ
  line : String
  outcome : Outcome

variable [FileSystem σ φ]

/-- The commands of a run, each in the session that those before it leave. -/
def turns : Session σ φ → List (String × Inspector) → List (Turn σ φ)
  | _, [] => []
  | session, (line, live) :: rest =>
    let (outcome, after) := session.runLine line live
    { before := session, line, outcome } :: turns after rest

/-- The file of the open log refuses the text of the record. -/
def Turn.WriteFails (turn : Turn σ φ) : Prop :=
  ∃ sink record cause later, turn.before.sink = some sink ∧ turn.outcome = .recorded record ∧
    FileSystem.write sink.file record.text turn.before.around.files = (.error cause, later)

/-- A log that is open before the turn is not open after it: the turn is a stop, or a start with
a path, or the write of its record fails. -/
def Turn.EndsLog (turn : Turn σ φ) : Prop :=
  Command.endsLog turn.line = true ∨ turn.WriteFails

/-- The last start that opened a log opened it under the path, and nothing has ended it since. -/
def LogOpen (path : String) (history : List (Turn σ φ)) : Prop :=
  ∃ early start late, history = early ++ start :: late ∧ start.outcome = .logging path ∧
    ∀ turn ∈ late, ¬turn.EndsLog

section History

variable {path : String} {history : List (Turn σ φ)} {turn : Turn σ φ}

theorem not_logOpen_nil : ¬LogOpen path ([] : List (Turn σ φ)) := by
  rintro ⟨early, start, late, split, -⟩
  simp at split

/-- A turn opens the log, or leaves it open. -/
theorem logOpen_concat :
    LogOpen path (history ++ [turn]) ↔
      turn.outcome = .logging path ∨ LogOpen path history ∧ ¬turn.EndsLog := by
  constructor
  · rintro ⟨early, start, late, split, started, going⟩
    rcases List.eq_nil_or_concat late with rfl | ⟨rest, last, rfl⟩
    · obtain ⟨-, same⟩ := List.append_inj' split rfl
      cases same
      exact .inl started
    · rw [List.concat_eq_append, ← List.cons_append, ← List.append_assoc] at split
      obtain ⟨rfl, same⟩ := List.append_inj' split rfl
      cases same
      refine .inr ⟨⟨early, start, rest, rfl, started, fun later mem => ?_⟩, ?_⟩
      · exact going later (by simp [mem])
      · exact going turn (by simp)
  · rintro (started | ⟨⟨early, start, late, rfl, started, going⟩, on⟩)
    · exact ⟨history, turn, [], rfl, started, by simp⟩
    · refine ⟨early, start, late ++ [turn], by simp, started, fun later mem => ?_⟩
      rcases List.mem_append.mp mem with earlier | last
      · exact going later earlier
      · exact List.mem_singleton.mp last ▸ on

theorem Turn.not_writeFails_of_quiet (quiet : turn.outcome.record? = none) :
    ¬turn.WriteFails := by
  rintro ⟨_, record, _, _, _, recorded, _⟩
  rw [recorded] at quiet
  cases quiet

end History

/-! ## The log against the history -/

/-- The console works, the buffer of the log is empty, and the log is the one that the history
says is open. -/
structure Attended (history : List (Turn σ φ)) (session : Session σ φ) : Prop where
  works : session.console.mode = .works
  settled : ∀ sink, session.sink = some sink → sink.pending = ""
  logPath_iff : ∀ path, session.logPath = some path ↔ LogOpen path history

section Step

variable {history : List (Turn σ φ)} {session after : Session σ φ} {line : String}
  {outcome : Outcome}

/-- A turn that neither opens a log nor ends one keeps it. -/
theorem Attended.keep (attended : Attended history session)
    (mode : after.console.mode = session.console.mode) (same : after.sink = session.sink)
    (other : ∀ path, outcome ≠ .logging path)
    (going : ∀ path, session.logPath = some path → ¬Turn.EndsLog ⟨session, line, outcome⟩) :
    Attended (history ++ [⟨session, line, outcome⟩]) after := by
  refine ⟨mode.trans attended.works, same ▸ attended.settled, fun path => ?_⟩
  rw [logOpen_concat, ← attended.logPath_iff, logPath, same, ← logPath]
  constructor
  · exact fun here => .inr ⟨here, going path here⟩
  · rintro (opened | ⟨here, -⟩)
    · exact absurd opened (other path)
    · exact here

/-- After a turn that ends the log and opens none there is none. -/
theorem Attended.finish (attended : Attended history session)
    (mode : after.console.mode = session.console.mode) (closed : after.sink = none)
    (other : ∀ path, outcome ≠ .logging path)
    (ending : Turn.EndsLog ⟨session, line, outcome⟩) :
    Attended (history ++ [⟨session, line, outcome⟩]) after := by
  refine ⟨mode.trans attended.works, by simp [closed], fun path => ?_⟩
  rw [logOpen_concat, logPath, closed]
  constructor
  · nofun
  · rintro (opened | ⟨-, going⟩)
    · exact absurd opened (other path)
    · exact absurd ending going

theorem Attended.start (attended : Attended history session) {path : String} {file : φ}
    (mode : after.console.mode = session.console.mode)
    (starting : Command.logPath? line = some path)
    (opened : after.sink = some { path, file }) :
    Attended (history ++ [⟨session, line, .logging path⟩]) after := by
  have ending : Turn.EndsLog ⟨session, line, .logging path⟩ :=
    .inl (by simp [Command.endsLog, starting])
  refine ⟨mode.trans attended.works, ?_, fun other => ?_⟩
  · rw [opened]
    rintro sink ⟨⟩
    rfl
  · rw [logOpen_concat, logPath, opened]
    constructor
    · rintro ⟨⟩
      exact .inl rfl
    · rintro (⟨⟨⟩⟩ | ⟨-, going⟩)
      · rfl
      · exact absurd ending going

/-- A record is written to the log, or ends it. -/
theorem Attended.record (attended : Attended history session) {record : Record}
    (mode : after.console.mode = session.console.mode) (going : Command.endsLog line = false)
    (writing : Writing session record.text after) :
    Attended (history ++ [⟨session, line, .recorded record⟩]) after := by
  have going : ¬Command.endsLog line = true := by simp [going]
  cases writing with
  | unlogged closed stays same shown =>
    refine attended.keep mode (stays.trans closed.symm) (by simp) fun path here => ?_
    simp [logPath, closed] at here
  | @logged sink written files here write stays same shown =>
    have settled := attended.settled sink here
    cases stored : FileSystem.write sink.file record.text session.around.files with
    | mk result later =>
      cases result with
      | ok done =>
        rw [Sink.write_of_settled settled record.text_ne_empty stored] at write
        obtain ⟨-, rfl, -⟩ := Prod.mk.injEq .. ▸ write
        refine attended.keep mode (stays.trans here.symm) (by simp) ?_
        rintro - - (ends | ⟨other, told, cause, rest, open_before, recorded, refused⟩)
        · exact going ends
        · cases here.symm.trans open_before
          cases recorded
          cases stored.symm.trans refused
      | error cause =>
        obtain ⟨rest, refused⟩ :=
          Sink.write_of_settled_of_error settled record.text_ne_empty stored
        cases refused.symm.trans write
  | @broken sink rest cause files here write lost same shown =>
    have settled := attended.settled sink here
    refine attended.finish mode lost (by simp) (.inr ?_)
    cases stored : FileSystem.write sink.file record.text session.around.files with
    | mk result later =>
      cases result with
      | ok done =>
        cases (Sink.write_of_settled settled record.text_ne_empty stored).symm.trans write
      | error cause => exact ⟨sink, record, cause, later, here, rfl, stored⟩

/-- Every turn keeps the log in step with the history. -/
theorem Attended.step (attended : Attended history session)
    (logging : Logging session line outcome after)
    (mode : after.console.mode = session.console.mode) :
    Attended (history ++ [⟨session, line, outcome⟩]) after := by
  cases logging with
  | kept going other quiet same =>
    refine attended.keep mode same.sink other ?_
    rintro - - (ends | fails)
    · simp [going] at ends
    · exact Turn.not_writeFails_of_quiet quiet fails
  | stopped ending other quiet closed same =>
    exact attended.finish mode closed other (.inl ending)
  | refused starting refused closed =>
    exact attended.finish mode closed (by simp)
      (.inl (by simp [Command.endsLog, starting]))
  | started starting created opened => exact attended.start mode starting opened
  | recorded going writing => exact attended.record mode going writing

end Step

theorem attended_fresh (config : Config) (shown : String) (around : Surroundings σ) :
    Attended [] ({ config, console := { shown }, around } : Session σ φ) where
  works := rfl
  settled := nofun
  logPath_iff _ := ⟨nofun, fun opened => absurd opened not_logOpen_nil⟩

theorem Attended.run {history : List (Turn σ φ)} {session : Session σ φ}
    (attended : Attended history session) (steps : List (String × Inspector)) :
    Attended (history ++ session.turns steps) (session.runLines steps).2 := by
  -- The history is kept general: each turn is one more at the end of it.
  induction steps generalizing session history with
  | nil => simpa [turns, runLines] using attended
  | cons step rest ih =>
    obtain ⟨line, live⟩ := step
    have stepped := attended.step (session.runLine_logging line live attended.settled)
      (session.runLine_stepping line live attended.works).mode
    rw [turns, runLines_cons, List.append_cons]
    exact ih stepped

/-! ## What cannot fail -/

section Settled

variable {session : Session σ φ} {line : String} (live : Inspector)

theorem stopLog_of_settled (settled : ∀ sink, session.sink = some sink → sink.pending = "") :
    session.stopLog.1 = .ok session.logPath := by
  unfold stopLog logPath
  split
  · next closed => rw [closed]; rfl
  · next sink opened =>
    rw [Sink.close_of_settled (settled sink opened), opened]
    rfl

theorem closePrevious_eq_of_settled {sink : Sink φ} (settled : sink.pending = "")
    (opened : session.sink = some sink) :
    session.closePrevious = { session with sink := none }.note (.logClosed sink.path) := by
  simp only [closePrevious, opened, Sink.close_of_settled settled]
  rfl

theorem console_startLog_of_settled
    (settled : ∀ sink, session.sink = some sink → sink.pending = "") (argument : Option String) :
    (session.startLog argument).2.console = session.console := by
  unfold startLog
  dsimp only
  split
  · rfl
  · have quiet : session.closePrevious.console = session.console := by
      cases opened : session.sink with
      | none => simp only [closePrevious, opened]
      | some sink =>
        rw [closePrevious_eq_of_settled (settled sink opened) opened]
        rfl
    unfold openLog
    dsimp only
    split <;> exact quiet

theorem runLine_startLog_of_blank {argument : Option String}
    (parsed : Command.ofLine line = .ok (.startLog argument))
    (blank : Text.trim (argument.getD "") = "") :
    (session.runLine line live).1 = .failed (.missingArgument startUsage) ∧
      Untouched session (session.runLine line live).2 := by
  have same := session.fail_sameLog "start_log" (.missingArgument startUsage)
  have steady := session.fail_steady "start_log" (.missingArgument startUsage)
  simp only [runLine, parsed, execute, startLog, if_pos blank]
  exact ⟨rfl, steady.config, steady.counters, same.sink, same.files⟩

/-- A start fails only for want of a path, or because its file cannot be opened. -/
theorem fault_of_startLog {argument : Option String} {fault : Fault} {after : Session σ φ}
    (failed : session.startLog argument = (.error fault, after)) :
    fault = .missingArgument startUsage ∨ ∃ path cause, fault = .logNotOpened path cause := by
  unfold startLog at failed
  dsimp only at failed
  split at failed
  · cases failed
    exact .inl rfl
  · unfold openLog Sink.openAt at failed
    dsimp only at failed
    split at failed
    · next unopened =>
      cases failed
      split at unopened <;> cases unopened
      exact .inr ⟨_, _, rfl⟩
    · cases failed

/-- On a console that works a command fails because of a file only where its inspector does. -/
theorem runLine_ne_storage (works : session.console.mode = .works)
    (settled : ∀ sink, session.sink = some sink → sink.pending = "") {cause : Storage.Fault}
    (unraised : ¬live.Raises (.storage cause)) :
    (session.runLine line live).1 ≠ .failed (.storage cause) := by
  cases parsed : Command.ofLine line with
  | error fault =>
    obtain ⟨name, rfl⟩ := Command.fault_of_ofLine parsed
    simp [runLine, parsed, fail]
  | ok command =>
    cases command with
    | startLog argument =>
      cases start : session.startLog argument with
      | mk result after =>
        cases result with
        | ok path => simp [runLine, parsed, execute, start]
        | error fault =>
          rcases fault_of_startLog start with rfl | ⟨path, other, rfl⟩ <;>
            simp [runLine, parsed, execute, start, fail]
    | stopLog =>
      have stopped := stopLog_of_settled settled
      cases stop : session.stopLog with
      | mk result after =>
        rw [stop] at stopped
        obtain rfl : result = .ok session.logPath := stopped
        simp only [runLine, parsed, execute, stop]
        cases session.logPath <;> simp
    | record event =>
      cases seen : event.sight session.config live with
      | error fault =>
        rw [runLine_of_error parsed seen]
        rintro ⟨⟩
        rcases Event.fault_of_sight seen with reading | ⟨limit, overrun⟩ | raised
        · exact reading
        · cases overrun
        · exact unraised raised
      | ok sighting =>
        cases sighting with
        | outside cycle => simp [runLine_of_outside parsed seen]
        | captured capture =>
          obtain ⟨record, after, -, ran, -⟩ := runLine_of_captured works parsed seen rfl
          simp [ran]
        | endless => simp [runLine_of_wanders parsed (Event.sight_eq_endless_iff.mp seen)]

end Settled

/-! ## Between the commands of a run -/

/-- What holds of a session between two commands, after the turns of a history. -/
structure Between (history : List (Turn σ φ)) (session : Session σ φ) : Prop where
  /-- The buffer of the open log is empty. -/
  settled : ∀ sink, session.sink = some sink → sink.pending = ""
  /-- A log is open exactly when the history says so, and under the path that it says. -/
  logPath_iff : ∀ path, session.logPath = some path ↔ LogOpen path history
  /-- A start without a path, or with a blank one, changes neither the log nor its files nor the
  counters. -/
  blankStart : ∀ line live argument, Command.ofLine line = .ok (.startLog argument) →
    Text.trim (argument.getD "") = "" →
      (session.runLine line live).1 = .failed (.missingArgument startUsage) ∧
        Untouched session (session.runLine line live).2
  /-- To stop the log succeeds, and gives the path of the log when there is one. -/
  stop : session.stopLog.1 = .ok session.logPath
  /-- A start closes the log before it without a failure. -/
  closePrevious : ∀ sink, session.sink = some sink →
    session.closePrevious = { session with sink := none }.note (.logClosed sink.path)
  /-- To start a log shows nothing on the console, and so no failure to close the one before. -/
  start : ∀ argument, (session.startLog argument).2.console = session.console
  /-- No command fails because of a file or of the console, unless its inspector itself does. -/
  noStorageFault : ∀ line live cause, ¬live.Raises (.storage cause) →
    (session.runLine line live).1 ≠ .failed (.storage cause)
  /-- On a snapshot no command fails so at all. -/
  noStorageFaultOnSnapshot : ∀ line (snapshot : Snapshot) cause,
    (session.runLine line snapshot.inspector).1 ≠ .failed (.storage cause)

/-- **A log can always be closed.**  Take a run from a session without a log, over any files and
with any failures of opening and writing them, on a console that works.  After each part of it
the buffer of the log is empty, the log is the one that the turns so far say is open, and none of
the failures of closing a log can happen. -/
theorem runLines_between (config : Config) (shown : String) (around : Surroundings σ)
    (steps : List (String × Inspector)) :
    let fresh : Session σ φ := { config, console := { shown }, around }
    ∀ place, Between (fresh.turns (steps.take place)) (fresh.runLines (steps.take place)).2 := by
  intro fresh place
  have attended := (attended_fresh config shown around).run (steps.take place)
  rw [List.nil_append] at attended
  exact {
    settled := attended.settled
    logPath_iff := attended.logPath_iff
    blankStart := fun _ live _ parsed blank => runLine_startLog_of_blank live parsed blank
    stop := stopLog_of_settled attended.settled
    closePrevious := fun sink opened =>
      closePrevious_eq_of_settled (attended.settled sink opened) opened
    start := console_startLog_of_settled attended.settled
    noStorageFault := fun _ live _ unraised =>
      runLine_ne_storage live attended.works attended.settled unraised
    noStorageFaultOnSnapshot := fun _ snapshot cause =>
      runLine_ne_storage _ attended.works attended.settled (snapshot.not_raises_storage cause) }

/-- A write that fails ends the log, so the stop after it finds none; and a start that fails ends
the log as well. -/
example :
    (oneDetection.runLines (["start_log /dev/full", "log_mispred", "stop_log", "start_log a.log",
      "start_log none/b.log", "stop_log"].map fun line => (line, oneOp.inspector))).1.map
        (fun outcome => outcome.record?.isSome || outcome = .notActive) =
      [false, true, true, false, false, true] := by
  decide +kernel

end Session

end Inflight
