import Inflight.Proofs.Replay
import Inflight.Proofs.Replay.RoundTrip
import Inflight.Proofs.Session.CommandLines
import Inflight.Proofs.Session.Lifecycle

/-!
# The log option and a first command

A replay can be told of a log in two ways: by an option, and by a command at its
first stop.  The option starts the log itself; the command line is taken apart,
its argument is trimmed, and the start that it comes to is reported.  Both go by
what is left of the path when its blanks are trimmed
(`Session.runLine_startLine`), so they start the same log, and the sessions that
they leave differ in one message on the console.

From there on the two replays keep level.  The command has an outcome that is
not tallied, every later command does the same in both, and so does the stop at
the end.  So they have one status and leave the same files, and what one of them
writes is the message and then all that the other one writes; and where one has
no end, neither has the other (`CommandLine.run_logOption`).
-/

namespace Inflight

set_option autoImplicit false

open Storage (FileSystem)

/-! ## Starting a log by a line -/

/-- The name of the start and a path behind it make a line, whose argument is the path without
the blanks at its ends. -/
theorem Command.line_start (path : String) :
    Command.Line ("start_log " ++ path) "start_log" (Text.trim path) := by
  obtain ⟨lead, body, trail, before, trimmed, after, whole⟩ := Text.exists_trimmed path.toList
  have argument : Text.trim path = String.ofList body := by
    rw [Text.trim, whole, Text.trimChars_eq before trimmed after]
  have space : Text.Blank " ".toList := by decide
  rw [argument]
  refine ⟨by decide, by simpa using trimmed, "", " " ++ String.ofList lead, String.ofList trail,
    Text.blank_nil, ?_, by simpa using after, ?_, ?_⟩
  · simpa using space.append before
  · rw [← String.toList_inj]
    simp [whole]
  · intro _
    simp

namespace Session

section Starting

variable {σ φ : Type} [FileSystem σ φ] (session : Session σ φ)

/-- Which log is started is told by what is left of the path when it is trimmed. -/
theorem startLog_congr {path other : Option String}
    (same : Text.trim (path.getD "") = Text.trim (other.getD "")) :
    session.startLog path = session.startLog other := by
  rw [startLog, startLog, same]

/-- A line that starts a log comes to a start with the path as it stands in the line. -/
theorem runLine_startLine (path : String) (live : Inspector) :
    session.runLine ("start_log " ++ path) live =
      session.execute (.startLog (some path)) live := by
  have made := Command.line_start path
  have started : session.startLog (if Text.trim path = "" then none else some (Text.trim path)) =
      session.startLog (some path) := by
    apply startLog_congr
    split
    · next blank => rw [Option.getD_some, blank]; rfl
    · exact Text.trim_of_trimmed made.trimmed
  rw [runLine, made.ofLine]
  simp only [Command.ofName, execute, started, Command.name]

/-- Where the file can be opened, a start with a path that is not blank opens it. -/
theorem startLog_of_create {path : String} {file : φ} (unlogged : session.sink = none)
    (given : ¬Text.Blank path.toList)
    (opens : (FileSystem.create (Text.trim path) session.around.files).1 = .ok file) :
    ∃ started, session.startLog (some path) = (.ok (Text.trim path), started) := by
  have something : Text.trim path ≠ "" := fun nothing => given (Text.trim_eq_empty_iff.mp nothing)
  have settled : ∀ sink, session.sink = some sink → sink.pending = "" := by simp [unlogged]
  have created : FileSystem.create (Text.trim path) session.around.files =
      (.ok file, (FileSystem.create (Text.trim path) session.around.files).2) :=
    Prod.ext opens rfl
  obtain ⟨started, done, -⟩ := openLog_of_ok settled created
  refine ⟨started, ?_⟩
  rw [startLog, Option.getD_some, if_neg something, done]

end Starting

/-! ## Sessions that differ in a message -/

section Ahead

variable {σ φ : Type}

/-- A message puts the session in which it is shown a line ahead on the console. -/
theorem level_report {session : Session σ φ} (works : session.console.mode = .works)
    (message : String) :
    Level session.console.shown (session.console.shown ++ (message ++ "\n")) session
      (session.report message) := by
  rw [report_of_works session works]
  exact ⟨rfl, rfl, rfl, rfl, "", by simp, by simp [Console.showing]⟩

/-- A session is on a level with all that are on one with an equal. -/
theorem Level.of_same {early late text : String} {first second other : Session σ φ}
    (level : Level early late first second) (same : Level text text other second) :
    Level early late first other :=
  ⟨level.counters.trans same.counters.symm, level.sink.trans same.sink.symm,
    level.files.trans same.files.symm, same.console.eq ▸ level.console⟩

end Ahead

end Session

/-! ## A command in front of a script -/

/-- The script with a command line before the first one of its first stop. -/
def Script.startingWith (line : String) (script : Script) : Script :=
  match script.stops with
  | [] => script
  | stop :: rest => { stops := { stop with commands := line :: stop.commands } :: rest }

namespace Script

variable {σ φ : Type} [FileSystem σ φ]

theorem exists_lines_startingWith (line : String) {script : Script} (stops : script.stops ≠ []) :
    ∃ live, (script.startingWith line).lines = (line, live) :: script.lines := by
  obtain ⟨stop, rest, here⟩ := List.exists_cons_of_ne_nil stops
  refine ⟨stop.state.inspector, ?_⟩
  simp [startingWith, lines, here, Stop.lines]

/-- A command in front of a script has its outcome first, and the others follow as they would
from a session on a level with the one it leaves. -/
theorem run_startingWith {early late : String} {first session after : Session σ φ}
    {line : String} {outcome : Outcome} {script : Script} (stops : script.stops ≠ [])
    (begins : ∀ live, session.runLine line live = (outcome, after))
    (level : Session.Level early late first after) (config : first.config = after.config) :
    ((script.startingWith line).run session).1 = outcome :: (script.run first).1 ∧
      Session.Level early late (script.run first).2 ((script.startingWith line).run session).2 := by
  obtain ⟨live, lines⟩ := exists_lines_startingWith line stops
  obtain ⟨outcomes, ran⟩ := (script.startingWith line).run_agree session
  obtain ⟨others, ahead⟩ := Stop.runAll_agree level config 0 script.stops
  rw [lines, Session.runLines_cons, begins] at outcomes ran
  refine ⟨?_, ahead.of_same ran⟩
  rw [outcomes]
  exact congrArg (outcome :: ·) others.symm

end Script

namespace CommandLine

variable {σ φ : Type} [FileSystem σ φ]

/-- Two replays whose tallies are equal and whose sessions are on a level come to an end or not
alike, and one leaves what the other leaves, with what its session had shown before in front. -/
theorem runScript_level {late : String} (request other : ReplayRequest)
    {script another : Script} {first second : Session σ φ}
    (summed : request.noSummary = other.noSummary)
    (works : (script.run first).2.console.mode = .works)
    (endless : .endless ∈ (another.run second).1 ↔ .endless ∈ (script.run first).1)
    (tally : Tally.ofOutcomes (another.run second).1 = Tally.ofOutcomes (script.run first).1)
    (level : Session.Level "" late (script.run first).2 (another.run second).2) :
    runScript other another second = (runScript request script first).map fun left =>
      ({ left.1 with output := late ++ left.1.output }, left.2) := by
  by_cases ended : .endless ∈ (script.run first).1
  · rw [(runScript_eq_none_iff request script).mpr ended,
      (runScript_eq_none_iff other another).mpr (endless.mpr ended)]
    rfl
  · obtain ⟨mode, text, here, there⟩ := level.console
    have stopped : (another.run second).2.stopLog.1 = (script.run first).2.stopLog.1 :=
      level.stopLog.1.symm
    have files : (another.run second).2.stopLog.2.around.files =
        (script.run first).2.stopLog.2.around.files := level.stopLog.2.files.symm
    rw [runScript_of_works request script works ended,
      runScript_of_works other another (mode.symm.trans works) (mt endless.mp ended)]
    simp only [Option.map_some, tally, ← level.counters, ← summed, stopped, files, here, there,
      String.empty_append, String.append_assoc]

/-- **The log option and a first command that starts the log come to the same.**  Take a replay
with a log whose path is not blank and whose file can be opened, and a replay without a log of the
same script with the start of that log before its first command.  What the second one leaves is
what the first one leaves, with the message of the start in front of all that it wrote: the status
is the same, the files are, and so is what it complains of.  If the first one never comes to an
end, neither does the second one. -/
theorem run_logOption (request : ReplayRequest) {arguments others : List String}
    {path rewritten : String} {files : σ} {config : Config} {script : Script} {file : φ}
    (asked : Request.ofArguments arguments = some (.replay { request with log := some path }))
    (askedOtherwise : Request.ofArguments others =
      some (.replay { request with script := rewritten, log := none }))
    (configured : loadConfig request.config files = .ok config)
    (scripted : loadScript request.script files = .ok script)
    (scriptedOtherwise :
      loadScript rewritten files = .ok (script.startingWith ("start_log " ++ path)))
    (stops : script.stops ≠ []) (given : ¬Text.Blank path.toList)
    (opens : (FileSystem.create (Text.trim path) files).1 = .ok file) :
    run others files = (run arguments files).map fun left =>
      ({ left.1 with output := "Logging to '" ++ Text.trim path ++ "'\n" ++ left.1.output },
        left.2) := by
  let fresh : Session σ φ := { config, around := { files } }
  obtain ⟨started, start⟩ := fresh.startLog_of_create rfl given opens
  have steady : Session.Steady fresh started := by
    have kept := fresh.startLog_steady (some path)
    rwa [start] at kept
  have silent : started.console = fresh.console := by
    have kept := fresh.console_startLog_of_settled (by simp [fresh]) (some path)
    rwa [start] at kept
  -- The option leaves the started session, and the command the same with its message shown.
  let message := "Logging to '" ++ Text.trim path ++ "'"
  have begins : ∀ live, fresh.runLine ("start_log " ++ path) live =
      (.logging (Text.trim path), started.report message) := by
    intro live
    rw [fresh.runLine_startLine, Session.execute, start]
  have lineEnded : message ++ "\n" = "Logging to '" ++ Text.trim path ++ "'\n" := by
    simp only [message, String.append_assoc]
    rfl
  have level : Session.Level "" ("Logging to '" ++ Text.trim path ++ "'\n") started
      (started.report message) := by
    have reported := Session.level_report steady.mode message
    rwa [silent, String.empty_append, lineEnded] at reported
  have configuredAlike : started.config = (started.report message).config :=
    (started.report_steady message).config.symm
  obtain ⟨outcomes, ran⟩ := Script.run_startingWith stops begins level configuredAlike
  have optionStarts : startLog (some path) fresh = (.ok (), started) := by
    rw [startLog, start]
  have works : (script.run started).2.console.mode = .works :=
    (script.run_agree started).2.console.mode.trans
      (started.mode_runLines steady.mode script.lines)
  -- The outcome of the command is not tallied, and it comes back.
  have tally : Tally.ofOutcomes ((script.startingWith ("start_log " ++ path)).run fresh).1 =
      Tally.ofOutcomes (script.run started).1 := by
    rw [outcomes]
    rfl
  have endless : .endless ∈ ((script.startingWith ("start_log " ++ path)).run fresh).1 ↔
      .endless ∈ (script.run started).1 := by
    simp [outcomes]
  have optioned := run_of_started asked configured scripted optionStarts
  have commanded := run_of_started askedOtherwise configured scriptedOtherwise
    (show startLog none fresh = (.ok (), fresh) from rfl)
  rw [optioned, commanded]
  exact runScript_level { request with log := some path }
    { request with script := rewritten, log := none } rfl works endless tally ran

/-- A stop with a detection, another log, a recovery, and no command. -/
def redirectedStop : Stop where
  commands := ["log_mispred", "start_log other.log", "log_recovery_end", "log"]
  state := stockOp

/-- A script with that stop alone. -/
def redirected : Script where
  stops := [redirectedStop]

theorem worded_redirected (line : String) :
    redirected.Worded ∧ (redirected.startingWith line).Worded := by
  have worded : stockOp.Worded := ⟨by decide +kernel, by decide +kernel⟩
  constructor <;> simpa [Script.Worded, Script.startingWith, redirected, redirectedStop] using worded

/-- A working folder in which two scripts are kept. -/
def twoScripts (plain started : Script) : Storage.Directory where
  entries := [(Storage.Directory.place "plain.json", .file 0),
    (Storage.Directory.place "started.json", .file 1)]
  contents := #[plain.document.compact.toByteArray, started.document.compact.toByteArray]

theorem loadScript_twoScripts {plain started : Script} (plainWorded : plain.Worded)
    (startedWorded : started.Worded) :
    loadScript "plain.json" (twoScripts plain started) = .ok plain ∧
      loadScript "started.json" (twoScripts plain started) = .ok started := by
  constructor
  · exact loadScript_of_read
      (Storage.Directory.read_of_file (by decide +kernel) _ (by decide +kernel) rfl rfl)
      (Script.ofText_compact plainWorded)
  · exact loadScript_of_read
      (Storage.Directory.read_of_file (by decide +kernel) _ (by decide +kernel) rfl rfl)
      (Script.ofText_compact startedWorded)

/-- A path with blanks around it and inside it. -/
def blankedPath : String := "\t my run.log "

/-- A folder with that script and the one that starts with a log. -/
def bothScripts : Storage.Directory :=
  twoScripts redirected (redirected.startingWith ("start_log " ++ blankedPath))

/-- The log under a path with blanks, another log at the same stop, and a command that fails. -/
theorem run_logOption_redirected :
    Request.ofArguments ["replay", "plain.json", "--log=" ++ blankedPath] =
        some (.replay { script := "plain.json", log := some blankedPath }) ∧
      Request.ofArguments ["replay", "started.json"] =
        some (.replay { script := "started.json" }) ∧
      loadScript "plain.json" bothScripts = .ok redirected ∧
      loadScript "started.json" bothScripts =
        .ok (redirected.startingWith ("start_log " ++ blankedPath)) ∧
      Text.trim blankedPath = "my run.log" ∧
      run ["replay", "started.json"] bothScripts =
        (run ["replay", "plain.json", "--log=" ++ blankedPath] bothScripts).map fun left =>
          ({ left.1 with output := "Logging to '" ++ Text.trim blankedPath ++ "'\n" ++
               left.1.output }, left.2) := by
  have asked : Request.ofArguments ["replay", "plain.json", "--log=" ++ blankedPath] =
      some (.replay { script := "plain.json", log := some blankedPath }) := by decide +kernel
  have askedOtherwise : Request.ofArguments ["replay", "started.json"] =
      some (.replay { script := "started.json" }) := by decide +kernel
  obtain ⟨plainWorded, startedWorded⟩ := worded_redirected ("start_log " ++ blankedPath)
  obtain ⟨scripted, scriptedOtherwise⟩ := loadScript_twoScripts plainWorded startedWorded
  have trimmed : Text.trim blankedPath = "my run.log" := by decide +kernel
  have opens : (FileSystem.create (Text.trim blankedPath) bothScripts).1 = .ok (.cursor 0) := by
    rw [trimmed]
    rfl
  have agree := run_logOption { script := "plain.json" } asked askedOtherwise rfl scripted
    scriptedOtherwise (List.cons_ne_nil _ _) (by decide) opens
  exact ⟨asked, askedOtherwise, scripted, scriptedOtherwise, trimmed, agree⟩

end CommandLine

end Inflight
