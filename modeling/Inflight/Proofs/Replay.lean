import Inflight.CommandLine.Run
import Inflight.Proofs.Config.RoundTrip
import Inflight.Proofs.Replay.RoundTrip
import Inflight.Proofs.Session.Level
import Inflight.Proofs.Session.Ordinals
import Inflight.Proofs.Storage.Directory

/-!
# A replay accounts for its commands

Two books are kept of a replay.  The outcomes are tallied as the commands end,
and the counters are kept by the session, which numbers its records with them;
the summary shows both.  They agree where standard output works: the tally has
every command in one place, the detections in the counters are the records of
detections among the outcomes, and the summary has a line for each address with
such a record (`Accounts`).

The stops of a script come to one run of all its command lines.  What is noted
between two stops does not reach a command (`Script.run_agree`).  So the accounts
hold of every replay that starts and comes to its end, and its status tells
whether a command failed (`CommandLine.run_accounts`).  A replay that starts has
no end just when the walk of one of its events wanders
(`CommandLine.run_eq_none_iff`).
-/

namespace Inflight

set_option autoImplicit false

open Storage (FileSystem)

/-! ## Accounts of a run -/

/-- Whether a record tells of a detection. -/
def Record.ofDetection (record : Record) : Bool :=
  match record.trigger with
  | .mispredict _ => true
  | .recoveryEnd => false

/-- Whether a command ended with a log that was started or stopped, or with none to stop. -/
def Outcome.ofLog : Outcome → Bool
  | .logging _ | .stopped _ | .notActive => true
  | _ => false

/-- Whether a command failed. -/
def Outcome.isFailed : Outcome → Bool
  | .failed _ => true
  | _ => false

/-- The records that a row of commands left, in order. -/
def recordsOf (outcomes : List Outcome) : List Record :=
  outcomes.filterMap Outcome.record?

theorem recordsOf_cons (outcome : Outcome) (rest : List Outcome) :
    recordsOf (outcome :: rest) = outcome.record?.toList ++ recordsOf rest := by
  cases told : outcome.record? <;> simp [recordsOf, told]

/-- The tally of a run has every command in its place. -/
structure Tally.Counts (tally : Tally) (outcomes : List Outcome) : Prop where
  recorded : tally.recorded = (recordsOf outcomes).length
  skipped : tally.skipped = outcomes.count .skipped
  failed : tally.failed = outcomes.countP Outcome.isFailed
  all : tally.recorded + tally.skipped + tally.failed + outcomes.countP Outcome.ofLog +
    outcomes.count .endless = outcomes.length

/-- One more outcome. -/
theorem Tally.Counts.add {tally : Tally} {outcomes : List Outcome} (counts : tally.Counts outcomes)
    (outcome : Outcome) : (tally.add outcome).Counts (outcomes ++ [outcome]) := by
  refine ⟨?_, ?_, ?_, ?_⟩
  · cases outcome <;> simp [Tally.add, recordsOf, Outcome.record?, counts.recorded]
  · cases outcome <;> simp [Tally.add, counts.skipped]
  · cases outcome <;> simp [Tally.add, Outcome.isFailed, counts.failed]
  · rw [List.length_append, List.countP_append, List.count_append, ← counts.all]
    cases outcome <;> simp [Tally.add, Outcome.ofLog] <;> omega

theorem Tally.counts_ofOutcomes (outcomes : List Outcome) :
    (Tally.ofOutcomes outcomes).Counts outcomes := by
  -- The outcomes are taken from the front, so those before are kept general.
  have added : ∀ (rest : List Outcome) {tally : Tally} {before : List Outcome},
      tally.Counts before → (rest.foldl Tally.add tally).Counts (before ++ rest) := by
    intro rest
    induction rest with
    | nil => intro tally before counts; simpa using counts
    | cons outcome rest ih =>
      intro tally before counts
      have later := ih (counts.add outcome)
      rwa [List.append_assoc] at later
  have none : ({} : Tally).Counts [] := ⟨rfl, rfl, rfl, rfl⟩
  exact added outcomes none

/-- The addresses of the detections that a row of commands recorded, in order. -/
def detectedAt (outcomes : List Outcome) : List Address :=
  ((recordsOf outcomes).filter Record.ofDetection).map Record.addr

/-- The books of a run account for its outcomes: the tally, the number of detections, and the
addresses with their numbers. -/
structure Accounts (outcomes : List Outcome) (tally : Tally) (total : Nat)
    (ranking : List (Address × Nat)) : Prop where
  counts : tally.Counts outcomes
  /-- Every command was tallied or did something about the log. -/
  all : tally.recorded + tally.skipped + tally.failed + outcomes.countP Outcome.ofLog =
    outcomes.length
  /-- All detections that were counted are those recorded. -/
  detections : total = (detectedAt outcomes).length
  /-- The other records are of recoveries. -/
  recoveries : tally.recorded =
    total + (recordsOf outcomes).countP (·.trigger = .recoveryEnd)
  /-- An address is listed once, with the number of detections recorded at it, where there is one;
  the greater numbers come first, and of equal ones the lower address. -/
  ranks : Counters.Ranks ranking (detectedAt outcomes)

/-- A record that tells of no detection tells of a recovery. -/
theorem length_eq_detections_add_recoveries (records : List Record) :
    records.length =
      records.countP Record.ofDetection + records.countP (·.trigger = .recoveryEnd) := by
  rw [List.length_eq_countP_add_countP Record.ofDetection]
  congr 1
  refine List.countP_congr fun record _ => ?_
  unfold Record.ofDetection
  cases record.trigger <;> simp

/-- Counters that are in step with the detections in a run that came to its end account for it. -/
theorem Session.Numbers.accounts {counters : Counters} {outcomes : List Outcome}
    (numbers : Numbers counters ((recordsOf outcomes).filter Record.ofDetection))
    (ended : .endless ∉ outcomes) :
    Accounts outcomes (Tally.ofOutcomes outcomes) counters.total counters.hottest := by
  have counts := Tally.counts_ofOutcomes outcomes
  have all := counts.all
  rw [List.count_eq_zero_of_not_mem ended] at all
  have total : counters.total = (detectedAt outcomes).length := numbers.tallies.total
  refine ⟨counts, all, total, ?_, numbers.tallies.ranks⟩
  rw [counts.recorded, total, length_eq_detections_add_recoveries, List.countP_eq_length_filter,
    detectedAt, List.length_map]

/-! ## Detections by command and by record -/

/-- The record of a capture tells of a detection just where the event is one. -/
theorem Event.ofDetection_record {event : Event} {config : Config} {live : Inspector}
    {capture : Capture} (seen : event.sight config live = .ok (.captured capture))
    (ordinal : Nat) (missColumn : Bool) :
    (capture.record ordinal missColumn).ofDetection = decide (event = .mispredict) := by
  obtain ⟨_, _, recovery, _, -, -, -, read, -⟩ := sight_eq_ok_iff.mp seen
  have trigger : (capture.record ordinal missColumn).trigger = capture.trigger := rfl
  rw [Record.ofDetection, trigger]
  cases event with
  | mispredict =>
    rw [readTrigger] at read
    cases told : live.scalarAt recovery config.names.recoveryCycle with
    | error fault => rw [told] at read; cases read
    | ok cycle =>
      rw [told] at read
      rw [← Except.ok.inj read]
      rfl
  | recoveryEnd =>
    rw [← Except.ok.inj read]
    rfl

namespace Session

variable {σ φ : Type} [FileSystem σ φ]

/-- The record of a command for a detection is one that tells of a detection. -/
theorem detection?_runLine (session : Session σ φ) (line : String) (live : Inspector) :
    (detection? line (session.runLine line live).1).toList =
      (session.runLine line live).1.record?.toList.filter Record.ofDetection := by
  cases recorded : (session.runLine line live).1 with
  | recorded record =>
    obtain ⟨event, capture, parsed, seen, rfl⟩ := exists_captured_of_recorded recorded
    have told := Event.ofDetection_record seen
      (event.count session.counters capture.pivot.addr).1 session.config.columns.miss
    unfold detection? recordOf
    simp only [parsed, Outcome.record?, Option.toList_some, List.filter_singleton, told]
    cases event <;> rfl
  | _ => simp [detection?, Outcome.record?]

/-- The detections of a run are those of its records that tell of one. -/
theorem detections_runLines (session : Session σ φ) (steps : List (String × Inspector)) :
    detections (steps.zip (session.runLines steps).1) =
      (recordsOf (session.runLines steps).1).filter Record.ofDetection := by
  induction steps generalizing session with
  | nil => rfl
  | cons step rest ih =>
    obtain ⟨line, live⟩ := step
    rw [runLines_cons, List.zip_cons_cons, detections_cons, recordsOf_cons, List.filter_append, ih,
      detection?_runLine]

/-- The tally and the counters account for every run that starts in a session without a detection
and comes to its end. -/
theorem runLines_accounts {session : Session σ φ} (works : session.console.mode = .works)
    (undetected : session.counters = {}) {steps : List (String × Inspector)}
    (ended : .endless ∉ (session.runLines steps).1) :
    Accounts (session.runLines steps).1 (Tally.ofOutcomes (session.runLines steps).1)
      (session.runLines steps).2.counters.total (session.runLines steps).2.counters.hottest := by
  have none : Numbers session.counters [] := undetected ▸ numbers_nil
  have numbers := runLines_numbers works none steps
  rw [List.nil_append, detections_runLines] at numbers
  exact numbers.accounts ended

theorem console_stopLog (session : Session σ φ) :
    session.stopLog.2.console = session.console := by
  unfold stopLog
  split
  · rfl
  · split <;> rfl

end Session

/-! ## Stops -/

section Stops

variable {σ φ : Type} [FileSystem σ φ] {early late : String} {first second : Session σ φ}

/-- The command lines of a script, each with the live state at its stop. -/
def Script.lines (script : Script) : List (String × Inspector) :=
  script.stops.flatMap Stop.lines

theorem Script.length_lines (script : Script) :
    script.lines.length = (script.stops.flatMap Stop.commands).length := by
  simp [lines, Stop.lines, List.length_flatMap]

/-- What is noted between the stops does not reach their commands. -/
theorem Stop.runAll_agree (level : Session.Level early late first second)
    (config : first.config = second.config) (index : Nat) (stops : List Stop) :
    Agree (Session.Level early late) (Stop.runAll index stops first)
      (second.runLines (stops.flatMap Stop.lines)) := by
  induction stops generalizing first second index with
  | nil => exact ⟨rfl, level⟩
  | cons stop rest ih =>
    have noted : Session.Level early late
        (first.note (.replayingStop index (stop.label.getD "") stop.commands.length)) second :=
      ⟨level.counters, level.sink, level.files, level.console⟩
    obtain ⟨same, ran⟩ := noted.runLines config stop.lines
    have configured : (stop.run index first).2.config = (second.runLines stop.lines).2.config := by
      rw [Stop.run, Session.config_runLines, Session.config_runLines]
      exact config
    obtain ⟨later, after⟩ := ih ran configured (index + 1)
    rw [List.flatMap_cons, Session.runLines_append]
    exact ⟨congrArg₂ (· ++ ·) same later, after⟩

/-- The stops of a script come to one run of its command lines. -/
theorem Script.run_agree (script : Script) (session : Session σ φ) :
    Agree (Session.Level session.console.shown session.console.shown) (script.run session)
      (session.runLines script.lines) :=
  Stop.runAll_agree (.refl session) rfl 0 script.stops

end Stops

/-! ## The program -/

namespace CommandLine

variable {σ φ : Type} [FileSystem σ φ]

/-- A log that is open from the start changes neither the counters nor the console. -/
theorem startLog_steady {path : Option String} {before after : Session σ φ}
    (started : startLog path before = (.ok (), after)) : Session.Steady before after := by
  unfold startLog at started
  split at started
  · cases started
    exact .refl before
  · next path =>
    have steady := before.startLog_steady (some path)
    split at started
    · next opened => rw [opened] at steady; cases started; exact steady
    · cases started

/-- A file that can be read holds the script that its text gives. -/
theorem loadScript_of_read {path text : String} {files : σ} {script : Script}
    (read : FileSystem.read path files = .ok text) (given : Script.ofText text = .ok script) :
    loadScript path files = .ok script := by
  rw [loadScript, read]
  exact given

section Script

variable (request : ReplayRequest) (script : Script) {session : Session σ φ}

theorem runScript_eq_none_iff :
    runScript request script session = none ↔ .endless ∈ (script.run session).1 := by
  unfold runScript
  dsimp only
  split
  · next endless => exact iff_of_true rfl endless
  · next ended => exact iff_of_false (Option.some_ne_none _) ended

/-- Where standard output works, the end of a script is told by its outcomes and by the session
that they leave. -/
theorem runScript_of_works (works : (script.run session).2.console.mode = .works)
    (ended : .endless ∉ (script.run session).1) :
    let tally := Tally.ofOutcomes (script.run session).1
    let after := (script.run session).2
    runScript request script session = some
      ({ status := if 0 < tally.failed then 2 else 0
         output := after.console.shown ++
           if request.noSummary then "" else summary tally after.counters
         complaint := stopComplaint after.stopLog.1 },
        after.stopLog.2.around.files) := by
  intro tally after
  have console : after.stopLog.2.console = after.console := after.console_stopLog
  have counters : after.stopLog.2.counters = after.counters := after.stopLog_steady.counters
  unfold runScript
  dsimp only
  rw [if_neg ended, console, counters, works, Report.print_of_works]

/-- The summary has a line for each of the hottest addresses, and it says how many there are. -/
theorem summary_eq (tally : Tally) (counters : Counters) :
    summary tally counters =
      "\n[*] " ++ Text.decimal tally.recorded ++ " records, " ++ Text.decimal tally.skipped ++
      " skipped, " ++ Text.decimal tally.failed ++ " failed\n" ++
      "[*] Mispredictions: " ++ Text.decimal counters.total ++
      " across " ++ Text.decimal counters.hottest.length ++ " PCs\n" ++
      String.join (counters.hottest.map fun entry =>
        "    PC " ++ Text.leftJustify 18 entry.1.text ++ " #" ++ Text.decimal entry.2 ++ "\n") := by
  have size : counters.size = counters.hottest.length := counters.hottest_perm.length_eq.symm
  rw [← size]
  rfl

/-- A command failed just where the tally has one that did. -/
theorem failed_ofOutcomes_pos_iff (outcomes : List Outcome) :
    0 < (Tally.ofOutcomes outcomes).failed ↔ outcomes.any Outcome.isFailed = true := by
  rw [(Tally.counts_ofOutcomes outcomes).failed, List.countP_pos_iff, List.any_eq_true]

end Script

/-- A replay that starts ends as its script does. -/
theorem run_of_started {arguments : List String} {request : ReplayRequest} {files : σ}
    {config : Config} {script : Script} {session : Session σ φ} {stdout : ConsoleMode}
    (asked : Request.ofArguments arguments = some (.replay request))
    (configured : loadConfig request.config files = .ok config)
    (scripted : loadScript request.script files = .ok script)
    (started : startLog request.log { config, console := { mode := stdout }, around := { files } } =
      (.ok (), session)) :
    run arguments files stdout = runScript request script session := by
  simp only [run, asked, replay, configured, scripted, started]

/-- **A replay that starts has no end just when the walk of one of its events wanders**, however
standard output takes what is written to it. -/
theorem run_eq_none_iff {arguments : List String} {request : ReplayRequest} {files : σ}
    {config : Config} {script : Script} {session : Session σ φ} {stdout : ConsoleMode}
    (asked : Request.ofArguments arguments = some (.replay request))
    (configured : loadConfig request.config files = .ok config)
    (scripted : loadScript request.script files = .ok script)
    (started : startLog request.log { config, console := { mode := stdout }, around := { files } } =
      (.ok (), session)) :
    run arguments files stdout = none ↔
      ∃ step ∈ script.lines, ∃ event, Command.ofLine step.1 = .ok (.record event) ∧
        event.Wanders config step.2 := by
  have config : session.config = _ := (startLog_steady started).config
  rw [run_of_started asked configured scripted started, runScript_eq_none_iff,
    (script.run_agree session).1, Session.endless_mem_runLines_iff, config]

/-- **A replay accounts for its commands.**  Take a replay whose configuration and script can be
read and whose log, where it is asked for one, can be opened; let its standard output work, and
let no walk of its events wander.  It comes to an end.  Each command has one outcome, that of the
script's command lines run one after the other.  The tally, the number of detections and the
addresses that the summary shows account for these outcomes.  What the program writes ends with
that summary, unless it is left out: a blank line, the tally, the number of detections with the
number of addresses, and a line for each address.  In either case the status is 2 when a command
failed, and 0 otherwise. -/
theorem run_accounts {arguments : List String} {request : ReplayRequest} {files : σ}
    {config : Config} {script : Script} {session : Session σ φ}
    (asked : Request.ofArguments arguments = some (.replay request))
    (configured : loadConfig request.config files = .ok config)
    (scripted : loadScript request.script files = .ok script)
    (started : startLog request.log { config, around := { files } } = (.ok (), session))
    (comesBack : ∀ step ∈ script.lines, ∀ event, Command.ofLine step.1 = .ok (.record event) →
      ¬event.Wanders config step.2) :
    let outcomes := (session.runLines script.lines).1
    let shown := (session.runLines script.lines).2.console.shown
    let tally := Tally.ofOutcomes outcomes
    outcomes.length = (script.stops.flatMap Stop.commands).length ∧
    ∃ report later total ranking,
      run arguments files = some (report, later) ∧
      Accounts outcomes tally total ranking ∧
      report.output = shown ++ (if request.noSummary then "" else
        "\n[*] " ++ Text.decimal tally.recorded ++ " records, " ++ Text.decimal tally.skipped ++
        " skipped, " ++ Text.decimal tally.failed ++ " failed\n" ++
        "[*] Mispredictions: " ++ Text.decimal total ++
        " across " ++ Text.decimal ranking.length ++ " PCs\n" ++
        String.join (ranking.map fun entry =>
          "    PC " ++ Text.leftJustify 18 entry.1.text ++ " #" ++ Text.decimal entry.2 ++ "\n")) ∧
      report.status = if outcomes.any Outcome.isFailed then 2 else 0 := by
  intro outcomes shown tally
  have steady := startLog_steady started
  have config : session.config = _ := steady.config
  have works : session.console.mode = .works := steady.mode
  obtain ⟨same, level⟩ := script.run_agree session
  have ended : .endless ∉ outcomes := by
    rw [Session.endless_mem_runLines_iff, config]
    rintro ⟨step, member, event, parsed, wanders⟩
    exact comesBack step member event parsed wanders
  have accounts := Session.runLines_accounts works steady.counters ended
  have ran := runScript_of_works request script
    (level.console.mode.trans (session.mode_runLines works script.lines)) (same ▸ ended)
  dsimp only at ran
  rw [← run_of_started asked configured scripted started, same, level.counters,
    level.console.eq, summary_eq] at ran
  have length : outcomes.length = (script.stops.flatMap Stop.commands).length :=
    (session.length_runLines _).trans script.length_lines
  refine ⟨length, _, _, _, _, ran, accounts, rfl, ?_⟩
  simp only [failed_ofOutcomes_pos_iff, outcomes]

/-- The window with one op, under the names of a stock simulator. -/
def stockOp : Snapshot where
  globals := Session.oneOp.globals
  objects :=
    (Session.oneOp.objects.modify 0 fun op => op.insert "inst_info" (.ref ⟨0⟩)).modify 1
      fun window => (window.insert "rs" (.ref ⟨1⟩)).insert "rs_op_count" (.scalar 1)

/-- A script of one stop, with a detection, a recovery, a log that is not there, and no command. -/
def stockScript : Script where
  stops :=
    [{ commands := ["log_mispred", "log_recovery_end", "stop_log", "log"], state := stockOp }]

/-- A configuration under which walks may visit four entries. -/
def shortWalks : Config := { general := { maxWalk := some 4 } }

/-- A working folder in which a script and a configuration are kept. -/
def replayFolder (script : Script) (config : Config) : Storage.Directory where
  entries := [(Storage.Directory.place "script.json", .file 0),
    (Storage.Directory.place "config.json", .file 1)]
  contents := #[script.document.compact.toByteArray, config.document.compact.toByteArray]

theorem loadScript_replayFolder {script : Script} (worded : script.Worded) (config : Config) :
    loadScript "script.json" (replayFolder script config) = .ok script :=
  loadScript_of_read
    (Storage.Directory.read_of_file (by decide +kernel) _ (by decide +kernel) rfl rfl)
    (Script.ofText_compact worded)

theorem loadConfig_replayFolder (script : Script) (config : Config) :
    loadConfig (some "config.json") (replayFolder script config) = .ok config :=
  Config.loadConfig_of_read
    (Storage.Directory.read_of_file (by decide +kernel) _ (by decide +kernel) rfl rfl)
    (Config.ofText_compact config)

theorem worded_stockScript : stockScript.Worded := by
  have worded : stockOp.Worded := ⟨by decide +kernel, by decide +kernel⟩
  simpa [Script.Worded, stockScript] using worded

/-- The folder with this script and this configuration. -/
def stockFolder : Storage.Directory := replayFolder stockScript shortWalks

/-- The session in which the script is replayed. -/
def stockSession : Session Storage.Directory Storage.OpenFile where
  config := shortWalks
  around := { files := stockFolder }

/-- Both records are told of in the summary, one of them as a detection, and the command that
fails makes the status. -/
theorem run_accounts_stockScript :
    let arguments := ["replay", "script.json", "--config", "config.json"]
    Request.ofArguments arguments =
        some (.replay { script := "script.json", config := some "config.json" }) ∧
      loadConfig (some "config.json") stockFolder = .ok shortWalks ∧
      loadScript "script.json" stockFolder = .ok stockScript ∧
      (∀ step ∈ stockScript.lines, ∀ event, Command.ofLine step.1 = .ok (.record event) →
        ¬event.Wanders shortWalks step.2) ∧
      ∃ report later, run arguments stockFolder = some (report, later) ∧ report.status = 2 ∧
        report.output = (stockSession.runLines stockScript.lines).2.console.shown ++
          ("\n[*] 2 records, 0 skipped, 1 failed\n[*] Mispredictions: 1 across 1 PCs\n" ++
            "    PC 0x10               #1\n") := by
  intro arguments
  have asked : Request.ofArguments arguments =
      some (.replay { script := "script.json", config := some "config.json" }) := by decide +kernel
  have configured : loadConfig (some "config.json") stockFolder = .ok shortWalks :=
    loadConfig_replayFolder stockScript shortWalks
  have scripted : loadScript "script.json" stockFolder = .ok stockScript :=
    loadScript_replayFolder worded_stockScript shortWalks
  have started : startLog none { config := shortWalks, around := { files := stockFolder } } =
      (.ok (), stockSession) := rfl
  have comesBack : ∀ step ∈ stockScript.lines, ∀ event,
      Command.ofLine step.1 = .ok (.record event) → ¬event.Wanders shortWalks step.2 :=
    fun _ _ _ _ => Event.not_wanders_of_limit rfl
  obtain ⟨-, report, later, total, ranking, ran, accounts, output, status⟩ :=
    run_accounts asked configured scripted started comesBack
  have detected : detectedAt (stockSession.runLines stockScript.lines).1 = [⟨16⟩] := by
    decide +kernel
  have sole : Counters.Ranks [(⟨16⟩, 1)] [⟨16⟩] := by
    refine ⟨fun entry => ?_, by simp, by simp⟩
    rw [List.mem_singleton, List.mem_singleton, Prod.ext_iff]
    exact and_congr_right fun here => by simp [here]
  obtain rfl : ranking = [(⟨16⟩, 1)] := accounts.ranks.unique sole (by rw [detected])
  obtain rfl : total = 1 := by
    rw [accounts.detections, detected, List.length_singleton]
  refine ⟨asked, configured, scripted, comesBack, report, later, ran, ?_, ?_⟩
  · exact status.trans (if_pos (by decide +kernel))
  · exact output.trans (congrArg _ (by decide +kernel))

/-- A script with one command, which has no log to stop. -/
def unloggedScript : Script where
  stops := [{ commands := ["stop_log"] }]

/-- A script with a detection in a window whose only op is followed by itself. -/
def ringScript : Script where
  stops := [{ commands := ["log_mispred"], state := Session.oneOpRing }]

/-- Three replays that do not account for their commands: standard output refuses the summary, and
the status is that of no command; it shows a record and fails to flush, and a detection is summed
up that no record tells of; it works, and a walk never comes back. -/
theorem run_unaccounted :
    let arguments := ["replay", "script.json", "--config", "config.json"]
    let unlogged := replayFolder unloggedScript shortWalks
    let ring := replayFolder ringScript Session.unlimitedDetection.config
    let refusing : Session Storage.Directory Storage.OpenFile :=
      { config := shortWalks, console := { mode := .writeFails }, around := { files := unlogged } }
    let unflushed : Session Storage.Directory Storage.OpenFile :=
      { stockSession with console := { mode := .flushFails } }
    (∃ later, run arguments unlogged .writeFails = some ({ status := 101 }, later) ∧
      (refusing.runLines unloggedScript.lines).1 = [.notActive]) ∧
      (∃ report later, run arguments stockFolder .flushFails = some (report, later) ∧
        recordsOf (unflushed.runLines stockScript.lines).1 = [] ∧
        report.output = (unflushed.runLines stockScript.lines).2.console.shown ++
          ("\n[*] 0 records, 0 skipped, 3 failed\n[*] Mispredictions: 1 across 1 PCs\n" ++
            "    PC 0x10               #1\n")) ∧
      run arguments ring .works = none := by
  intro arguments unlogged ring refusing unflushed
  have asked : Request.ofArguments arguments =
      some (.replay { script := "script.json", config := some "config.json" }) := by decide +kernel
  have worded : unloggedScript.Worded ∧ ringScript.Worded := by
    have empty : ({} : Snapshot).Worded := ⟨by decide +kernel, by decide +kernel⟩
    have looped : Session.oneOpRing.Worded := ⟨by decide +kernel, by decide +kernel⟩
    exact ⟨by simpa [Script.Worded, unloggedScript] using empty,
      by simpa [Script.Worded, ringScript] using looped⟩
  refine ⟨?_, ?_, ?_⟩
  · have started : startLog none refusing = (.ok (), refusing) := rfl
    have ended : (runScript { script := "script.json", config := some "config.json" }
        unloggedScript refusing).map Prod.fst = some { status := 101 } := by decide +kernel
    obtain ⟨⟨report, later⟩, ran, rfl⟩ := Option.map_eq_some_iff.mp ended
    exact ⟨later, (run_of_started asked (loadConfig_replayFolder unloggedScript _)
      (loadScript_replayFolder worded.1 _) started).trans ran, by decide +kernel⟩
  · have started : startLog none unflushed = (.ok (), unflushed) := rfl
    have ended : (runScript { script := "script.json", config := some "config.json" } stockScript
        unflushed).map (fun left => left.1.output) =
          some ((unflushed.runLines stockScript.lines).2.console.shown ++
            ("\n[*] 0 records, 0 skipped, 3 failed\n[*] Mispredictions: 1 across 1 PCs\n" ++
              "    PC 0x10               #1\n")) := by decide +kernel
    obtain ⟨⟨report, later⟩, ran, output⟩ := Option.map_eq_some_iff.mp ended
    exact ⟨report, later, (run_of_started asked (loadConfig_replayFolder stockScript _)
      (loadScript_replayFolder worded_stockScript _) started).trans ran, by decide +kernel, output⟩
  · have started : startLog none
        { config := Session.unlimitedDetection.config, around := { files := ring } } =
          (.ok (), { config := Session.unlimitedDetection.config, around := { files := ring } }) :=
      rfl
    rw [run_eq_none_iff asked (loadConfig_replayFolder ringScript _)
      (loadScript_replayFolder worded.2 _) started]
    exact ⟨("log_mispred", Session.oneOpRing.inspector), List.mem_singleton_self _, .mispredict,
      by decide +kernel, Session.wanders_oneOpRing⟩

end CommandLine

end Inflight
