import Inflight.CommandLine.Arguments
import Inflight.Config.Document
import Inflight.Replay

/-!
# Runs of the program

What the program does with a request, on any file system.  A replay reads the
configuration, then the script, and then opens the log; what cannot be read or
opened ends it with status 1.  A replay that ran to its end has status 2 when a
command failed, and one with a command that never comes back has no end.

Standard output takes what is written as any console does.  During a replay a text
that it refuses is the failure of a command; at the end of the program there is
none to report it, and the program breaks off with status 101.
-/

namespace Inflight.CommandLine

set_option autoImplicit false

open Storage (FileSystem)

/-- The name of the program with its version. -/
def versionText : String := "recprobe 0.3.0"

/-- The complaint about arguments that are not understood. -/
def usage : String :=
  "Usage: recprobe replay <script> [--config <file>] [--log <file>] [--no-summary]\n" ++
  "       recprobe check-config <file>\n" ++
  "       recprobe --version\n"

/-- What a run of the program leaves: its status, and what it wrote. -/
structure Report where
  status : UInt32 := 0
  /-- What it wrote to standard output. -/
  output : String := ""
  /-- What it wrote to standard error. -/
  complaint : String := ""
deriving DecidableEq, Repr

/-- The report of a run that could not start. -/
def Report.refusal (complaint : String) : Report :=
  { status := 1, complaint := complaint ++ "\n" }

/-- Prints a text at the end of the program, which breaks off when the text is refused. -/
def Report.print (report : Report) (stdout : ConsoleMode) (text : String) : Report :=
  if stdout = .writeFails ∧ text ≠ "" then { report with status := 101 }
  else { report with output := report.output ++ text }

/-- A standard output that works shows every text. -/
@[simp] theorem Report.print_of_works (report : Report) (text : String) :
    report.print .works text = { report with output := report.output ++ text } := by
  simp [print]

/-- One line of the summary: an address and its count. -/
def summaryLine (entry : Address × Nat) : String :=
  "    PC " ++ Text.leftJustify 18 entry.1.text ++ " #" ++ Text.decimal entry.2 ++ "\n"

/-- The summary of a replay: the tally, the number of detections, and the addresses they were
made at, the hottest first. -/
def summary (tally : Tally) (counters : Counters) : String :=
  "\n[*] " ++ Text.decimal tally.recorded ++ " records, " ++ Text.decimal tally.skipped ++
  " skipped, " ++ Text.decimal tally.failed ++ " failed\n" ++
  "[*] Mispredictions: " ++ Text.decimal counters.total ++
  " across " ++ Text.decimal counters.size ++ " PCs\n" ++
  String.join (counters.hottest.map summaryLine)

section Running

variable {σ φ : Type} [FileSystem σ φ]

/-- Reads the configuration under a path; without a path it has the defaults. -/
def loadConfig (path : Option String) (files : σ) : Except Fault Config :=
  match path with
  | none => .ok {}
  | some path =>
    match FileSystem.read path files with
    | .error cause => .error (.storage cause)
    | .ok text => Config.ofText text

/-- Reads the script under a path. -/
def loadScript (path : String) (files : σ) : Except Fault Script :=
  match FileSystem.read path files with
  | .error cause => .error (.storage cause)
  | .ok text => Script.ofText text

/-- The path of the log that a command line asks for. -/
def logOfLine (line : String) : Option String :=
  match Command.ofLine line with
  | .ok (.startLog path) => path.map Text.trim
  | _ => none

/-- The paths of the logs that a request may write. -/
def logPaths (request : Request) (files : σ) : List String :=
  match request with
  | .replay request =>
    let lines := match loadScript request.script files with
      | .ok script => script.stops.flatMap Stop.commands
      | .error _ => []
    (request.log.map Text.trim).toList ++ lines.filterMap logOfLine
  | _ => []

/-- Starts the log that a replay was asked for. -/
def startLog (path : Option String) (session : Session σ φ) :
    Except Fault Unit × Session σ φ :=
  match path with
  | none => (.ok (), session)
  | some path =>
    match session.startLog (some path) with
    | (.ok _, session) => (.ok (), session)
    | (.error fault, session) => (.error fault, session)

/-- What is complained of when the log could not be closed. -/
def stopComplaint (stopped : Except Fault (Option String)) : String :=
  match stopped with
  | .ok _ => ""
  | .error fault => "Error closing log: " ++ fault.message ++ "\n"

/-- Runs a script in a session, stops the log, and sums up.  There is no report when a command
never comes back. -/
def runScript (request : ReplayRequest) (script : Script) (session : Session σ φ) :
    Option (Report × σ) :=
  let (outcomes, session) := script.run session
  if .endless ∈ outcomes then none
  else
    let tally := Tally.ofOutcomes outcomes
    let (stopped, session) := session.stopLog
    let closing := if request.noSummary then "" else summary tally session.counters
    let report : Report :=
      { status := if 0 < tally.failed then 2 else 0
        output := session.console.shown
        complaint := stopComplaint stopped }
    some (report.print session.console.mode closing, session.around.files)

/-- Replays a script.  The configuration is read first, then the script; then the log is
opened. -/
def replay (request : ReplayRequest) (files : σ) (stdout : ConsoleMode) : Option (Report × σ) :=
  match loadConfig request.config files with
  | .error fault =>
    some (.refusal ("Error reading config " ++ request.config.getD "" ++ ": " ++ fault.message),
      files)
  | .ok config =>
    match loadScript request.script files with
    | .error fault =>
      some (.refusal ("Error reading script " ++ request.script ++ ": " ++ fault.message), files)
    | .ok script =>
      match startLog request.log { config, console := { mode := stdout }, around := { files } } with
      | (.error fault, session) => some (.refusal fault.message, session.around.files)
      | (.ok (), session) => runScript request script session

/-- Shows the configuration under a path with all its defaults. -/
def checkConfig (path : String) (files : σ) (stdout : ConsoleMode := .works) : Report :=
  match loadConfig (some path) files with
  | .error fault => .refusal ("Error reading config " ++ path ++ ": " ++ fault.message)
  | .ok config => ({} : Report).print stdout (config.document.pretty ++ "\n")

/-- Runs the program; arguments that are not understood are complained of with status 2.  There is
no report of a run that has no end. -/
def run (arguments : List String) (files : σ) (stdout : ConsoleMode := .works) :
    Option (Report × σ) :=
  match Request.ofArguments arguments with
  | none => some ({ status := 2, complaint := usage }, files)
  | some .version => some ({ output := stdout.shows (versionText ++ "\n") }, files)
  | some (.checkConfig path) => some (checkConfig path files stdout, files)
  | some (.replay request) => replay request files stdout

end Running

end Inflight.CommandLine
