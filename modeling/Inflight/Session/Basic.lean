import Inflight.Event
import Inflight.Log.Sink
import Inflight.Text.Blank

/-!
# Sessions

A session holds what lasts from one command to the next: the counters, the log
sink when one is open, and the console.  Records and messages always go to the
console, and records also to the sink.  The console's copy of a record is the
one that matters: a sink that fails is given up with a message, and the record
still counts as written.
-/

namespace Inflight

set_option autoImplicit false

open Log (Sink Surroundings)
open Storage (FileSystem)

/-! ## The console -/

/-- How a console takes what is written to it. -/
inductive ConsoleMode where
  /-- It shows every text. -/
  | works
  /-- It refuses every text. -/
  | writeFails
  /-- It shows every text and then fails to flush. -/
  | flushFails
deriving DecidableEq, Repr

/-- What is shown of a text. -/
def ConsoleMode.shows (mode : ConsoleMode) (text : String) : String :=
  match mode with
  | .writeFails => ""
  | _ => text

/-- A console, with all that it has shown. -/
structure Console where
  /-- How it takes what is written to it. -/
  mode : ConsoleMode := .works
  /-- What it has shown. -/
  shown : String := ""
deriving DecidableEq

/-- Shows a text.  An empty text is never refused, and a refused one is not flushed. -/
def Console.write (console : Console) (text : String) : Except Storage.Fault Unit × Console :=
  match console.mode with
  | .works => (.ok (), { console with shown := console.shown ++ text })
  | .writeFails => (if text = "" then .ok () else .error .consoleWrite, console)
  | .flushFails => (.error .consoleFlush, { console with shown := console.shown ++ text })

/-! ## Sessions -/

/-- The state of a session over a file system. -/
structure Session (σ φ : Type) where
  config : Config
  /-- The number of detections at each address. -/
  counters : Counters := {}
  sink : Option (Sink φ) := none
  console : Console := {}
  /-- The file system and the notices. -/
  around : Surroundings σ

namespace Session

variable {σ φ : Type} (session : Session σ φ)

/-- The path of the open log. -/
def logPath : Option String := session.sink.map Sink.path

/-- Leaves a notice. -/
def note (notice : Notice) : Session σ φ :=
  { session with around := session.around.note notice }

/-- Shows a message line.  That it could not be shown is only noted. -/
def report (message : String) : Session σ φ :=
  match session.console.write (message ++ "\n") with
  | (.ok (), console) => { session with console }
  | (.error cause, console) => { session with console }.note (.consoleWriteFailed cause)

variable [FileSystem σ φ]

/-! ## Starting and stopping the log -/

/-- The usage of the command that starts a log. -/
def startUsage : String := "start_log <filename>"

/-- Closes the log before another one is opened.  A failure is reported. -/
def closePrevious : Session σ φ :=
  match session.sink with
  | none => session
  | some sink =>
    match sink.close session.around with
    | (.ok _, around) => { session with sink := none, around }
    | (.error fault, around) =>
      ({ session with sink := none, around }.note (.closingPreviousFailed sink.path fault)).report
        ("Error closing log " ++ sink.path ++ ": " ++ fault.message)

/-- Starts a log under a path without blanks at its ends, in the place of the one before.  Where
the file cannot be opened no log is left. -/
def openLog (path : String) : Except Fault String × Session σ φ :=
  let session := session.closePrevious
  match Sink.openAt path session.around with
  | (.error fault, around) => (.error fault, { session with around })
  | (.ok sink, around) => (.ok sink.path, { session with sink := some sink, around })

/-- Starts a log.  Without a path, or with a blank one, nothing changes. -/
def startLog (path : Option String) : Except Fault String × Session σ φ :=
  let path := Text.trim (path.getD "")
  if path = "" then (.error (.missingArgument startUsage), session) else session.openLog path

/-- Stops the log; gives its path when there was one. -/
def stopLog : Except Fault (Option String) × Session σ φ :=
  match session.sink with
  | none => (.ok none, session)
  | some sink =>
    match sink.close session.around with
    | (.ok path, around) => (.ok (some path), { session with sink := none, around })
    | (.error fault, around) => (.error fault, { session with sink := none, around })

/-! ## Writing records -/

/-- Writes a record to the log.  A log that fails is given up with a message. -/
def logRecord (text : String) : Session σ φ :=
  match session.sink with
  | none => session
  | some sink =>
    match sink.write text session.around.files with
    | (.ok (), sink, files) =>
      { session with sink := some sink, around := { session.around with files } }
    | (.error cause, sink, files) =>
      let fault := Fault.storage cause
      let around := sink.abandon { session.around with files }
      ({ session with sink := none, around }.note (.logWriteFailed sink.path fault)).report
        ("Error writing log " ++ sink.path ++ ": " ++ fault.message ++ ". Logging stopped.")

/-- Shows a record and writes it to the log.  Only a failing console is a fault. -/
def emit (text : String) : Except Fault Unit × Session σ φ :=
  match session.console.write text with
  | (.error cause, console) => (.error (.storage cause), { session with console })
  | (.ok (), console) => (.ok (), { session with console }.logRecord text)

/-! ## Recording events -/

/-- Records an event; gives no record when its cycle is not recorded.  Nothing is left of an
event whose walk never comes back, not even an end. -/
def handle (event : Event) (live : Inspector) :
    Option (Except Fault (Option Record) × Session σ φ) :=
  match event.sight session.config live with
  | .error fault => some (.error fault, session)
  | .ok .endless => none
  | .ok (.outside cycle) =>
    some (.ok none,
      session.note
        (.outsideCycleWindow event.name cycle session.config.general.cycleWindow))
  | .ok (.captured capture) =>
    let notices := capture.census.notices capture.pivot.handle capture.cycle
    let session := notices.foldl note session
    let (ordinal, counters) := event.count session.counters capture.pivot.addr
    let record := capture.record ordinal session.config.columns.miss
    match { session with counters }.emit record.text with
    | (.error fault, session) => some (.error fault, session)
    | (.ok (), session) => some (.ok (some record), session)

end Session

end Inflight
