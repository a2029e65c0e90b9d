import Inflight.Session.Basic

/-!
# Commands

A session is driven by four commands.  A command line is a name, and what
follows the name's first blank, trimmed, is the argument; only the command that
starts a log looks at it.  A command that fails is reported, and the session
goes on.  A command that never comes back leaves the session as it was, and the
session goes on only if the command is broken off.
-/

namespace Inflight

set_option autoImplicit false

open Storage (FileSystem)

/-! ## Command lines -/

/-- A command. -/
inductive Command where
  /-- Starts a log; the path is none when it was left out. -/
  | startLog (path : Option String)
  | stopLog
  | record (event : Event)
deriving DecidableEq, Repr

namespace Command

/-- The names of the commands. -/
def names : List String :=
  ["start_log", "stop_log", "log_mispred", "log_recovery_end"]

/-- The name of a command. -/
def name : Command → String
  | .startLog _ => "start_log"
  | .stopLog => "stop_log"
  | .record .mispredict => "log_mispred"
  | .record .recoveryEnd => "log_recovery_end"

/-- The name and the argument of a command line.  An argument of blanks is none. -/
def splitLine (line : String) : String × Option String :=
  let (name, rest) := Text.cutAtBlank (Text.trimChars line.toList)
  let argument := Text.trimChars (rest.getD [])
  (String.ofList name, if argument = [] then none else some (String.ofList argument))

/-- The blanks around an argument go, and those inside it stay. -/
example : splitLine " start_log \t two  words.log " = ("start_log", some "two  words.log") := by
  decide +kernel

/-- A line of blanks has an empty name, and a name glued to other text is another name. -/
example : splitLine "\u3000" = ("", none) ∧ splitLine "stop_log;" = ("stop_log;", none) := by
  decide +kernel

/-- The command of a given name with its argument. -/
def ofName (argument : Option String) : String → Except Fault Command
  | "start_log" => .ok (.startLog argument)
  | "stop_log" => .ok .stopLog
  | "log_mispred" => .ok (.record .mispredict)
  | "log_recovery_end" => .ok (.record .recoveryEnd)
  | name => .error (.unknownCommand name)

/-- Reads a command line. -/
def ofLine (line : String) : Except Fault Command :=
  let (name, argument) := splitLine line
  ofName argument name

end Command

/-! ## Running commands -/

/-- What a command did. -/
inductive Outcome where
  /-- A log is open under the path. -/
  | logging (path : String)
  /-- The log under the path was closed. -/
  | stopped (path : String)
  | notActive
  | recorded (record : Record)
  /-- The event lies outside the cycles that are recorded. -/
  | skipped
  /-- The command failed, and the failure was reported. -/
  | failed (fault : Fault)
  /-- The command never comes back: it walks a window that has no end. -/
  | endless
deriving DecidableEq

/-- How a failed command is reported.  Most faults are met while live state is read. -/
def Fault.report (fault : Fault) : String :=
  match fault with
  | .missingArgument _ => fault.message
  | .logNotOpened _ _ => fault.message
  | .storage _ => "Error writing log: " ++ fault.message
  | .unknownCommand _ =>
    fault.message ++ " (expected one of: " ++ ", ".intercalate Command.names ++ ")"
  | _ => "Error accessing simulator state: " ++ fault.message

namespace Session

variable {σ φ : Type} (session : Session σ φ)

/-- Reports a failure of a command. -/
def fail (command : String) (fault : Fault) : Outcome × Session σ φ :=
  (.failed fault, (session.note (.commandFailed command fault)).report fault.report)

variable [FileSystem σ φ]

/-- Runs a command on live state. -/
def execute (command : Command) (live : Inspector) : Outcome × Session σ φ :=
  match command with
  | .startLog path =>
    match session.startLog path with
    | (.ok path, session) => (.logging path, session.report ("Logging to '" ++ path ++ "'"))
    | (.error fault, session) => session.fail command.name fault
  | .stopLog =>
    match session.stopLog with
    | (.ok (some path), session) => (.stopped path, session.report "Stopped logging.")
    | (.ok none, session) => (.notActive, session.report "Logging is not active.")
    | (.error fault, session) => session.fail command.name fault
  | .record event =>
    match session.handle event live with
    | none => (.endless, session)
    | some (.ok (some record), session) => (.recorded record, session)
    | some (.ok none, session) => (.skipped, session)
    | some (.error fault, session) => session.fail command.name fault

/-- Reads a command line and runs it on live state. -/
def runLine (line : String) (live : Inspector) : Outcome × Session σ φ :=
  match Command.ofLine line with
  | .ok command => session.execute command live
  | .error fault => session.fail "command" fault

/-- Runs command lines one after the other, each on live state of its own; gives what each did.
Where one never comes back, those behind it do what they do once it is broken off. -/
def runLines : Session σ φ → List (String × Inspector) → List Outcome × Session σ φ
  | session, [] => ([], session)
  | session, (line, live) :: rest =>
    let (outcome, session) := session.runLine line live
    let (outcomes, session) := runLines session rest
    (outcome :: outcomes, session)

end Session

end Inflight
