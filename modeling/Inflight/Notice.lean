import Inflight.Config
import Inflight.Fault
import Inflight.Window.Census

/-!
# Notices

Beside records and messages a session leaves notices, which tell a maintainer
how it went.  A notice has a level, a fixed message and named values.
-/

namespace Inflight

set_option autoImplicit false

/-- How much a notice matters. -/
inductive Level where
  /-- Of interest only when something is looked for. -/
  | debug
  /-- A step that went well. -/
  | info
  /-- Something that should not have happened. -/
  | warn
deriving DecidableEq, Repr

/-- The name of a level. -/
def Level.name : Level → String
  | .debug => "DEBUG"
  | .info => "INFO"
  | .warn => "WARN"

/-- One notice. -/
inductive Notice where
  /-- A window was walked to its end. -/
  | windowClassified (census : Census)
  /-- A walk did not meet the pivot. -/
  | pivotNotInFlight (pivot : Handle) (cycle : UInt64)
  /-- An event was skipped because of its cycle. -/
  | outsideCycleWindow (event : String) (cycle : UInt64) (window : CycleWindow)
  | commandFailed (command : String) (fault : Fault)
  /-- A log could not be closed before the next one was opened. -/
  | closingPreviousFailed (path : String) (fault : Fault)
  /-- A record could not be written to the log. -/
  | logWriteFailed (path : String) (fault : Fault)
  /-- A message could not be shown. -/
  | consoleWriteFailed (cause : Storage.Fault)
  | logOpened (path : String)
  | logClosed (path : String)
  /-- A log was given up, and with it the bytes that had not been written. -/
  | logAbandoned (path : String) (dropped : Nat)
  /-- A stop of a replay begins. -/
  | replayingStop (index : Nat) (label : String) (commands : Nat)
deriving DecidableEq

namespace Notice

/-- The level of a notice. -/
def level : Notice → Level
  | .windowClassified _ => .debug
  | .pivotNotInFlight _ _ => .warn
  | .outsideCycleWindow _ _ _ => .debug
  | .commandFailed _ _ => .warn
  | .closingPreviousFailed _ _ => .warn
  | .logWriteFailed _ _ => .warn
  | .consoleWriteFailed _ => .warn
  | .logOpened _ => .info
  | .logClosed _ => .info
  | .logAbandoned _ _ => .warn
  | .replayingStop _ _ _ => .info

/-- The message of a notice. -/
def message : Notice → String
  | .windowClassified _ => "window classified"
  | .pivotNotInFlight _ _ => "pivot op not in flight; all entries counted before it"
  | .outsideCycleWindow _ _ _ => "outside cycle window; skipped"
  | .commandFailed _ _ => "command failed"
  | .closingPreviousFailed _ _ => "closing previous log failed"
  | .logWriteFailed _ _ => "log write failed; logging stopped"
  | .consoleWriteFailed _ => "console write failed"
  | .logOpened _ => "log sink opened"
  | .logClosed _ => "log sink closed"
  | .logAbandoned _ _ => "log sink abandoned"
  | .replayingStop _ _ _ => "replaying stop"

/-- The named values of a notice, in order. -/
def fields : Notice → List (String × String)
  | .windowClassified census =>
    [("visited", Text.decimal census.visited), ("before", Text.decimal census.before),
     ("after", Text.decimal census.after), ("rs_on", Text.decimal census.rsOnPath),
     ("rs_off", Text.decimal census.rsOffPath)]
  | .pivotNotInFlight pivot cycle =>
    [("pivot", pivot.text), ("cycle", Text.decimal cycle.toNat)]
  | .outsideCycleWindow event cycle window =>
    [("event", event), ("cycle", Text.decimal cycle.toNat),
     ("start", Text.decimal window.start.toNat), ("stop", Text.decimal window.stop.toNat)]
  | .commandFailed command fault => [("command", command), ("error", fault.message)]
  | .closingPreviousFailed path fault => [("path", path), ("error", fault.message)]
  | .logWriteFailed path fault => [("path", path), ("error", fault.message)]
  | .consoleWriteFailed cause => [("error", cause.message)]
  | .logOpened path => [("path", path)]
  | .logClosed path => [("path", path)]
  | .logAbandoned path dropped => [("path", path), ("dropped", Text.decimal dropped)]
  | .replayingStop index label commands =>
    [("stop", Text.decimal index), ("label", label), ("commands", Text.decimal commands)]

end Notice

/-- The notices that a finished walk around a pivot leaves. -/
def Census.notices (census : Census) (pivot : Handle) (cycle : UInt64) : List Notice :=
  .windowClassified census ::
    (if census.pivotFound then [] else [.pivotNotInFlight pivot cycle])

end Inflight
