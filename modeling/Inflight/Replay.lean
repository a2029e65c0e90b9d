import Inflight.Session.Command
import Inflight.Snapshot.Document

/-!
# Replays

A replay script stands in for a live simulator.  Each of its stops holds a
snapshot, taken where the simulator stopped, and the commands to run there.  The
session lasts over all stops, and the outcomes are tallied.
-/

namespace Inflight

set_option autoImplicit false

open Json (Field Reader Shape)
open Storage (FileSystem)

/-- One stop of the simulator. -/
structure Stop where
  /-- What the stop is called in notices. -/
  label : Option String := none
  /-- The command lines to run, in order. -/
  commands : List String := []
  state : Snapshot := {}

/-- A replay script. -/
structure Script where
  stops : List Stop := []

/-! ## Reading -/

/-- The shape of a stop. -/
def Stop.shape : Shape Stop where
  title := "struct Stop"
  blank := {}
  fields :=
    [.defaulted "label" Reader.text.optional fun label stop => { stop with label },
     .needed "commands" Reader.text.list fun commands stop => { stop with commands },
     .needed "state" Snapshot.shape.read fun state stop => { stop with state }]

/-- The shape of a script. -/
def Script.shape : Shape Script where
  title := "struct ReplayScript"
  blank := {}
  fields := [.needed "stops" Stop.shape.read.list fun stops script => { script with stops }]

/-- Reads a script from the text of a document. -/
def Script.ofText (text : String) : Except Fault Script :=
  (Reader.ofText Script.shape.read text).mapError .document

/-! ## Running -/

/-- How many commands recorded an event, skipped one, or failed. -/
structure Tally where
  recorded : Nat := 0
  /-- The events outside the cycles that are recorded. -/
  skipped : Nat := 0
  failed : Nat := 0
deriving DecidableEq, Repr

/-- Counts one more outcome.  Commands that start or stop a log are not counted, nor is one that
never comes back. -/
def Tally.add (tally : Tally) : Outcome → Tally
  | .recorded _ => { tally with recorded := tally.recorded + 1 }
  | .skipped => { tally with skipped := tally.skipped + 1 }
  | .failed _ => { tally with failed := tally.failed + 1 }
  | .logging _ => tally
  | .stopped _ => tally
  | .notActive => tally
  | .endless => tally

/-- The tally of a row of outcomes. -/
def Tally.ofOutcomes (outcomes : List Outcome) : Tally :=
  outcomes.foldl Tally.add {}

section Running

variable {σ φ : Type} [FileSystem σ φ]

/-- The command lines of a stop, each with the live state there. -/
def Stop.lines (stop : Stop) : List (String × Inspector) :=
  stop.commands.map fun line => (line, stop.state.inspector)

/-- Runs the commands of a stop, the given number of stops after the first. -/
def Stop.run (stop : Stop) (index : Nat) (session : Session σ φ) : List Outcome × Session σ φ :=
  (session.note (.replayingStop index (stop.label.getD "") stop.commands.length)).runLines
    stop.lines

/-- Runs stops, the first of which has the given number. -/
def Stop.runAll : (index : Nat) → List Stop → Session σ φ → List Outcome × Session σ φ
  | _, [], session => ([], session)
  | index, stop :: rest, session =>
    let (outcomes, session) := stop.run index session
    let (later, session) := Stop.runAll (index + 1) rest session
    (outcomes ++ later, session)

/-- Runs the stops of a script in one session; gives what each command did. -/
def Script.run (script : Script) (session : Session σ φ) : List Outcome × Session σ φ :=
  Stop.runAll 0 script.stops session

end Running

end Inflight
