import Inflight.Counters
import Inflight.Record
import Inflight.Snapshot.Basic
import Inflight.Window.Walk

/-!
# Events

Two events are recorded: that a misprediction was detected, and that a recovery
is complete.  At a detection the pivot is the current op; at the end of a
recovery it is the op that was recovered.  What an event shows is read from live
state alone, all of it before anything is counted or written, so a read that
fails leaves nothing behind, and neither does a walk that never comes back.
-/

namespace Inflight

set_option autoImplicit false

/-- What happened in the simulator. -/
inductive Event where
  | mispredict
  | recoveryEnd
deriving DecidableEq, Repr

/-- The name of an event in notices. -/
def Event.name : Event → String
  | .mispredict => "mispredict"
  | .recoveryEnd => "recovery_end"

/-- All that is read for a record. -/
structure Capture where
  trigger : Trigger
  pivot : Op
  cycle : UInt64
  fetchAddr : Address
  /-- The size of the window, as the simulator reports it. -/
  windowTotal : UInt64
  /-- The size of the scheduling window, as the simulator reports it. -/
  rsTotal : UInt64
  /-- What the oracle knows of the pivot, when it is to be told. -/
  oracle : Option OracleColumns
  census : Census
deriving DecidableEq

/-- The record of what was read, with the number of detections at the pivot's address. -/
def Capture.record (capture : Capture) (ordinal : Nat) (missColumn : Bool) : Record where
  trigger := capture.trigger
  addr := capture.pivot.addr
  ordinal
  cycle := capture.cycle
  opNum := capture.pivot.opNum
  offPath := capture.pivot.offPath
  fetchAddr := capture.fetchAddr
  census := capture.census
  windowTotal := capture.windowTotal
  rsTotal := capture.rsTotal
  missColumn
  oracle := capture.oracle

/-- What an event shows. -/
inductive Sighting where
  /-- The event lies outside the cycles that are recorded. -/
  | outside (cycle : UInt64)
  | captured (capture : Capture)
  /-- The window has no end, and the walk over it never comes back. -/
  | endless

/-- Reads what the oracle knows of an op. -/
def OracleColumns.read (live : Inspector) (names : Names) (op : Handle) :
    Except Fault OracleColumns := do
  let oracle ← Oracle.read live names op
  let confCounter ← oracle.confCounter live names
  return { oracle, confCounter }

/-- The walker that a configuration asks for. -/
def Config.walker (config : Config) (live : Inspector) : Walker where
  live
  names := config.names
  limit := config.general.maxWalk.map UInt64.toNat

/-- Reads the pivot, the redirect, the totals and the oracle's fields, and then walks the
window.  Nothing is captured when the walk never comes back. -/
def Capture.read (config : Config) (live : Inspector) (trigger : Trigger)
    (pivot window recovery : Handle) (cycle : UInt64) : Except Fault (Option Capture) := do
  let names := config.names
  let pivot ← Op.read live names pivot
  let fetchAddr ← live.scalarAt recovery names.recoveryFetchAddr
  let windowTotal ← live.scalarAt window names.windowCount
  let rsTotal ← live.scalarAt window names.rsCount
  let oracle ←
    if config.columns.oracle then (OracleColumns.read live names pivot.handle).map some
    else pure none
  let census ← ((config.walker live).classifyWindow window pivot.handle cycle).sequence
  return census.map fun census =>
    { trigger, pivot, cycle, fetchAddr := ⟨fetchAddr⟩, windowTotal, rsTotal, oracle, census }

/-- What was captured is what an event shows, if the walk comes back. -/
def Sighting.ofCapture? (capture : Option Capture) : Sighting :=
  capture.elim .endless .captured

namespace Event

/-- What the detection of a misprediction shows. -/
def sightMispredict (config : Config) (live : Inspector) : Except Fault Sighting := do
  let names := config.names
  let op ← live.resolveObject names.currentOp
  let window ← live.resolveObject names.window
  let cycle ← live.resolveScalar names.cycleCount
  let recovery ← live.resolveObject names.recoveryInfo
  if config.general.cycleWindow.contains cycle then
    let recoveryCycle ← live.scalarAt recovery names.recoveryCycle
    let capture ← Capture.read config live (.mispredict recoveryCycle) op window recovery cycle
    return .ofCapture? capture
  else
    return .outside cycle

/-- What the end of a recovery shows. -/
def sightRecoveryEnd (config : Config) (live : Inspector) : Except Fault Sighting := do
  let names := config.names
  let recovery ← live.resolveObject names.recoveryInfo
  let op ← live.objectAt recovery names.recoveryOp
  let window ← live.resolveObject names.window
  let cycle ← live.resolveScalar names.cycleCount
  if config.general.cycleWindow.contains cycle then
    let capture ← Capture.read config live .recoveryEnd op window recovery cycle
    return .ofCapture? capture
  else
    return .outside cycle

/-- What an event shows. -/
def sight (event : Event) (config : Config) (live : Inspector) : Except Fault Sighting :=
  match event with
  | .mispredict => sightMispredict config live
  | .recoveryEnd => sightRecoveryEnd config live

/-- Counts an event at an address.  A detection is counted, and numbered with the new count; the
end of a recovery is numbered with the count as it stands. -/
def count (event : Event) (counters : Counters) (addr : Address) : Nat × Counters :=
  match event with
  | .mispredict =>
    let counters := counters.record addr
    (counters.count addr, counters)
  | .recoveryEnd => (counters.count addr, counters)

end Event

end Inflight
