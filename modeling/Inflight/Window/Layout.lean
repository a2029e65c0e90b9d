import Inflight.Snapshot.Basic
import Inflight.Window.Oracle
import Inflight.Window.State

/-!
# Laying out a window

A layout builds the snapshot that a stopped simulator would show: a window with
its list of ops, the cycle counter and the structure in which a recovery is
kept, under the configured names.  Ops are appended at the young end.

A failing step keeps what it had already written.  An op is linked into the list
only after all its fields are written, so one that fails is in no list.
-/

namespace Inflight

set_option autoImplicit false

/-- The field values of one op. -/
structure OpSpec where
  addr : Address := ⟨0⟩
  opNum : UInt64 := 0
  /-- Whether the op was fetched down a wrong path. -/
  offPath : Bool := false
  state : State := .issued
  /-- The cycle at which the op completed; 0 when it has not. -/
  doneCycle : UInt64 := 0
  /-- The oracle's fields; none when the op is to have none. -/
  oracle : Option Oracle := none
deriving DecidableEq, Repr

/-- The writes that give an op the oracle's fields. -/
def Oracle.writes (oracle : Oracle) (names : Names) (op : Handle) :
    List (Handle × String × Slot) :=
  [(op, names.opMispred, .flag (oracle.prediction == .mispredict)),
   (op, names.opMisfetch, .flag (oracle.prediction == .misfetch)),
   (op, names.opPredConf, .scalar oracle.predConf),
   (op, names.opPredConfIndex, .scalar oracle.confIndex),
   (op, names.opNpc, .scalar oracle.target.word)]

/-- The writes that give an op its fields, with no op after it. -/
def OpSpec.writes (spec : OpSpec) (names : Names) (op : Handle) :
    List (Handle × String × Slot) :=
  [(op, names.opAddr, .scalar spec.addr.word),
   (op, names.opNum, .scalar spec.opNum),
   (op, names.opOffPath, .flag spec.offPath),
   (op, names.opState, .scalar spec.state.encoding),
   (op, names.opDoneCycle, .scalar spec.doneCycle),
   (op, names.opNext, .null)] ++
  spec.oracle.elim [] fun oracle => oracle.writes names op

/-- A snapshot under construction. -/
structure Layout where
  names : Names
  /-- What is built so far. -/
  snapshot : Snapshot
  window : Handle
  /-- The structure in which a recovery is kept. -/
  recovery : Handle
  /-- The ops, oldest first. -/
  ops : List Handle := []
  /-- The size of the scheduling window, when it is not to be counted. -/
  rsCount : Option UInt64 := none

namespace Layout

/-- The snapshot of an empty window at cycle 0 with an empty recovery, before the two pointers
in it are written; with the handles of the window and of the recovery. -/
def foundation (names : Names) : Handle × Handle × Snapshot :=
  let (window, snapshot) := Snapshot.alloc {} Table.empty
  let (recovery, snapshot) := snapshot.alloc Table.empty
  let snapshot := snapshot.setGlobal names.window (.ref window)
  let snapshot := snapshot.setGlobal names.recoveryInfo (.ref recovery)
  (window, recovery, snapshot.setGlobal names.cycleCount (.scalar 0))

/-- An empty window at cycle 0 with an empty recovery. -/
def new (names : Names) : Except Fault Layout :=
  let (window, recovery, snapshot) := foundation names
  match snapshot.setPaths
      [(window, names.windowHead, .null), (recovery, names.recoveryOp, .null)] with
  | (.error fault, _) => .error fault
  | (.ok (), snapshot) => .ok { names, snapshot, window, recovery }

variable (layout : Layout)

/-- The youngest op. -/
def tail : Option Handle := layout.ops.getLast?

/-- The write that links an op behind the youngest one, or makes it the head of an empty
window. -/
def linkWrite (op : Handle) : Handle × String × Slot :=
  match layout.tail with
  | some youngest => (youngest, layout.names.opNext, .ref op)
  | none => (layout.window, layout.names.windowHead, .ref op)

/-- Appends an op at the young end; gives its handle. -/
def push (spec : OpSpec) : Except Fault Handle × Layout :=
  let (op, snapshot) := layout.snapshot.alloc Table.empty
  match snapshot.setPaths (spec.writes layout.names op ++ [layout.linkWrite op]) with
  | (.error fault, snapshot) => (.error fault, { layout with snapshot })
  | (.ok (), snapshot) => (.ok op, { layout with snapshot, ops := layout.ops ++ [op] })

/-- Sets the cycle counter. -/
def setCycle (cycle : UInt64) : Layout :=
  { layout with snapshot := layout.snapshot.setGlobal layout.names.cycleCount (.scalar cycle) }

/-- Makes an op the current one, as at a detection. -/
def setCurrentOp (op : Handle) : Layout :=
  { layout with snapshot := layout.snapshot.setGlobal layout.names.currentOp (.ref op) }

/-- Fills the recovery. -/
def setRecovery (op : Option Handle) (fetchAddr : Address) (cycle : UInt64) :
    Except Fault Unit × Layout :=
  let (result, snapshot) := layout.snapshot.setPaths
    [(layout.recovery, layout.names.recoveryOp, .link op),
     (layout.recovery, layout.names.recoveryFetchAddr, .scalar fetchAddr.word),
     (layout.recovery, layout.names.recoveryCycle, .scalar cycle)]
  (result, { layout with snapshot })

/-- Sets the size of the scheduling window instead of counting its ops. -/
def setRsCount (count : UInt64) : Layout :=
  { layout with rsCount := some count }

/-- The confidence table with the given counters: each is a field named by its place. -/
def confTable (counters : List UInt64) : Fields :=
  Table.ofList (counters.zipIdx.map fun entry => (Text.decimal entry.2, .scalar entry.1))

/-- Gives the snapshot a confidence table. -/
def setConfCounters (counters : List UInt64) : Layout :=
  let (table, snapshot) := layout.snapshot.alloc (confTable counters)
  { layout with snapshot := snapshot.setGlobal layout.names.confCounters (.ref table) }

/-- Counts the given ops that are in the scheduling window, as their fields read back. -/
def countInRs : List Handle → Except Fault Nat
  | [] => .ok 0
  | op :: rest => do
    let encoding ← layout.snapshot.inspector.scalarAt op layout.names.opState
    let state ← State.decode encoding
    let count ← countInRs rest
    return if state = .inRs then count + 1 else count

/-- The size of the scheduling window. -/
def rsTotal : Except Fault UInt64 :=
  match layout.rsCount with
  | some count => .ok count
  | none => (layout.countInRs layout.ops).map UInt64.ofNat

/-- Writes the sizes of the window and of its scheduling part; gives the snapshot. -/
def build : Except Fault Snapshot := do
  let rsTotal ← layout.rsTotal
  match layout.snapshot.setPaths
      [(layout.window, layout.names.windowCount, .scalar (UInt64.ofNat layout.ops.length)),
       (layout.window, layout.names.rsCount, .scalar rsTotal)] with
  | (.error fault, _) => .error fault
  | (.ok (), snapshot) => .ok snapshot

end Layout

end Inflight
