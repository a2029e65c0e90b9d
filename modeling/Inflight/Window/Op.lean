import Inflight.Address
import Inflight.Config
import Inflight.Live.Inspector
import Inflight.Window.State

/-!
# Ops in flight

One op of the window, read field by field under the configured names.  The order
of the reads matters only to which fault is told when several fields are bad.
-/

namespace Inflight

set_option autoImplicit false

/-- What a record needs to know of one op in flight. -/
structure Op where
  handle : Handle
  addr : Address
  opNum : UInt64
  /-- Whether the op was fetched down a wrong path. -/
  offPath : Bool
  state : State
  /-- The cycle at which the op completed; 0 when it has not. -/
  doneCycle : UInt64
  /-- The next op in program order. -/
  next : Option Handle
deriving DecidableEq, Repr

namespace Op

/-- Reads the op behind a handle. -/
def read (live : Inspector) (names : Names) (handle : Handle) : Except Fault Op := do
  let addr ← live.scalarAt handle names.opAddr
  let opNum ← live.scalarAt handle names.opNum
  let offPath ← live.scalarAt handle names.opOffPath
  let encoding ← live.scalarAt handle names.opState
  let state ← State.decode encoding
  let doneCycle ← live.scalarAt handle names.opDoneCycle
  let next ← live.linkAt handle names.opNext
  return { handle, addr := ⟨addr⟩, opNum, offPath := offPath != 0, state, doneCycle, next }

/-- Whether the op had completed by a cycle.  A completion cycle of 0 stands for none, so such
an op never has. -/
def committedBy (op : Op) (cycle : UInt64) : Bool :=
  1 ≤ op.doneCycle && op.doneCycle ≤ cycle

end Op

end Inflight
