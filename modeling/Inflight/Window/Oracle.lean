import Inflight.Address
import Inflight.Config
import Inflight.Live.Inspector

/-!
# What the branch oracle knows

The simulator knows in advance how each branch ends, and keeps beside the op
what it knows: whether the prediction was wrong, how confident the predictor
was, and where the program really goes on.
-/

namespace Inflight

set_option autoImplicit false

/-- How a branch was predicted. -/
inductive Prediction where
  /-- The direction or the target was wrong. -/
  | mispredict
  /-- The target was not known when the branch was fetched. -/
  | misfetch
  | correct
deriving DecidableEq, Repr

/-- The four characters that stand for a prediction in a record. -/
def Prediction.tag : Prediction → String
  | .mispredict => "MISP"
  | .misfetch => "MISF"
  | .correct => "----"

/-- The oracle's fields of one op. -/
structure Oracle where
  /-- How the branch was predicted. -/
  prediction : Prediction
  /-- The confidence of the predictor. -/
  predConf : UInt64
  /-- The place of the op's counter in the confidence table. -/
  confIndex : UInt64
  target : Address
deriving DecidableEq, Repr

namespace Oracle

/-- Reads how the branch behind a handle was predicted.  A misprediction takes precedence: the
flag for a misfetch is read only when there is none. -/
def readPrediction (live : Inspector) (names : Names) (handle : Handle) :
    Except Fault Prediction := do
  let mispred ← live.scalarAt handle names.opMispred
  if mispred ≠ 0 then
    return .mispredict
  let misfetch ← live.scalarAt handle names.opMisfetch
  return if misfetch ≠ 0 then .misfetch else .correct

/-- Reads the oracle's fields of the op behind a handle. -/
def read (live : Inspector) (names : Names) (handle : Handle) : Except Fault Oracle := do
  let prediction ← readPrediction live names handle
  let predConf ← live.scalarAt handle names.opPredConf
  let confIndex ← live.scalarAt handle names.opPredConfIndex
  let target ← live.scalarAt handle names.opNpc
  return { prediction, predConf, confIndex, target := ⟨target⟩ }

/-- Reads the counter of the op in the confidence table. -/
def confCounter (oracle : Oracle) (live : Inspector) (names : Names) : Except Fault UInt64 := do
  let table ← live.resolveObject names.confCounters
  live.scalarAt table (Text.decimal oracle.confIndex.toNat)

end Oracle

end Inflight
