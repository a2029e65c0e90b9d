import Inflight.Fault

/-!
# Scheduling states

An op in flight is in one of thirteen scheduling states.  The simulator encodes
them by their position in the order below, and no other encoding exists.
-/

namespace Inflight

set_option autoImplicit false

/-- Where an op in flight stands on its way through the scheduler. -/
inductive State where
  /-- Fetched, and waiting to issue. -/
  | fetched
  /-- Issued into the reorder buffer. -/
  | issued
  /-- In the scheduling window, waiting for its sources. -/
  | inRs
  /-- Scheduled in the pipeline, to wake up in the next cycle. -/
  | sleep
  /-- Waiting for a forwarded value. -/
  | waitFwd
  /-- Waiting for a forwarded value at low priority. -/
  | lowPriority
  /-- Ready to fire, and waiting to be scheduled. -/
  | ready
  /-- Scheduled, though it may fail and be scheduled again. -/
  | tentative
  /-- Scheduled, and sure to complete. -/
  | scheduled
  /-- Missed in the data cache. -/
  | miss
  /-- Waiting for its turn at the data cache. -/
  | waitDcache
  /-- Waiting for an entry of the miss buffer. -/
  | waitMem
  /-- Executed, and waiting to retire. -/
  | done
deriving DecidableEq, Repr

namespace State

/-- The states in the order of their encodings. -/
def all : List State :=
  [.fetched, .issued, .inRs, .sleep, .waitFwd, .lowPriority, .ready, .tentative, .scheduled,
   .miss, .waitDcache, .waitMem, .done]

/-- The encoding of a state. -/
def encoding : State → UInt64
  | .fetched => 0
  | .issued => 1
  | .inRs => 2
  | .sleep => 3
  | .waitFwd => 4
  | .lowPriority => 5
  | .ready => 6
  | .tentative => 7
  | .scheduled => 8
  | .miss => 9
  | .waitDcache => 10
  | .waitMem => 11
  | .done => 12

/-- The state with a given encoding. -/
def decode (encoding : UInt64) : Except Fault State :=
  match all[encoding.toNat]? with
  | some state => .ok state
  | none => .error (.unknownState encoding)

/-- Every state is read back from its encoding. -/
theorem decode_encoding (state : State) : decode state.encoding = .ok state := by
  cases state <;> rfl

end State

end Inflight
