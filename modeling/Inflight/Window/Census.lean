import Inflight.Window.Op

/-!
# The census of a window

A census counts the ops of a window around one of them, the pivot.  The ops on
either side of the pivot are counted as committed or pending; ops that wait in
the scheduling window or on a cache miss are counted by path, the pivot among
them.  As long as the pivot has not been seen, an op counts as standing before
it.
-/

namespace Inflight

set_option autoImplicit false

/-- The counts of one walk over a window. -/
structure Census where
  /-- Older than the pivot, and completed. -/
  committedBefore : Nat := 0
  /-- Older than the pivot, and not completed. -/
  pendingBefore : Nat := 0
  /-- Younger than the pivot, and completed. -/
  committedAfter : Nat := 0
  /-- Younger than the pivot, and not completed. -/
  pendingAfter : Nat := 0
  /-- On the right path, in the scheduling window. -/
  rsOnPath : Nat := 0
  /-- On a wrong path, in the scheduling window. -/
  rsOffPath : Nat := 0
  /-- On the right path, waiting on a cache miss. -/
  missOnPath : Nat := 0
  /-- On a wrong path, waiting on a cache miss. -/
  missOffPath : Nat := 0
  /-- Whether the pivot was seen. -/
  pivotFound : Bool := false
  /-- All ops seen, the pivot included. -/
  visited : Nat := 0
deriving DecidableEq, Repr

namespace Census

/-- Counts an op that waits in the scheduling window or on a cache miss. -/
def countWaiting (census : Census) (op : Op) : Census :=
  match op.state, op.offPath with
  | .inRs, true => { census with rsOffPath := census.rsOffPath + 1 }
  | .inRs, false => { census with rsOnPath := census.rsOnPath + 1 }
  | .miss, true => { census with missOffPath := census.missOffPath + 1 }
  | .miss, false => { census with missOnPath := census.missOnPath + 1 }
  | _, _ => census

/-- Counts an op other than the pivot on its side. -/
def countSide (census : Census) (committed : Bool) : Census :=
  match census.pivotFound, committed with
  | false, true => { census with committedBefore := census.committedBefore + 1 }
  | false, false => { census with pendingBefore := census.pendingBefore + 1 }
  | true, true => { census with committedAfter := census.committedAfter + 1 }
  | true, false => { census with pendingAfter := census.pendingAfter + 1 }

/-- Counts one more op of the window. -/
def observe (census : Census) (op : Op) (pivot : Handle) (cycle : UInt64) : Census :=
  let census := { census with visited := census.visited + 1 }.countWaiting op
  if op.handle = pivot then { census with pivotFound := true }
  else census.countSide (op.committedBy cycle)

/-- The ops before the pivot. -/
def before (census : Census) : Nat := census.committedBefore + census.pendingBefore

/-- The ops after the pivot. -/
def after (census : Census) : Nat := census.committedAfter + census.pendingAfter

/-- The ops on either side of the pivot. -/
def siblings (census : Census) : Nat := census.before + census.after

/-- The ops in the scheduling window. -/
def rsSeen (census : Census) : Nat := census.rsOnPath + census.rsOffPath

end Census

end Inflight
