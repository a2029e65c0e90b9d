/-!
# Configuration

What a session is told about the simulator and about the records to write: the
cycles in which events count, a bound on walks, the names under which live
values are found, and the optional columns of a record.  The defaults name the
values as a stock simulator does.
-/

namespace Inflight

set_option autoImplicit false

/-- A range of cycles, both ends included.  It is empty when it starts after its end. -/
structure CycleWindow where
  start : UInt64 := 0
  stop : UInt64 := 18446744073709551615
deriving DecidableEq, Repr

/-- Whether a cycle lies in the range. -/
def CycleWindow.contains (window : CycleWindow) (cycle : UInt64) : Bool :=
  window.start ≤ cycle && cycle ≤ window.stop

/-- Which events count, and how far a walk may go. -/
structure General where
  /-- The cycles in which events are recorded. -/
  cycleWindow : CycleWindow := {}
  /-- The greatest number of entries that a walk may visit; none when it may go on to the end
  of the list. -/
  maxWalk : Option UInt64 := none
deriving DecidableEq, Repr

/-- The names of live values.  The fields of ops, of the window and of a recovery are dotted
paths below their structure. -/
structure Names where
  /-- The name of the op that triggered a misprediction. -/
  currentOp : String := "op"
  /-- The name of the structure that holds the in-flight window. -/
  window : String := "node"
  /-- The name of the cycle counter. -/
  cycleCount : String := "cycle_count"
  /-- The name of the structure in which a recovery is kept. -/
  recoveryInfo : String := "bp_recovery_info"
  /-- Of an op: its instruction address. -/
  opAddr : String := "inst_info.addr"
  /-- Of an op: its sequence number. -/
  opNum : String := "op_num"
  /-- Of an op: whether it was fetched down a wrong path. -/
  opOffPath : String := "off_path"
  /-- Of an op: the encoding of its scheduling state. -/
  opState : String := "state"
  /-- Of an op: the cycle at which it completed. -/
  opDoneCycle : String := "done_cycle"
  /-- Of an op: the next op in program order. -/
  opNext : String := "next_node"
  /-- Of the window: its oldest op. -/
  windowHead : String := "node_head"
  /-- Of the window: how many ops it holds. -/
  windowCount : String := "node_count"
  /-- Of the window: how many ops its scheduling part holds. -/
  rsCount : String := "rs.rs_op_count"
  /-- Of a recovery: the cycle at which it ends. -/
  recoveryCycle : String := "recovery_cycle"
  /-- Of a recovery: the address that is fetched next. -/
  recoveryFetchAddr : String := "recovery_fetch_addr"
  /-- Of a recovery: the op whose misprediction is recovered. -/
  recoveryOp : String := "recovery_op"
  /-- Of an op: the oracle's flag for a wrong direction or target. -/
  opMispred : String := "oracle_info.mispred"
  /-- Of an op: the oracle's flag for a misfetch. -/
  opMisfetch : String := "oracle_info.misfetch"
  /-- Of an op: the confidence of its prediction. -/
  opPredConf : String := "oracle_info.pred_conf"
  /-- Of an op: its place in the confidence table. -/
  opPredConfIndex : String := "oracle_info.pred_conf_index"
  /-- Of an op: the correct next address. -/
  opNpc : String := "oracle_info.npc"
  /-- The name of the confidence table; its elements are fields named by their decimal place. -/
  confCounters : String := "bpc_ctr_table"
deriving DecidableEq, Repr

/-- The optional columns of a record. -/
structure Columns where
  /-- Whether the window line counts the ops that wait on a cache miss. -/
  miss : Bool := false
  /-- Whether the first line tells what the branch oracle knows of the op. -/
  oracle : Bool := false
deriving DecidableEq, Repr

/-- All that a session is configured with. -/
structure Config where
  /-- Which events count, and how far a walk may go. -/
  general : General := {}
  names : Names := {}
  columns : Columns := {}
deriving DecidableEq, Repr

instance : Inhabited Config := ⟨{}⟩

end Inflight
