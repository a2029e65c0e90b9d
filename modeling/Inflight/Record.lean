import Inflight.Window.Census
import Inflight.Window.Oracle

/-!
# Records

A record is what one event leaves behind: the pivot, the census around it and
the totals that the simulator reports.  It is written as four lines.  Readers of
a log find their way by the literal words and by the left-justified columns, so
the layout is fixed to the character.
-/

namespace Inflight

set_option autoImplicit false

/-- The trigger that a record tells of. -/
inductive Trigger where
  /-- A misprediction was detected; its recovery ends at a known cycle. -/
  | mispredict (recoveryCycle : UInt64)
  | recoveryEnd
deriving DecidableEq, Repr

/-- The word for the trigger at the front of a record. -/
def Trigger.tag : Trigger → String
  | .mispredict _ => "Mispred"
  | .recoveryEnd => "Recovery End"

/-- What the oracle knows of the pivot, with the pivot's confidence counter. -/
structure OracleColumns where
  oracle : Oracle
  /-- The pivot's counter in the confidence table. -/
  confCounter : UInt64
deriving DecidableEq, Repr

/-- One record. -/
structure Record where
  trigger : Trigger
  /-- The address of the mispredicted instruction. -/
  addr : Address
  /-- The number of detections at that address so far. -/
  ordinal : Nat
  cycle : UInt64
  /-- The sequence number of the pivot. -/
  opNum : UInt64
  /-- Whether the pivot itself is on a wrong path. -/
  offPath : Bool
  fetchAddr : Address
  census : Census
  /-- The size of the window, as the simulator reports it. -/
  windowTotal : UInt64
  /-- The size of the scheduling window, as the simulator reports it. -/
  rsTotal : UInt64
  /-- Whether the window line counts the ops that wait on a cache miss. -/
  missColumn : Bool
  /-- What the oracle knows of the pivot, when it is to be told. -/
  oracle : Option OracleColumns
deriving DecidableEq, Repr

namespace OracleColumns

/-- The end of the first line that tells what the oracle knows. -/
def text (columns : OracleColumns) : String :=
  " Mispred_Type:" ++ columns.oracle.prediction.tag ++
  " Conf:" ++ Text.decimal columns.oracle.predConf.toNat ++
  " (Counter:" ++ Text.decimal columns.confCounter.toNat ++
  ") Target:" ++ columns.oracle.target.text

end OracleColumns

namespace Record

variable (record : Record)

/-- The first line: the event and its pivot. -/
def headLine : String :=
  "[" ++ record.trigger.tag ++ " for PC " ++ record.addr.text ++
  " #" ++ Text.column 4 record.ordinal ++
  "] [Cycle " ++ Text.column 10 record.cycle.toNat ++
  "] op_num:" ++ Text.column 10 record.opNum.toNat ++
  " (off_path:" ++ (if record.offPath then "1" else "0") ++ ")" ++
  record.oracle.elim "" OracleColumns.text ++ "\n"

/-- The second line: where the program goes on. -/
def fetchLine : String :=
  "  Next Fetch Addr: " ++ record.fetchAddr.text ++
  (match record.trigger with
   | .mispredict recoveryCycle =>
     ", Recovery Ends at Cycle: " ++ Text.column 10 recoveryCycle.toNat
   | .recoveryEnd => "") ++ "\n"

/-- The part of the third line that counts the ops on a cache miss. -/
def missText : String :=
  " | Miss (Off:" ++ Text.column 3 record.census.missOffPath ++
  ", On:" ++ Text.column 3 record.census.missOnPath ++ ")"

/-- The third line: the window on either side of the pivot. -/
def windowLine : String :=
  "  ROB state | Before op: Done=" ++ Text.column 3 record.census.committedBefore ++
  ", Pending=" ++ Text.column 3 record.census.pendingBefore ++
  " | After op: Done=" ++ Text.column 3 record.census.committedAfter ++
  ", Pending=" ++ Text.column 3 record.census.pendingAfter ++
  (if record.missColumn then record.missText else "") ++
  " | Total=" ++ Text.column 3 record.windowTotal.toNat ++ "\n"

/-- The fourth line: the scheduling window by path. -/
def rsLine : String :=
  "  RS non ready state  | Off-path ops: " ++ Text.column 3 record.census.rsOffPath ++
  ", On_path ops: " ++ Text.column 3 record.census.rsOnPath ++
  ", Total ops: " ++ Text.column 3 record.rsTotal.toNat ++ "\n"

/-- The four lines of a record. -/
def text : String :=
  record.headLine ++ record.fetchLine ++ record.windowLine ++ record.rsLine

/-- The layout of a record without optional columns. -/
example : text
    { trigger := .mispredict 1210, addr := ⟨0x4005D0⟩, ordinal := 3, cycle := 1200, opNum := 77,
      offPath := false, fetchAddr := ⟨0x400600⟩, windowTotal := 17, rsTotal := 11,
      missColumn := false, oracle := none,
      census := { committedBefore := 4, pendingBefore := 2, committedAfter := 1,
                  pendingAfter := 9, rsOnPath := 5, rsOffPath := 6 } } =
    "[Mispred for PC 0x4005d0 #3   ] [Cycle 1200      ] op_num:77         (off_path:0)\n" ++
    "  Next Fetch Addr: 0x400600, Recovery Ends at Cycle: 1210      \n" ++
    "  ROB state | Before op: Done=4  , Pending=2   | After op: Done=1  , Pending=9   " ++
    "| Total=17 \n" ++
    "  RS non ready state  | Off-path ops: 6  , On_path ops: 5  , Total ops: 11 \n" := by
  decide +kernel

end Record

end Inflight
