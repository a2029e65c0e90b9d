import Inflight.Config
import Inflight.Json.Reader
import Inflight.Json.Value
import Inflight.Fault

/-!
# Configuration documents

A configuration is read from a document in which every field has a default, so
any part of it may be left out.  It is written with all fields in their order.
-/

namespace Inflight

set_option autoImplicit false

open Json (Field Reader Shape)

/-! ## Reading -/

/-- The shape of a range of cycles. -/
def CycleWindow.shape : Shape CycleWindow where
  title := "struct CycleWindow"
  blank := {}
  fields :=
    [.defaulted "start" (Reader.word "u64") fun start window => { window with start },
     .defaulted "stop" (Reader.word "u64") fun stop window => { window with stop }]

/-- The shape of the general part. -/
def General.shape : Shape General where
  title := "struct GeneralConfig"
  blank := {}
  fields :=
    [.defaulted "cycle_window" CycleWindow.shape.read
       fun cycleWindow general => { general with cycleWindow },
     .defaulted "max_walk" (Reader.word "usize").optional
       fun maxWalk general => { general with maxWalk }]

/-- The shape of the names. -/
def Names.shape : Shape Names where
  title := "struct NameConfig"
  blank := {}
  fields :=
    [.defaulted "current_op" Reader.text fun currentOp names => { names with currentOp },
     .defaulted "window" Reader.text fun window names => { names with window },
     .defaulted "cycle_count" Reader.text fun cycleCount names => { names with cycleCount },
     .defaulted "recovery_info" Reader.text fun recoveryInfo names => { names with recoveryInfo },
     .defaulted "op_addr" Reader.text fun opAddr names => { names with opAddr },
     .defaulted "op_num" Reader.text fun opNum names => { names with opNum },
     .defaulted "op_off_path" Reader.text fun opOffPath names => { names with opOffPath },
     .defaulted "op_state" Reader.text fun opState names => { names with opState },
     .defaulted "op_done_cycle" Reader.text fun opDoneCycle names => { names with opDoneCycle },
     .defaulted "op_next" Reader.text fun opNext names => { names with opNext },
     .defaulted "window_head" Reader.text fun windowHead names => { names with windowHead },
     .defaulted "window_count" Reader.text fun windowCount names => { names with windowCount },
     .defaulted "rs_count" Reader.text fun rsCount names => { names with rsCount },
     .defaulted "recovery_cycle" Reader.text
       fun recoveryCycle names => { names with recoveryCycle },
     .defaulted "recovery_fetch_addr" Reader.text
       fun recoveryFetchAddr names => { names with recoveryFetchAddr },
     .defaulted "recovery_op" Reader.text fun recoveryOp names => { names with recoveryOp },
     .defaulted "op_mispred" Reader.text fun opMispred names => { names with opMispred },
     .defaulted "op_misfetch" Reader.text fun opMisfetch names => { names with opMisfetch },
     .defaulted "op_pred_conf" Reader.text fun opPredConf names => { names with opPredConf },
     .defaulted "op_pred_conf_index" Reader.text
       fun opPredConfIndex names => { names with opPredConfIndex },
     .defaulted "op_npc" Reader.text fun opNpc names => { names with opNpc },
     .defaulted "conf_counters" Reader.text fun confCounters names => { names with confCounters }]

/-- The shape of the optional columns. -/
def Columns.shape : Shape Columns where
  title := "struct RecordConfig"
  blank := {}
  fields :=
    [.defaulted "miss_column" Reader.boolean fun miss columns => { columns with miss },
     .defaulted "oracle_columns" Reader.boolean fun oracle columns => { columns with oracle }]

/-- The shape of a configuration. -/
def Config.shape : Shape Config where
  title := "struct Config"
  blank := {}
  fields :=
    [.defaulted "general" General.shape.read fun general config => { config with general },
     .defaulted "names" Names.shape.read fun names config => { config with names },
     .defaulted "record" Columns.shape.read fun columns config => { config with columns }]

/-- Reads a configuration from the text of a document. -/
def Config.ofText (text : String) : Except Fault Config :=
  (Reader.ofText Config.shape.read text).mapError .document

/-! ## Writing -/

/-- The document of the general part. -/
def General.document (general : General) : Json.Value :=
  .object
    [("cycle_window", .object
       [("start", .natural general.cycleWindow.start.toNat),
        ("stop", .natural general.cycleWindow.stop.toNat)]),
     ("max_walk", general.maxWalk.elim .null fun limit => .natural limit.toNat)]

/-- The document of the names. -/
def Names.document (names : Names) : Json.Value :=
  .object
    [("current_op", .text names.currentOp),
     ("window", .text names.window),
     ("cycle_count", .text names.cycleCount),
     ("recovery_info", .text names.recoveryInfo),
     ("op_addr", .text names.opAddr),
     ("op_num", .text names.opNum),
     ("op_off_path", .text names.opOffPath),
     ("op_state", .text names.opState),
     ("op_done_cycle", .text names.opDoneCycle),
     ("op_next", .text names.opNext),
     ("window_head", .text names.windowHead),
     ("window_count", .text names.windowCount),
     ("rs_count", .text names.rsCount),
     ("recovery_cycle", .text names.recoveryCycle),
     ("recovery_fetch_addr", .text names.recoveryFetchAddr),
     ("recovery_op", .text names.recoveryOp),
     ("op_mispred", .text names.opMispred),
     ("op_misfetch", .text names.opMisfetch),
     ("op_pred_conf", .text names.opPredConf),
     ("op_pred_conf_index", .text names.opPredConfIndex),
     ("op_npc", .text names.opNpc),
     ("conf_counters", .text names.confCounters)]

/-- The document of the optional columns. -/
def Columns.document (columns : Columns) : Json.Value :=
  .object
    [("miss_column", .boolean columns.miss),
     ("oracle_columns", .boolean columns.oracle)]

/-- The document of a configuration. -/
def Config.document (config : Config) : Json.Value :=
  .object
    [("general", config.general.document),
     ("names", config.names.document),
     ("record", config.columns.document)]

end Inflight
