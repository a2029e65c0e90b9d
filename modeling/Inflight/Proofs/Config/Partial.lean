import Inflight.Config.Document
import Inflight.Proofs.Json.Schema

/-!
# Configurations that are given in part

A configuration is told by its leaves: the values that stand in its document under
rows of keys such as `general`, `cycle_window`, `start`.  Where a leaf is given its
value counts, and elsewhere the default (`Config.told`).  A record whose document is
left out has no leaves, as one whose document is empty.

Each record takes on the values of the fields that are given, at any depth that a
document may have (`CycleWindow.takes`, `General.takes`, `Names.takes`,
`Columns.takes`, `Config.takes`).  So a document in which every known field is given
at most once and with a value of its kind is read, whatever stands between its fields
and in whatever order they come, and only its leaves count (`Config.ofText_given`).
-/

namespace Inflight

set_option autoImplicit false

open Json (Document Field Kind Node Reader Shape maxLevels)

/-! ## The records with the fields that are given -/

/-- The fields of a range of cycles. -/
def CycleWindow.kinds : List (String × Kind) :=
  [("start", .word), ("stop", .word)]

/-- A range of cycles with the given fields, and the others from another range. -/
def CycleWindow.given (window : CycleWindow) (value? : String → Option Node) : CycleWindow where
  start := ((value? "start").bind Node.word?).getD window.start
  stop := ((value? "stop").bind Node.word?).getD window.stop

/-- The fields of the general part. -/
def General.kinds : List (String × Kind) :=
  [("cycle_window", .record CycleWindow.kinds), ("max_walk", .limit)]

/-- A general part with the given fields.  A range of cycles is built up from the default. -/
def General.given (general : General) (value? : String → Option Node) : General where
  cycleWindow := (value? "cycle_window").elim general.cycleWindow fun node =>
    CycleWindow.given {} fun name => node.at? [name]
  maxWalk := ((value? "max_walk").bind Node.limit?).getD general.maxWalk

/-- The fields of the names, all of which are texts. -/
def Names.kinds : List (String × Kind) :=
  ["current_op", "window", "cycle_count", "recovery_info", "op_addr", "op_num", "op_off_path",
    "op_state", "op_done_cycle", "op_next", "window_head", "window_count", "rs_count",
    "recovery_cycle", "recovery_fetch_addr", "recovery_op", "op_mispred", "op_misfetch",
    "op_pred_conf", "op_pred_conf_index", "op_npc", "conf_counters"].map fun name => (name, .text)

/-- The names with the given fields. -/
def Names.given (names : Names) (value? : String → Option Node) : Names where
  currentOp := ((value? "current_op").bind Node.text?).getD names.currentOp
  window := ((value? "window").bind Node.text?).getD names.window
  cycleCount := ((value? "cycle_count").bind Node.text?).getD names.cycleCount
  recoveryInfo := ((value? "recovery_info").bind Node.text?).getD names.recoveryInfo
  opAddr := ((value? "op_addr").bind Node.text?).getD names.opAddr
  opNum := ((value? "op_num").bind Node.text?).getD names.opNum
  opOffPath := ((value? "op_off_path").bind Node.text?).getD names.opOffPath
  opState := ((value? "op_state").bind Node.text?).getD names.opState
  opDoneCycle := ((value? "op_done_cycle").bind Node.text?).getD names.opDoneCycle
  opNext := ((value? "op_next").bind Node.text?).getD names.opNext
  windowHead := ((value? "window_head").bind Node.text?).getD names.windowHead
  windowCount := ((value? "window_count").bind Node.text?).getD names.windowCount
  rsCount := ((value? "rs_count").bind Node.text?).getD names.rsCount
  recoveryCycle := ((value? "recovery_cycle").bind Node.text?).getD names.recoveryCycle
  recoveryFetchAddr :=
    ((value? "recovery_fetch_addr").bind Node.text?).getD names.recoveryFetchAddr
  recoveryOp := ((value? "recovery_op").bind Node.text?).getD names.recoveryOp
  opMispred := ((value? "op_mispred").bind Node.text?).getD names.opMispred
  opMisfetch := ((value? "op_misfetch").bind Node.text?).getD names.opMisfetch
  opPredConf := ((value? "op_pred_conf").bind Node.text?).getD names.opPredConf
  opPredConfIndex := ((value? "op_pred_conf_index").bind Node.text?).getD names.opPredConfIndex
  opNpc := ((value? "op_npc").bind Node.text?).getD names.opNpc
  confCounters := ((value? "conf_counters").bind Node.text?).getD names.confCounters

/-- The fields of the optional columns. -/
def Columns.kinds : List (String × Kind) :=
  [("miss_column", .boolean), ("oracle_columns", .boolean)]

/-- The optional columns with the given fields. -/
def Columns.given (columns : Columns) (value? : String → Option Node) : Columns where
  miss := ((value? "miss_column").bind Node.boolean?).getD columns.miss
  oracle := ((value? "oracle_columns").bind Node.boolean?).getD columns.oracle

/-- The fields of a configuration. -/
def Config.kinds : List (String × Kind) :=
  [("general", .record General.kinds), ("names", .record Names.kinds),
    ("record", .record Columns.kinds)]

/-- A configuration with the given parts, each of which is built up from the default. -/
def Config.given (config : Config) (value? : String → Option Node) : Config where
  general := (value? "general").elim config.general fun node =>
    General.given {} fun name => node.at? [name]
  names := (value? "names").elim config.names fun node =>
    Names.given {} fun name => node.at? [name]
  columns := (value? "record").elim config.columns fun node =>
    Columns.given {} fun name => node.at? [name]

/-! ## Reading them -/

section Takes

variable (levels : Nat)

theorem CycleWindow.takes :
    CycleWindow.shape.Takes levels CycleWindow.kinds CycleWindow.given where
  nothing := fun _ => rfl
  alike := by
    intro window value? other? same
    simp only [shape, List.forall_mem_cons, Field.defaulted] at same
    simp only [given, same]
  fields := by
    refine .cons (.word ?_) (.cons (.word ?_) .nil)
    all_goals
      intro node value record value? spelled absent
      simp [given, spelled, absent]

theorem General.takes :
    General.shape.Takes (levels + 1) General.kinds General.given where
  nothing := fun _ => rfl
  alike := by
    intro general value? other? same
    simp only [shape, List.forall_mem_cons, Field.defaulted] at same
    simp only [given, same]
  fields := by
    refine .cons (.record (CycleWindow.takes levels) ?_) (.cons (.limit ?_) .nil)
    · intro node record value? absent
      simp [given, absent, CycleWindow.shape]
    · intro node value record value? spelled absent
      simp [given, spelled, absent]

theorem Names.takes :
    Names.shape.Takes levels Names.kinds Names.given where
  nothing := fun _ => rfl
  alike := by
    intro names value? other? same
    simp only [shape, List.forall_mem_cons, Field.defaulted] at same
    simp only [given, same]
  fields := by
    repeat' apply List.Forall₂.cons
    all_goals first | exact .nil | refine .text ?_
    all_goals
      intro node value record value? spelled absent
      simp [given, spelled, absent]

theorem Columns.takes :
    Columns.shape.Takes levels Columns.kinds Columns.given where
  nothing := fun _ => rfl
  alike := by
    intro columns value? other? same
    simp only [shape, List.forall_mem_cons, Field.defaulted] at same
    simp only [given, same]
  fields := by
    refine .cons (.boolean ?_) (.cons (.boolean ?_) .nil)
    all_goals
      intro node value record value? spelled absent
      simp [given, spelled, absent]

theorem Config.takes :
    Config.shape.Takes (levels + 2) Config.kinds Config.given where
  nothing := fun _ => rfl
  alike := by
    intro config value? other? same
    simp only [shape, List.forall_mem_cons, Field.defaulted] at same
    simp only [given, same]
  fields := by
    refine .cons (.record (General.takes levels) ?_)
      (.cons (.record (Names.takes (levels + 1)) ?_)
        (.cons (.record (Columns.takes (levels + 1)) ?_) .nil))
    all_goals
      intro node record value? absent
      simp [given, absent, General.shape, Names.shape, Columns.shape]

end Takes

/-! ## Leaves -/

namespace Config

/-- The rows of keys under which the values of a configuration stand. -/
def leaves : List (List String) :=
  [["general", "cycle_window", "start"], ["general", "cycle_window", "stop"],
    ["general", "max_walk"]] ++
  Names.kinds.map (fun entry => ["names", entry.1]) ++
  Columns.kinds.map (fun entry => ["record", entry.1])

/-- The default configuration with the leaves that are given in place of its own. -/
def told (leaf? : List String → Option Node) : Config where
  general :=
    { cycleWindow := CycleWindow.given {} fun name => leaf? ["general", "cycle_window", name]
      maxWalk := ((leaf? ["general", "max_walk"]).bind Node.limit?).getD none }
  names := Names.given {} fun name => leaf? ["names", name]
  columns := Columns.given {} fun name => leaf? ["record", name]

theorem told_congr {leaf? other? : List String → Option Node}
    (same : ∀ path ∈ leaves, leaf? path = other? path) : told leaf? = told other? := by
  simp only [leaves, List.forall_mem_append, List.forall_mem_cons, List.forall_mem_map] at same
  obtain ⟨⟨⟨start, stop, maxWalk, -⟩, names⟩, columns⟩ := same
  have sameNames : Names.given {} (fun name => leaf? ["names", name]) =
      Names.given {} (fun name => other? ["names", name]) := by
    refine (Names.takes 0).alike fun field member => ?_
    obtain ⟨entry, listed, takesField⟩ := (Names.takes 0).field field member
    rw [takesField.name, names entry listed]
  have sameColumns : Columns.given {} (fun name => leaf? ["record", name]) =
      Columns.given {} (fun name => other? ["record", name]) := by
    refine (Columns.takes 0).alike fun field member => ?_
    obtain ⟨entry, listed, takesField⟩ := (Columns.takes 0).field field member
    rw [takesField.name, columns entry listed]
  simp only [told, CycleWindow.given, start, stop, maxWalk, sameNames, sameColumns]

/-- What is built up record by record is told by the leaves alone. -/
theorem given_eq_told (root : Node) : given {} (fun name => root.at? [name]) = told root.at? := by
  have general : (root.at? ["general"]).elim {}
      (fun node => General.given {} fun name => node.at? [name]) = (told root.at?).general := by
    simp only [told, Node.at?_cons root]
    cases root.at? ["general"] with
    | none => rfl
    | some node =>
      simp only [Option.elim_some, Option.bind_some, General.given, Node.at?_cons node]
      cases node.at? ["cycle_window"] <;> rfl
  have names : (root.at? ["names"]).elim {}
      (fun node => Names.given {} fun name => node.at? [name]) = (told root.at?).names := by
    simp only [told, Node.at?_cons root]
    cases root.at? ["names"] <;> rfl
  have columns : (root.at? ["record"]).elim {}
      (fun node => Columns.given {} fun name => node.at? [name]) = (told root.at?).columns := by
    simp only [told, Node.at?_cons root]
    cases root.at? ["record"] <;> rfl
  rw [given, general, names, columns]

/-- **A configuration is the default with the leaves that its document gives.**  The document is
read when each of its known fields is given at most once and with a value of its kind; the order
of the fields, unknown ones between them, and the difference between a record that is left out
and an empty one do not count. -/
theorem ofText_given {text : String} {root : Node} (document : Document.ofText text = ⟨root, true⟩)
    (admitted : (Kind.record kinds).Admits root) :
    ofText text = .ok (told root.at?) ∧
      ∀ {other : String} {node : Node}, Document.ofText other = ⟨node, true⟩ →
        (Kind.record kinds).Admits node → (∀ path ∈ leaves, node.at? path = root.at? path) →
          ofText other = ofText text := by
  have reads : ∀ {text : String} {root : Node}, Document.ofText text = ⟨root, true⟩ →
      (Kind.record kinds).Admits root → ofText text = .ok (told root.at?) := by
    intro text root document admitted
    have read : shape.read maxLevels root = .ok (told root.at?) :=
      ((takes 124).read admitted).trans (congrArg Except.ok (given_eq_told root))
    rw [ofText, Reader.ofText_of_document document, read]
    rfl
  refine ⟨reads document admitted, fun document' admitted' same => ?_⟩
  rw [reads document admitted, reads document' admitted', told_congr same]

namespace Interleaved

/-- A range of cycles of which only the end is given. -/
def window : Node :=
  .object (.ofList
    [("y", .number { negative := true, whole := ['1'] }),
      ("stop", .number { negative := false, whole := ['9', '0', '0'] })])

/-- A general part with no bound. -/
def general : Node :=
  .object (.ofList [("max_walk", .null), ("cycle_window", window)])

/-- The columns before the general part, empty names, and an unknown member with values that no
reader takes. -/
def root : Node :=
  .object (.ofList
    [("names", .object (.ofList [])),
      ("x", .array (.ofList
        [.number { negative := false, whole := ['1'], exponent := (false, ['9', '9', '9']) },
          .text none])),
      ("record", .object (.ofList [("miss_column", .boolean true)])),
      ("general", general)])

theorem root_admitted : (Kind.record kinds).Admits root := by
  have ofWindow : (Kind.record CycleWindow.kinds).Admits window := by
    refine .ofMembers (by decide) (by simp [CycleWindow.kinds]) ?_
    simp only [List.forall_mem_cons]
    exact ⟨.inr ⟨by decide, rfl⟩, .inl ⟨.word, by simp [CycleWindow.kinds], .word rfl⟩, by simp⟩
  have ofGeneral : (Kind.record General.kinds).Admits general := by
    refine .ofMembers (by decide) (by simp) ?_
    simp only [List.forall_mem_cons]
    exact ⟨.inl ⟨.limit, by simp [General.kinds], .limit rfl⟩,
      .inl ⟨_, by simp [General.kinds], ofWindow⟩, by simp⟩
  have ofColumns : (Kind.record Columns.kinds).Admits
      (.object (.ofList [("miss_column", .boolean true)])) := by
    refine .ofMembers (by decide) (by simp) ?_
    simp only [List.forall_mem_cons]
    exact ⟨.inl ⟨.boolean, by simp [Columns.kinds], .boolean rfl⟩, by simp⟩
  have ofNames : (Kind.record Names.kinds).Admits (.object (.ofList [])) :=
    .ofMembers (by decide) (by simp) (by simp)
  refine .ofMembers (by decide) (by simp) ?_
  simp only [List.forall_mem_cons]
  exact ⟨.inl ⟨_, by simp [kinds], ofNames⟩, .inr ⟨by decide, rfl⟩,
    .inl ⟨_, by simp [kinds], ofColumns⟩, .inl ⟨_, by simp [kinds], ofGeneral⟩, by simp⟩

end Interleaved

/-- Of this document only the end of the range and the column count. -/
theorem ofText_given_interleaved :
    ofText ("\x7b\"names\":\x7b\x7d,\"x\":[1e999,\"\\ud800\"]," ++
        "\"record\":\x7b\"miss_column\":true\x7d,\"general\":\x7b\"max_walk\":null," ++
        "\"cycle_window\":\x7b\"y\":-1,\"stop\":900\x7d\x7d\x7d") =
      .ok { general := { cycleWindow := { stop := 900 } }, columns := { miss := true } } :=
  (@ofText_given _ Interleaved.root (by decide +kernel) Interleaved.root_admitted).1

end Config

end Inflight
